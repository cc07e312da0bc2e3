import CallGuard.Audit.Event

/-! # Replaying events on a policy

Of the events about a key only the last one counts: after a replay the key is an entry exactly if the last event about
it approved it, or there is none and it was an entry before (`mem_replay`). -/

namespace CallGuard.Policy

variable {p : Policy}

/-- The last of some events that is about a key. -/
def lastAbout? (key : Key) (events : List Event) : Option Event :=
  (events.filter fun e => e.key = key).getLast?

@[simp] theorem governance_apply (p : Policy) (what : Change) (key : Key) :
    (p.apply what key).governance = p.governance := by
  cases what <;> rfl

theorem mem_apply {what : Change} {key k : Key} :
    k ∈ p.apply what key ↔ if key = k then what = .approved else k ∈ p := by
  cases what with
  | approved =>
    rw [Policy.apply, mem_allow]
    split <;> simp_all [eq_comm]
  | removed =>
    rw [Policy.apply, mem_remove]
    split <;> simp_all [eq_comm]

@[simp] theorem replay_nil (p : Policy) : p.replay [] = p := rfl

@[simp] theorem replay_cons (p : Policy) (e : Event) (events : List Event) :
    p.replay (e :: events) = (p.apply e.change e.key).replay events := rfl

theorem replay_append (p : Policy) (xs ys : List Event) : p.replay (xs ++ ys) = (p.replay xs).replay ys :=
  List.foldl_append

theorem governance_replay (p : Policy) (events : List Event) : (p.replay events).governance = p.governance := by
  induction events generalizing p with
  | nil => rfl
  | cons e rest ih => rw [replay_cons, ih, governance_apply]

theorem lastAbout?_cons (key : Key) (e : Event) (events : List Event) :
    lastAbout? key (e :: events) =
      if e.key = key then some ((lastAbout? key events).getD e) else lastAbout? key events := by
  rw [lastAbout?, lastAbout?, List.filter_cons]
  split <;> simp_all [List.getLast?_cons]

theorem lastAbout?_eq_none {key : Key} {events : List Event} :
    lastAbout? key events = none ↔ ∀ e ∈ events, e.key ≠ key := by
  simp [lastAbout?]

/-- After a replay a key is an entry exactly if the last event about it approved it, or there is none and it was an
    entry before. -/
theorem mem_replay {events : List Event} {key : Key} :
    key ∈ p.replay events ↔
      (∃ e, lastAbout? key events = some e ∧ e.change = .approved) ∨ (∀ e ∈ events, e.key ≠ key) ∧ key ∈ p := by
  rw [← lastAbout?_eq_none]
  induction events generalizing p with
  | nil => simp [lastAbout?]
  | cons e rest ih =>
    rw [replay_cons, ih, lastAbout?_cons]
    by_cases he : e.key = key
    · -- The event decides on the key, unless a later one does.
      rw [if_pos he]
      cases lastAbout? key rest with
      | none => simp [mem_apply, he]
      | some e' => simp
    · rw [if_neg he, mem_apply, if_neg he]

theorem approved_or_mem {events : List Event} {key : Key} (h : key ∈ p.replay events) :
    (∃ e ∈ events, e.key = key ∧ e.change = .approved) ∨ key ∈ p := by
  obtain ⟨e, hlast, happroved⟩ | ⟨-, hmem⟩ := mem_replay.mp h
  · obtain ⟨he, hkey⟩ := List.mem_filter.mp (List.mem_of_getLast? hlast)
    exact .inl ⟨e, he, of_decide_eq_true hkey, happroved⟩
  · exact .inr hmem

/-- Removals alone make no entry. -/
theorem mem_of_mem_replay {events : List Event} {key : Key} (hremoved : ∀ e ∈ events, e.change = .removed)
    (h : key ∈ p.replay events) : key ∈ p := by
  refine (approved_or_mem h).resolve_left ?_
  rintro ⟨e, he, -, happroved⟩
  rw [hremoved e he] at happroved
  cases happroved

/-- Approvals alone take no entry away. -/
theorem mem_replay_of_approved {events : List Event} {key : Key} (happroved : ∀ e ∈ events, e.change = .approved) :
    key ∈ p.replay events ↔ (∃ e ∈ events, e.key = key) ∨ key ∈ p := by
  constructor
  · intro h
    obtain ⟨e, he, hkey, -⟩ | hmem := approved_or_mem h
    · exact .inl ⟨e, he, hkey⟩
    · exact .inr hmem
  · intro h
    rw [mem_replay]
    cases hlast : lastAbout? key events with
    | some e =>
      have he := (List.mem_filter.mp (List.mem_of_getLast? hlast)).1
      exact .inl ⟨e, rfl, happroved e he⟩
    | none =>
      have hnone := lastAbout?_eq_none.mp hlast
      refine .inr ⟨hnone, h.resolve_left ?_⟩
      rintro ⟨e, he, hkey⟩
      exact hnone e he hkey

end CallGuard.Policy
