import CallGuard.Proofs.Policy.Needs

/-! # Decisions after entries are granted

A refusal that names an entry names one that the policy lacks, and every other decision is made on the payload alone
(`Conclusive`). So a policy with more entries decides otherwise exactly where the entry that was named is among the new
ones (`authorize_ne_iff_of_granted`): no other decision changes. -/

namespace CallGuard.Decision
open Layout Outcome

/-- What is decided where no entry is missing: a call is let through, and a payload is refused if it has no selector,
    if its selector names no function or if its arguments are not those of the function. -/
inductive Conclusive (data : Bytes) : Except Violation Permission → Prop
  | allowed {c : Call} (h : Makes data c) : Conclusive data (.ok (.call c.function))
  | noSelector (h : data.length < 4) : Conclusive data (.error (.malformedCallData (.noSelector data.length)))
  | unknownSelector {s : Selector} {args : Bytes} (hdata : data = s.bytes ++ args) (h : ∀ f : Function, f.selector ≠ s) :
      Conclusive data (.error (.unknownSelector s))
  | undecodable {f : Function} {args : Bytes} {reason : Malformed} (hdata : data = f.selector.bytes ++ args)
      (h : ¬ Fits f args) (hreason : Call.decode f data = .error reason) :
      Conclusive data (.error (.malformedCallData reason))

variable {p q : Policy} {sender target : Address} {data : Bytes} {v : Violation} {key : Key}

theorem conclusive_verdict (data : Bytes) : Conclusive data (verdict data) := by
  rw [verdict]
  cases hpayload : Call.ofPayload data with
  | ok c => exact .allowed (ofPayload_eq_ok.mp hpayload)
  | error v =>
    obtain ⟨hshort, rfl⟩ | ⟨s, args, hdata, hunknown, rfl⟩ | ⟨f, args, reason, hdata, hreason, rfl⟩ :=
      ofPayload_eq_error.mp hpayload
    · exact .noSelector hshort
    · exact .unknownSelector hdata hunknown
    · have hmalformed : ¬ ∃ args, data = f.selector.bytes ++ args ∧ Fits f args :=
        decode_malformed_iff.mp ⟨reason, by rw [hreason]; rfl⟩
      exact .undecodable hdata (fun hfits => hmalformed ⟨args, hdata, hfits⟩) hreason

theorem Conclusive.missing?_eq_none (h : Conclusive data (.error v)) : v.missing? = none := by
  cases h <;> rfl

theorem ne_governance_of_error (h : p.authorize sender target data = .error v) : sender ≠ p.governance := by
  intro hsender
  rw [authorize_of_governance hsender] at h
  cases h

/-- A refusal that names an entry comes from a need of it, and the policy lacks the entry. -/
theorem need_of_missing? (h : p.authorize sender target data = .error v) (hkey : v.missing? = some key) :
    ∃ need ∈ needs sender target data, need.violation = v ∧ need.key = key ∧ key ∉ p := by
  rw [authorize_eq_settle (ne_governance_of_error h)] at h
  rcases settle_cases p (verdict data) (needs sender target data) with ⟨-, hsettle⟩ | ⟨need, hneed, hlacks, hsettle⟩
  · have hverdict := conclusive_verdict data
    rw [← hsettle, h] at hverdict
    rw [hverdict.missing?_eq_none] at hkey
    cases hkey
  · obtain rfl := Except.error.inj (hsettle.symm.trans h)
    obtain rfl := Option.some.inj ((missing?_of_mem_needs hneed).symm.trans hkey)
    exact ⟨need, hneed, rfl, rfl, hlacks⟩

theorem not_mem_of_missing? (h : p.authorize sender target data = .error v) (hkey : v.missing? = some key) :
    key ∉ p := by
  obtain ⟨need, -, -, -, hlacks⟩ := need_of_missing? h hkey
  exact hlacks

/-- Entries that are not asked for first leave the answer as it is. -/
theorem settle_of_granted {outcome : Except Violation Permission} {asked : List Need} {granted : List Key}
    (hq : ∀ key, key ∈ q ↔ key ∈ granted ∨ key ∈ p)
    (h : ∀ need ∈ asked, settle p outcome asked = .error need.violation → need.key ∉ granted) :
    settle q outcome asked = settle p outcome asked := by
  induction asked with
  | nil => rfl
  | cons need rest ih =>
    rw [settle, settle]
    -- The answer comes from the first need that is missing, which no new entry meets.
    by_cases hp : need.key ∈ p
    · rw [if_pos hp, if_pos ((hq _).mpr (.inr hp))]
      refine ih fun other hother hsettle => h other (List.mem_cons_of_mem _ hother) ?_
      rw [settle, if_pos hp, hsettle]
    · have hrefused : settle p outcome (need :: rest) = .error need.violation := if_neg hp
      have hq' : need.key ∉ q := fun hmem =>
        ((hq _).mp hmem).elim (h need List.mem_cons_self hrefused) hp
      rw [if_neg hp, if_neg hq']

/-- With more entries the decision on a call changes exactly if it was refused for want of one of them. -/
theorem authorize_ne_iff_of_granted {granted : List Key} (hgovernance : q.governance = p.governance)
    (hq : ∀ key, key ∈ q ↔ key ∈ granted ∨ key ∈ p) :
    q.authorize sender target data ≠ p.authorize sender target data ↔
      ∃ v, p.authorize sender target data = .error v ∧ ∃ key ∈ granted, v.missing? = some key := by
  constructor
  · intro hne
    by_contra hnone
    refine hne ?_
    by_cases hsender : sender = p.governance
    · rw [authorize_of_governance hsender, authorize_of_governance (hsender.trans hgovernance.symm)]
    · rw [authorize_eq_settle hsender, authorize_eq_settle (hgovernance.symm ▸ hsender)]
      refine settle_of_granted hq fun need hneed hsettle hgranted => hnone ⟨need.violation, ?_, need.key, hgranted, ?_⟩
      · rw [authorize_eq_settle hsender, hsettle]
      · exact missing?_of_mem_needs hneed
  · rintro ⟨v, hrefused, key, hgranted, hkey⟩ hsame
    exact not_mem_of_missing? (hsame.trans hrefused) hkey ((hq key).mpr (.inl hgranted))

end CallGuard.Decision
