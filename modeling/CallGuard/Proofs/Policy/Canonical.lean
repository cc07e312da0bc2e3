import CallGuard.Proofs.Policy.Snapshot

/-! # Canonical snapshots

A snapshot may have its lists in any order and with repetitions, but the guard that it makes knows them only as sets.
Of all snapshots that say the same, the one taken of that guard is canonical: its lists are strictly increasing in byte
order, and it makes the same guard again (`Guard.Canonical`). So policies are the same exactly if the texts of their
snapshots are (`Guard.snapshot_text_inj`). The main statement is `Guard.canonical_ofSnapshot`. -/

namespace CallGuard

/-! ## Byte order -/

/-- The bytes of the first come before those of the second. -/
def Octets.Before {n : Nat} (a b : Octets n) : Prop :=
  a.bytes < b.bytes

/-- Call sites come in the order of their contracts, those of one contract in the order of their selectors. -/
def CallSite.Before (a b : CallSite) : Prop :=
  a.target.Before b.target ∨ a.target = b.target ∧ a.selector.Before b.selector

theorem Bytes.lt_of_append_lt {xs ys as bs : Bytes} (hlength : xs.length = ys.length) (h : xs ++ as < ys ++ bs) :
    xs < ys ∨ xs = ys ∧ as < bs := by
  induction xs generalizing ys with
  | nil =>
    obtain rfl := List.length_eq_zero_iff.mp hlength.symm
    exact .inr ⟨rfl, h⟩
  | cons x xs ih =>
    cases ys with
    | nil => cases hlength
    | cons y ys =>
      rw [List.cons_append, List.cons_append, List.cons_lt_cons_iff] at h
      rcases h with hlt | ⟨rfl, hrest⟩
      · exact .inl (List.cons_lt_cons_iff.mpr (.inl hlt))
      · rcases ih (Nat.succ.inj hlength) hrest with hlt | ⟨rfl, hlt⟩
        · exact .inl (List.cons_lt_cons_iff.mpr (.inr ⟨rfl, hlt⟩))
        · exact .inr ⟨rfl, hlt⟩

/-- Keys of one list come in the order of their addresses, those of one address in the order of their selectors. -/
theorem Key.before_of_precedes {a b : Key} (hkind : a.kind = b.kind) (h : Precedes a b) :
    a.address.Before b.address ∨
      a.address = b.address ∧ (a.selector?.map (·.bytes)).getD [] < (b.selector?.map (·.bytes)).getD [] := by
  have hbytes : a.kind.rank :: (a.address.bytes ++ (a.selector?.map (·.bytes)).getD []) <
      b.kind.rank :: (b.address.bytes ++ (b.selector?.map (·.bytes)).getD []) := h
  rw [hkind, List.cons_lt_cons_iff] at hbytes
  have hrest := (hbytes.resolve_left (UInt8.lt_irrefl _)).2
  rcases Bytes.lt_of_append_lt (by rw [a.address.length_bytes, b.address.length_bytes]) hrest with hlt | ⟨heq, hlt⟩
  · exact .inl hlt
  · exact .inr ⟨Octets.ext heq, hlt⟩

namespace Policy

theorem sorted_callSites (p : Policy) : p.callSites.Pairwise CallSite.Before := by
  refine List.pairwise_filterMap.mpr (p.entries.sorted.imp fun {a b} hab => ?_)
  intro site hsite site' hsite'
  cases a with
  | callSite s =>
    cases b with
    | callSite s' =>
      cases hsite
      cases hsite'
      exact Key.before_of_precedes (a := .callSite site) (b := .callSite site') rfl hab
    | _ => cases hsite'
  | _ => cases hsite

theorem sorted_addresses (p : Policy) {kind : ListKind} (hkind : kind ≠ .callSite) :
    ((p.keys kind).map (·.address)).Pairwise Octets.Before := by
  have hkeys : (p.keys kind).Pairwise Precedes := p.entries.sorted.filter _
  refine List.pairwise_map.mpr (hkeys.imp_of_mem fun {a b} ha hb hab => ?_)
  have ha' : a.kind = kind := of_decide_eq_true (List.mem_filter.mp ha).2
  have hb' : b.kind = kind := of_decide_eq_true (List.mem_filter.mp hb).2
  rcases Key.before_of_precedes (ha'.trans hb'.symm) hab with hlt | ⟨-, hlt⟩
  · exact hlt
  -- Only call sites have selectors, so the addresses tell the keys apart.
  · cases a with
    | callSite s => exact absurd ha'.symm hkind
    | _ =>
      cases b with
      | callSite s => exact absurd hb'.symm hkind
      | _ => exact absurd hlt (List.lt_irrefl _)

end Policy

/-! ## Snapshots as sets -/

namespace Snapshot

/-- The five lists of two snapshots hold the same entries, in whatever order and however often. -/
structure SameEntries (s t : Snapshot) : Prop where
  callSites : ∀ site, site ∈ s.callSites ↔ site ∈ t.callSites
  assets : ∀ a, a ∈ s.assets ↔ a ∈ t.assets
  senders : ∀ a, a ∈ s.senders ↔ a ∈ t.senders
  withdrawDestinations : ∀ a, a ∈ s.withdrawDestinations ↔ a ∈ t.withdrawDestinations
  approvalDestinations : ∀ a, a ∈ s.approvalDestinations ↔ a ∈ t.approvalDestinations

/-- Every list is strictly increasing in byte order. -/
structure Ordered (s : Snapshot) : Prop where
  callSites : s.callSites.Pairwise CallSite.Before
  assets : s.assets.Pairwise Octets.Before
  senders : s.senders.Pairwise Octets.Before
  withdrawDestinations : s.withdrawDestinations.Pairwise Octets.Before
  approvalDestinations : s.approvalDestinations.Pairwise Octets.Before

theorem ordered_ofPolicy (p : Policy) : (ofPolicy p).Ordered where
  callSites := p.sorted_callSites
  assets := p.sorted_addresses nofun
  senders := p.sorted_addresses nofun
  withdrawDestinations := p.sorted_addresses nofun
  approvalDestinations := p.sorted_addresses nofun

section
variable {s t : Snapshot}

theorem mem_keys {key : Key} : key ∈ s.keys ↔
    match key with
    | .callSite site => site ∈ s.callSites
    | .asset a => a ∈ s.assets
    | .sender a => a ∈ s.senders
    | .withdrawDestination a => a ∈ s.withdrawDestinations
    | .approvalDestination a => a ∈ s.approvalDestinations := by
  cases key <;> simp [keys]

theorem sameEntries_iff : s.SameEntries t ↔ ∀ key, key ∈ s.keys ↔ key ∈ t.keys := by
  constructor
  · intro h key
    rw [mem_keys, mem_keys]
    cases key with
    | callSite site => exact h.callSites site
    | asset a => exact h.assets a
    | sender a => exact h.senders a
    | withdrawDestination a => exact h.withdrawDestinations a
    | approvalDestination a => exact h.approvalDestinations a
  · intro h
    simp only [mem_keys] at h
    exact ⟨fun site => h (.callSite site), fun a => h (.asset a), fun a => h (.sender a),
      fun a => h (.withdrawDestination a), fun a => h (.approvalDestination a)⟩

theorem mem_policy {key : Key} : key ∈ s.policy ↔ key ∈ s.keys :=
  SortedSet.mem_ofList

/-- A snapshot stores its entries and nothing else. -/
theorem sameEntries_policy (s : Snapshot) : (ofPolicy s.policy).SameEntries s :=
  sameEntries_iff.mpr fun _ => mem_keys_ofPolicy.trans mem_policy

/-- Snapshots that say the same store the same policy. -/
theorem SameEntries.policy_eq (h : s.SameEntries t) (hgovernance : s.governance = t.governance) :
    s.policy = t.policy := by
  refine Policy.ext_mem hgovernance fun key => ?_
  rw [mem_policy, mem_policy]
  exact sameEntries_iff.mp h key

end

end Snapshot

namespace Guard

/-- The texts of snapshots tell policies apart. -/
theorem snapshot_text_inj {g g' : Guard} : g.snapshot.text = g'.snapshot.text ↔ g.policy = g'.policy := by
  constructor
  · intro h
    have hrestore := restore_snapshot g
    rw [h, restore_snapshot g'] at hrestore
    have hguard : ofPolicy g'.policy = ofPolicy g.policy := Except.ok.inj hrestore
    exact (congrArg Guard.policy hguard).symm
  · intro h
    rw [snapshot, snapshot, h]

theorem ofSnapshot_of_version {s : Snapshot} (h : s.version = "1.0") : ofSnapshot s = .ok (.ofPolicy s.policy) :=
  if_pos h

/-- A guard is the one that a snapshot makes, and is told by its entries: nothing is recorded on its trail, the snapshot
    taken of it has the same entries in order and makes the same guard, and so does any other snapshot of the same
    governance identity with the same entries. -/
structure Canonical (g : Guard) (s : Snapshot) : Prop where
  owner : g.owner = s.governance
  events : g.events = []
  governance : g.snapshot.governance = s.governance
  entries : g.snapshot.SameEntries s
  ordered : g.snapshot.Ordered
  again : ofSnapshot g.snapshot = .ok g
  alike : ∀ t : Snapshot, t.version = "1.0" → t.governance = s.governance → t.SameEntries s → ofSnapshot t = .ok g

/-- Snapshots of the current version make guards, in which only what they hold counts and not how they hold it; those of
    any other version make none. The snapshots taken of any two guards have the same text exactly if the policies are
    the same. -/
theorem canonical_ofSnapshot :
    (∀ s : Snapshot, s.version = "1.0" → ∃ g, ofSnapshot s = .ok g ∧ g.Canonical s) ∧
    (∀ s : Snapshot, s.version ≠ "1.0" → ofSnapshot s = .error (.unsupportedVersion s.version)) ∧
    ∀ g g' : Guard, g.snapshot.text = g'.snapshot.text ↔ g.policy = g'.policy := by
  refine ⟨fun s hversion => ⟨.ofPolicy s.policy, ofSnapshot_of_version hversion, ?_⟩, fun s hversion => if_neg hversion,
    fun _ _ => snapshot_text_inj⟩
  refine ⟨rfl, rfl, rfl, s.sameEntries_policy, Snapshot.ordered_ofPolicy s.policy, ofSnapshot_snapshot _, ?_⟩
  intro t hversion' hgovernance hsame
  rw [ofSnapshot_of_version hversion', hsame.policy_eq hgovernance]

/-- The senders are listed in disorder and one of them twice; they are stored again in order and once each. -/
theorem canonical_ofSnapshot_disorder :
    let first : Address := .ofNat 20 1
    let second : Address := .ofNat 20 2
    let s : Snapshot := ⟨"1.0", first, [], [], [second, first, second], [], []⟩
    ∃ g, ofSnapshot s = .ok g ∧ g.Canonical s ∧ g.snapshot.senders = [first, second] := by
  intro first second s
  obtain ⟨g, hg, hcanonical⟩ := canonical_ofSnapshot.1 s rfl
  refine ⟨g, hg, hcanonical, ?_⟩
  cases (ofSnapshot_of_version rfl).symm.trans hg
  decide

end Guard

end CallGuard
