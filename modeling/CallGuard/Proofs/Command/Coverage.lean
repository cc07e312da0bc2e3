import CallGuard.Proofs.Command.Change

/-! # What the audit trail says of the policy file

A command covers its change of the stored policy if the events that it appends to the audit trail make that change when
they are replayed. Changes of entries are always covered (`covered_admin`). A policy file that is made anew is covered
only where it adds to the one that it replaces: what it drops, it drops without a record (`covered_init_iff`). -/

namespace CallGuard

/-! ## Replaying what is written -/

/-- What replaying events makes of a policy stands in their lines. -/
theorem Policy.replay_of_linesOf {events others : List Event} (h : Event.linesOf events = Event.linesOf others)
    (p : Policy) : p.replay events = p.replay others := by
  have htexts : events.map Event.text = others.map Event.text := by
    have hpieces := congrArg piecesOf h
    rw [Event.piecesOf_linesOf, Event.piecesOf_linesOf] at hpieces
    exact List.append_cancel_right hpieces
  clear h
  induction events generalizing p others with
  | nil =>
    obtain rfl := List.map_eq_nil_iff.mp htexts.symm
    rfl
  | cons e events ih =>
    cases others with
    | nil => cases htexts
    | cons e' others =>
      obtain ⟨htext, hrest⟩ := List.cons_eq_cons.mp htexts
      obtain ⟨hchange, hkey⟩ := Event.change_of_text htext
      rw [Policy.replay_cons, Policy.replay_cons, hchange, hkey, ih _ hrest]

/-- Replaying the policy to begin with on another one gives it exactly if that one has the same governance identity and
    no other entries. -/
theorem Settings.replay_bootstrap_iff {s : Settings} {clock : Clock} {g : Guard}
    (h : s.bootstrapGuard clock = .ok g) {p : Policy} :
    p.replay g.events = g.policy ↔ p.governance = g.owner ∧ ∀ key ∈ p, key ∈ g.policy := by
  obtain ⟨governance, hrec, happroved⟩ := Guard.recorded_bootstrapGuard h
  have hentries : ∀ key, key ∈ g.policy ↔ ∃ e ∈ g.events, e.key = key := by
    intro key
    rw [hrec.policy, Policy.mem_replay_of_approved happroved]
    exact or_iff_left (Policy.not_mem_empty key governance)
  constructor
  · intro hreplay
    rw [Guard.owner, ← hreplay, Policy.governance_replay]
    exact ⟨rfl, fun key hkey => (Policy.mem_replay_of_approved happroved).mpr (.inr hkey)⟩
  · rintro ⟨hgovernance, hsub⟩
    refine Policy.ext_mem (by rw [Policy.governance_replay, hgovernance, Guard.owner]) fun key => ?_
    rw [Policy.mem_replay_of_approved happroved, ← hentries]
    exact ⟨fun hkey => hkey.elim id (hsub key), .inl⟩

/-! ## Stored policies -/

/-- A file holds a policy: its text is read as a guard of that policy. -/
def Disk.Stores (d : Disk) (path : String) (p : Policy) : Prop :=
  ∃ text, d.read path = .ok text ∧ Guard.restore text = .ok (.ofPolicy p)

theorem Disk.Stores.unique {d : Disk} {path : String} {p q : Policy} (hp : d.Stores path p) (hq : d.Stores path q) :
    p = q := by
  obtain ⟨text, hread, hrestore⟩ := hp
  obtain ⟨text', hread', hrestore'⟩ := hq
  cases hread.symm.trans hread'
  cases hrestore.symm.trans hrestore'
  rfl

theorem Disk.Saved.stores {d : Disk} {path : String} {g : Guard} (h : d.Saved path g.snapshot.text) :
    d.Stores path g.policy :=
  ⟨_, h.read, Guard.restore_snapshot g⟩

namespace Command

/-- What a command appends to the audit trail accounts for what it makes of the policy file: replayed on the policy
    that was stored before, the events give the one that is stored after it. -/
def Covered (s : Settings) (d d' : Disk) : Prop :=
  ∃ p events, d.Stores s.policyFile p ∧
    d'.textAt (Disk.placeOf s.auditLog) = d.textAt (Disk.placeOf s.auditLog) ++ Event.linesOf events ∧
    d'.Stores s.policyFile (p.replay events)

section
variable {s : Settings} {w w' w₁ : World} {p : Policy} {g : Guard}

theorem Covered.refl {d : Disk} (h : d.Stores s.policyFile p) : Covered s d d :=
  ⟨p, [], h, String.append_empty.symm, h⟩

/-- Where the recorded events lead from the stored policy to that of the guard, writing both is covered. -/
theorem covered_of_persist (hapart : s.FilesApart) (hstores : w.disk.Stores s.policyFile p)
    (hpolicy : g.policy = p.replay g.events) (h : runOn (persist s g) w = (.ok (), w')) :
    Covered s w.disk w'.disk := by
  obtain ⟨hsaved, htext⟩ := saved_of_persist hapart h
  exact ⟨p, g.events, hstores, htext, hpolicy ▸ hsaved.stores⟩

/-! ## Changes of entries -/

theorem world_of_ofExcept {ε α : Type} {failure : ε → Failure} {result : Except ε α} {a : α}
    (h : runOn (ofExcept failure result) w = (.ok a, w')) : w' = w := by
  rw [runOn_ofExcept] at h
  exact (Prod.mk.inj h).2.symm

theorem disk_of_confirm {prompt : String} {yes : Bool} (h : runOn (confirm prompt) w = (.ok yes, w')) :
    w'.disk = w.disk := by
  rw [confirm, runOn_ask_bind] at h
  cases hkeys : w.keys with
  | none =>
    have hanswer : w.answer (.confirm prompt) = (none, w) := by simp only [World.answer, hkeys]
    rw [hanswer] at h
    cases h
  | some keys =>
    have hanswer : w.answer (.confirm prompt) =
        (some (Request.reply keys).1, { w with keys := some (Request.reply keys).2 }) := by
      simp only [World.answer, hkeys]
    rw [hanswer] at h
    cases h
    rfl

theorem disk_of_confirmRemoval {op : Operation} {force yes : Bool}
    (h : runOn (confirmRemoval op force) w = (.ok yes, w')) : w'.disk = w.disk := by
  unfold confirmRemoval at h
  split at h
  · split at h
    · cases h
      rfl
    · exact disk_of_confirm h
  · cases h
    rfl

/-- A change that succeeds leaves the disk as it is, or is made by the loaded guard and written. -/
theorem persist_of_admin {caller note : String} {change : ChangeText} {force : Bool}
    (hload : runOn (load s.policyFile) w = (.ok (.ofPolicy p), w))
    (h : runOn (admin s caller change note force) w = (.ok (), w')) :
    w'.disk = w.disk ∨ ∃ caller op clock g w₁, (Guard.perform caller op note clock).run (.ofPolicy p) = (.ok (), g) ∧
      w₁.disk = w.disk ∧ runOn (persist s g) w₁ = (.ok (), w') := by
  rw [admin_eq, runOn_bind_eq_ok] at h
  obtain ⟨caller', w₁, hcaller, hread⟩ := h
  obtain rfl := world_of_ofExcept hcaller
  rw [runOn_bind_ok hload, runOn_bind_eq_ok] at hread
  obtain ⟨op, w₁, hop, hasked⟩ := hread
  obtain rfl := world_of_ofExcept hop
  obtain ⟨yes, w₂, hconfirm, h⟩ := runOn_bind_eq_ok.mp hasked
  have hdisk := disk_of_confirmRemoval hconfirm
  cases yes with
  | false =>
    cases h
    exact .inl hdisk
  | true =>
    rw [if_pos rfl, runOn_makeChange] at h
    rcases hperform : (Guard.perform caller' op note w₂.clock).run (.ofPolicy p) with ⟨v | _, g⟩
    · rw [hperform] at h
      cases h
    · obtain ⟨printed, hprint⟩ := runOn_forM_printLine eventLine g.events (w₂.ticked op.steps.length)
      rw [hperform] at h
      simp only [runOn_bind_ok hprint] at h
      exact .inr ⟨caller', op, w₂.clock, g, { w₂.ticked op.steps.length with printed := printed }, hperform, hdisk, h⟩

theorem covered_admin {caller note : String} {change : ChangeText} {force : Bool} (hapart : s.FilesApart)
    (hstores : w.disk.Stores s.policyFile p) (h : runOn (admin s caller change note force) w = (.ok (), w')) :
    Covered s w.disk w'.disk := by
  obtain ⟨text, hread, hrestore⟩ := id hstores
  have hload : runOn (load s.policyFile) w = (.ok (.ofPolicy p), w) := by
    rw [runOn_load hread, hrestore]
    rfl
  obtain hsame | ⟨caller', op, clock, g, w₁, hperform, hdisk, hpersist⟩ := persist_of_admin hload h
  · rw [hsame]
    exact Covered.refl hstores
  · obtain ⟨new, hrec⟩ := Guard.Recorded.perform caller' op note clock (.ofPolicy p)
    rw [hperform] at hrec
    have hpolicy : g.policy = p.replay g.events := by
      rw [(hrec.of_empty rfl).1]
      exact hrec.policy
    rw [← hdisk] at hstores ⊢
    exact covered_of_persist hapart hstores hpolicy hpersist

/-! ## Policy files that are made anew -/

/-- Making the policy file anew is covered exactly if the policy to begin with has the governance identity and every
    entry of the policy that it replaces. -/
theorem covered_init_iff (hapart : s.FilesApart) (hstores : w.disk.Stores s.policyFile p)
    (h : runOn (init s true) w = (.ok (), w')) :
    ∃ g, s.bootstrapGuard w.clock = .ok g ∧
      (Covered s w.disk w'.disk ↔ p.governance = g.owner ∧ ∀ key ∈ p, key ∈ g.policy) := by
  obtain ⟨g, w₀, w₁, hguard, hdisk₀, hpersist, hdisk₁⟩ := runOn_init (.inl rfl) h
  obtain ⟨hsaved, htext⟩ := saved_of_persist hapart hpersist
  refine ⟨g, hguard, ?_⟩
  rw [← Settings.replay_bootstrap_iff hguard, hdisk₁, ← hdisk₀]
  rw [← hdisk₀] at hstores
  constructor
  · rintro ⟨q, events, hstores', htext', hafter⟩
    obtain rfl := hstores.unique hstores'
    have hlines : Event.linesOf events = Event.linesOf g.events := by
      rw [htext] at htext'
      exact ((String.append_right_inj _).mp htext').symm
    rw [hsaved.stores.unique hafter]
    exact Policy.replay_of_linesOf hlines.symm p
  · exact fun hreplay => covered_of_persist hapart hstores hreplay.symm hpersist

/-- In an empty folder the policy file can be made under its usual name, and then made anew from other settings. -/
theorem exists_init_anew {t : Settings} (hdisk : w.disk = .empty) (hpolicy : s.policyFile = "policy.json")
    (hlog : s.auditLog = "audit.jsonl") (hpolicy' : t.policyFile = s.policyFile) (hlog' : t.auditLog = s.auditLog)
    (hguard : s.bootstrapGuard w.clock = .ok g) (hguard' : ∀ clock, ∃ g', t.bootstrapGuard clock = .ok g') :
    t.FilesApart ∧ ∃ w₁ w₂, runOn (init s true) w = (.ok (), w₁) ∧ w₁.disk.Stores t.policyFile g.policy ∧
      runOn (init t true) w₁ = (.ok (), w₂) := by
  have hempty : s.Ready w.disk "" := by
    rw [hdisk]
    exact Settings.ready_empty hpolicy hlog
  obtain ⟨w₁, hinit, hsaved, hready⟩ := exists_init hempty hguard
  obtain ⟨g', hguard'⟩ := hguard' w₁.clock
  have hready' := hready.of_files hpolicy' hlog'
  obtain ⟨w₂, hanew, -⟩ := exists_init hready' hguard'
  rw [← hpolicy'] at hsaved
  exact ⟨hready'.apart, w₁, w₂, hinit, hsaved.stores, hanew⟩

end

/-- Which changes of the stored policy the audit trail accounts for: those of entries, and of policy files that are made
    anew those that drop nothing. -/
theorem covered_iff {s : Settings} {w : World} {p : Policy} (hapart : s.FilesApart)
    (hstores : w.disk.Stores s.policyFile p) :
    (∀ caller change note force w', runOn (admin s caller change note force) w = (.ok (), w') →
      Covered s w.disk w'.disk) ∧
    ∀ w', runOn (init s true) w = (.ok (), w') → ∃ g, s.bootstrapGuard w.clock = .ok g ∧
      (Covered s w.disk w'.disk ↔ p.governance = g.owner ∧ ∀ key ∈ p, key ∈ g.policy) :=
  ⟨fun _ _ _ _ _ => covered_admin hapart hstores, fun _ => covered_init_iff hapart hstores⟩

/-- A policy file is made with one wallet, and made anew from the same settings. -/
theorem covered_iff_wallet :
    let wallet : Address := .ofNat 20 2
    let s : Settings := { governance := (Octets.ofNat 20 1).toHex, bootstrap := { senders := [wallet.toHex] } }
    let w : World := ⟨.empty, "", "", none, .epoch⟩
    ∃ w₁ w₂ p, runOn (init s true) w = (.ok (), w₁) ∧ s.FilesApart ∧ w₁.disk.Stores s.policyFile p ∧
      runOn (init s true) w₁ = (.ok (), w₂) ∧ Covered s w₁.disk w₂.disk := by
  intro wallet s w
  have hguard : ∀ clock, ∃ g, s.bootstrapGuard clock = .ok g ∧
      g.policy = (Policy.empty (.ofNat 20 1)).allow (.sender wallet) := fun clock =>
    ⟨_, Guard.bootstrapGuard_of_senders (.ofNat 20 1) [wallet] clock, rfl⟩
  obtain ⟨g, hfirst, hpolicy⟩ := hguard w.clock
  obtain ⟨hapart, w₁, w₂, hinit, hstores, hanew⟩ := exists_init_anew (s := s) (t := s) (w := w) rfl rfl rfl rfl rfl
    hfirst fun clock => (hguard clock).imp fun _ h => h.1
  refine ⟨w₁, w₂, g.policy, hinit, hapart, hstores, hanew, ?_⟩
  obtain ⟨g₁, hsecond, hiff⟩ := (covered_iff hapart hstores).2 w₂ hanew
  obtain ⟨g₂, hsame, hpolicy'⟩ := hguard w₁.clock
  cases hsecond.symm.trans hsame
  rw [hiff, Guard.owner, hpolicy, hpolicy']
  exact ⟨rfl, fun _ h => h⟩

/-- A policy file is made with one wallet and made anew without it: the wallet is no longer in the policy, and no event
    says so. -/
theorem init_not_covered :
    let wallet : Address := .ofNat 20 2
    let s : Settings := { governance := (Octets.ofNat 20 1).toHex, bootstrap := { senders := [wallet.toHex] } }
    let t : Settings := { governance := s.governance }
    let w : World := ⟨.empty, "", "", none, .epoch⟩
    ∃ w₁ w₂ p, runOn (init s true) w = (.ok (), w₁) ∧ t.FilesApart ∧ w₁.disk.Stores t.policyFile p ∧
      .sender wallet ∈ p ∧ runOn (init t true) w₁ = (.ok (), w₂) ∧ ¬ Covered t w₁.disk w₂.disk := by
  intro wallet s t w
  obtain ⟨g, hguard, hentry⟩ : ∃ g, s.bootstrapGuard w.clock = .ok g ∧ .sender wallet ∈ g.policy :=
    ⟨_, Guard.bootstrapGuard_of_senders (.ofNat 20 1) [wallet] w.clock, Policy.mem_allow.mpr (.inl rfl)⟩
  have hguard' : ∀ clock, t.bootstrapGuard clock = .ok (.new (.ofNat 20 1)) :=
    Guard.bootstrapGuard_of_senders (.ofNat 20 1) []
  obtain ⟨hapart, w₁, w₂, hinit, hstores, hanew⟩ :=
    exists_init_anew (s := s) (t := t) (w := w) rfl rfl rfl rfl rfl hguard fun clock => ⟨_, hguard' clock⟩
  refine ⟨w₁, w₂, g.policy, hinit, hapart, hstores, hentry, hanew, fun hcovered => ?_⟩
  obtain ⟨g', hg', hiff⟩ := covered_init_iff hapart hstores hanew
  rw [hguard'] at hg'
  cases hg'
  exact Policy.not_mem_empty _ _ ((hiff.mp hcovered).2 _ hentry)

end Command

end CallGuard
