import CallGuard.Proofs.Guard.Bootstrap
import CallGuard.Proofs.Guard.Provisioning
import CallGuard.Proofs.Hex.Spelling
import CallGuard.Proofs.Policy.Snapshot

/-! # The policy that is configured

The guard to begin with has the entries that the five lists of the settings name, and no others, and its events tell
them in the order of the lists (`BuiltFrom`). How often an address is listed, where it stands and how it is spelled
makes no difference to the policy (`policy_of_respelled`). Checking the settings goes through the lists on its own; it
lets pass nothing that cannot be built, and names the text by which building fails too (`validate_eq_badList`). The
main statement is `buildsAsConfigured`. -/

namespace CallGuard

/-! ## Lists that are read -/

/-- The addresses of the five lists, as they are listed. -/
structure Bootstrap.Entries where
  senders : List Address
  withdrawDestinations : List Address
  assets : List Address
  tokens : List Address
  routers : List Address

namespace Bootstrap
variable {b : Bootstrap}

/-- Every text of the lists is read, each list one text after the other. -/
structure Entries.ReadFrom (e : Entries) (b : Bootstrap) : Prop where
  senders : b.senders.map Address.read = e.senders.map .ok
  withdrawDestinations : b.withdrawDestinations.map Address.read = e.withdrawDestinations.map .ok
  assets : b.assets.map Address.read = e.assets.map .ok
  tokens : b.tokens.map Address.read = e.tokens.map .ok
  routers : b.routers.map Address.read = e.routers.map .ok

/-- What the entries ask of a guard. -/
def Entries.operations (e : Entries) : List Operation :=
  e.senders.map .allowSender ++ e.withdrawDestinations.map .allowWithdrawDestination ++
    e.assets.map .allowAsset ++ e.tokens.map .whitelistToken ++ e.routers.map .whitelistRouter

/-- The keys that the entries stand for, in order: one for each sender, destination and asset, two for each token and
    router. -/
def Entries.keys (e : Entries) : List Key :=
  e.senders.map .sender ++ e.withdrawDestinations.map .withdrawDestination ++ e.assets.map .asset ++
    e.tokens.flatMap (fun t => [.ofCallSite t Function.transfer.selector, .ofCallSite t Function.approve.selector]) ++
    e.routers.flatMap fun r => [.ofCallSite r Function.swap.selector, .approvalDestination r]

theorem Entries.steps_operations (e : Entries) :
    e.operations.flatMap (·.steps) = e.keys.map fun key => (Change.approved, key) := by
  simp only [operations, keys, List.flatMap_append, List.map_append, List.flatMap_map, List.map_flatMap, List.map_map,
    Operation.steps, List.map_cons, List.map_nil]
  simp only [List.map_eq_flatMap, Function.comp_apply]

/-- A key is one of those that the entries stand for. -/
def Entries.Names (e : Entries) : Key → Prop
  | .callSite site =>
    site.target ∈ e.tokens ∧ (site.selector = Function.transfer.selector ∨ site.selector = Function.approve.selector) ∨
      site.target ∈ e.routers ∧ site.selector = Function.swap.selector
  | .asset a => a ∈ e.assets
  | .sender a => a ∈ e.senders
  | .withdrawDestination a => a ∈ e.withdrawDestinations
  | .approvalDestination a => a ∈ e.routers

theorem Entries.mem_keys {e : Entries} {key : Key} : key ∈ e.keys ↔ e.Names key := by
  have hsite : ∀ {list : List Address} {target : Address} {p : Prop},
      (∃ a ∈ list, target = a ∧ p) ↔ target ∈ list ∧ p := by
    simp only [and_left_comm (b := _ = _), exists_eq_left', implies_true]
  cases key with
  | callSite site =>
    obtain ⟨target, selector⟩ := site
    simp [keys, Names, Key.ofCallSite, ← and_or_left, hsite]
  | _ => simp [keys, Names, Key.ofCallSite]

/-- A text stands for an address. -/
def Readable (text : String) : Prop :=
  ∃ a, Address.read text = .ok a

theorem readable_of_map {list : List String} {found : List Address} (h : list.map Address.read = found.map .ok) :
    ∀ text ∈ list, Readable text := by
  intro text htext
  have hmem := List.mem_map_of_mem (f := Address.read) htext
  rw [h] at hmem
  obtain ⟨a, -, ha⟩ := List.mem_map.mp hmem
  exact ⟨a, ha.symm⟩

theorem operations_eq_ok {ops : List Operation} :
    b.operations = .ok ops ↔ ∃ e : Entries, e.ReadFrom b ∧ ops = e.operations := by
  simp only [operations, Outcome.bind_eq_ok, addresses_eq_ok]
  constructor
  · rintro ⟨senders, hsenders, withdraw, hwithdraw, assets, hassets, tokens, htokens, routers, hrouters, h⟩
    exact ⟨⟨senders, withdraw, assets, tokens, routers⟩, ⟨hsenders, hwithdraw, hassets, htokens, hrouters⟩,
      (Except.ok.inj h).symm⟩
  · rintro ⟨e, ⟨hsenders, hwithdraw, hassets, htokens, hrouters⟩, rfl⟩
    exact ⟨_, hsenders, _, hwithdraw, _, hassets, _, htokens, _, hrouters, rfl⟩

/-! ## Going through the lists -/

/-- The first text of the lists that stands for no address: every list before that of this name can be read, and so can
    every text before it in its own list. -/
structure FirstUnread (b : Bootstrap) (name text : String) (fault : Hex.Fault) : Prop where
  split : ∃ before list after first rest, b.lists = before ++ (name, list) :: after ∧ list = first ++ text :: rest ∧
    (∀ entry ∈ before, ∀ t ∈ entry.2, Readable t) ∧ ∀ t ∈ first, Readable t
  unread : Address.read text = .error fault

/-- Goes through the lists and reads every text; `failure` tells of the first one that cannot be read. -/
def readAll (failure : String → String → Hex.Fault → SettingsFault) (b : Bootstrap) : Except SettingsFault Unit :=
  b.lists.forM fun (name, list) =>
    list.forM fun text => (Address.read text).mapError (failure name text) >>= fun _ => pure ()

section
variable {failure : String → String → Hex.Fault → SettingsFault} {name text : String}

theorem readText_eq_ok :
    ((Address.read text).mapError (failure name text) >>= fun _ => pure ()) = .ok () ↔ Readable text := by
  simp only [Outcome.discard_eq_ok, Outcome.mapError_eq_ok, Readable]

theorem readAll_eq_ok : readAll failure b = .ok () ↔ ∀ entry ∈ b.lists, ∀ text ∈ entry.2, Readable text := by
  simp only [readAll, Outcome.forM_eq_ok, readText_eq_ok]

theorem readAll_eq_error {f : SettingsFault} :
    readAll failure b = .error f ↔ ∃ name text fault, b.FirstUnread name text fault ∧ failure name text fault = f := by
  simp only [readAll, Outcome.forM_eq_error, Outcome.forM_eq_ok, readText_eq_ok, Outcome.discard_eq_error,
    Outcome.mapError_eq_error]
  constructor
  · rintro ⟨before, ⟨name, list⟩, after, hlists, hbefore, first, text, rest, hlist, hfirst, fault, hfault, hf⟩
    exact ⟨name, text, fault, ⟨⟨before, list, after, first, rest, hlists, hlist, hbefore, hfirst⟩, hfault⟩, hf⟩
  · rintro ⟨name, text, fault, ⟨⟨before, list, after, first, rest, hlists, hlist, hbefore, hfirst⟩, hfault⟩, hf⟩
    exact ⟨before, (name, list), after, hlists, hbefore, first, text, rest, hlist, hfirst, fault, hfault, hf⟩

end

/-- What is asked of a guard can be told if every text of the lists can be read, and fails by the first one that
    cannot. -/
theorem operations_discard (b : Bootstrap) :
    (b.operations >>= fun _ => pure ()) = readAll (fun _ => .badAddress) b := by
  have haddresses (list : List String) : (addresses list >>= fun _ => pure ()) =
      list.forM fun text => (Address.read text).mapError (.badAddress text) >>= fun _ => pure () :=
    Outcome.mapM_discard _ list
  simp only [readAll, ← haddresses, operations, lists, List.forM_eq_forM, List.forM_cons, List.forM_nil, bind_assoc,
    pure_bind]

end Bootstrap

namespace Settings
variable {s t : Settings}

/-- The governance identity and every text of the lists stand for addresses. -/
structure Readable (s : Settings) : Prop where
  governance : Bootstrap.Readable s.governance
  lists : ∀ entry ∈ s.bootstrap.lists, ∀ text ∈ entry.2, Bootstrap.Readable text

/-- The governance identity can be read, and the policy file has a name. -/
structure Headed (s : Settings) : Prop where
  set : trim s.governance.toList ≠ []
  governance : Bootstrap.Readable s.governance
  policyFile : trim s.policyFile.toList ≠ []

/-- Settings that are checked have a readable head, and then the lists are gone through. -/
theorem validate_of_headed (h : s.Headed) : s.validate = s.bootstrap.readAll .badList := by
  obtain ⟨hset, ⟨a, ha⟩, hfile⟩ := h
  have hgovernance : s.readGovernance = .ok a := Outcome.mapError_eq_ok.mpr ha
  rw [validate, if_neg hset, if_neg hfile, hgovernance]
  rfl

/-- Settings are turned down before the lists are gone through, or have a readable head. -/
theorem validate_or_headed (s : Settings) :
    s.Headed ∨ ∃ f, s.validate = .error f ∧ ∀ name text fault, f ≠ .badList name text fault := by
  by_cases hset : trim s.governance.toList = []
  · refine .inr ⟨.noGovernance, ?_, nofun⟩
    rw [validate, if_pos hset]
    rfl
  · cases hread : Address.read s.governance with
    | error fault =>
      have hgovernance : s.readGovernance = .error (.badGovernance s.governance fault) :=
        Outcome.mapError_eq_error.mpr ⟨fault, hread, rfl⟩
      refine .inr ⟨.badGovernance s.governance fault, ?_, nofun⟩
      rw [validate, if_neg hset, hgovernance]
      rfl
    | ok a =>
      by_cases hfile : trim s.policyFile.toList = []
      · have hgovernance : s.readGovernance = .ok a := Outcome.mapError_eq_ok.mpr hread
        refine .inr ⟨.noPolicyFile, ?_, nofun⟩
        rw [validate, if_neg hset, if_pos hfile, hgovernance]
        rfl
      · exact .inl ⟨hset, ⟨a, hread⟩, hfile⟩

theorem validate_eq_ok : s.validate = .ok () ↔ s.Headed ∧ s.Readable := by
  constructor
  · intro h
    rcases validate_or_headed s with hhead | ⟨f, hf, -⟩
    · rw [validate_of_headed hhead] at h
      exact ⟨hhead, hhead.governance, Bootstrap.readAll_eq_ok.mp h⟩
    · cases h.symm.trans hf
  · rintro ⟨hhead, hreadable⟩
    rw [validate_of_headed hhead]
    exact Bootstrap.readAll_eq_ok.mpr hreadable.lists

/-- Settings are turned down for a list exactly if their head can be read and a list cannot; the first text that cannot
    be read is named. -/
theorem validate_eq_badList {name text : String} {fault : Hex.Fault} :
    s.validate = .error (.badList name text fault) ↔ s.Headed ∧ s.bootstrap.FirstUnread name text fault := by
  constructor
  · intro h
    rcases validate_or_headed s with hhead | ⟨f, hf, hother⟩
    · rw [validate_of_headed hhead] at h
      obtain ⟨_, _, _, hfirst, hsame⟩ := Bootstrap.readAll_eq_error.mp h
      cases hsame
      exact ⟨hhead, hfirst⟩
    · cases hf.symm.trans h
      exact absurd rfl (hother name text fault)
  · rintro ⟨hhead, hfirst⟩
    rw [validate_of_headed hhead]
    exact Bootstrap.readAll_eq_error.mpr ⟨name, text, fault, hfirst, rfl⟩

end Settings

/-! ## The guard that is built -/

theorem Key.kind_address_of_ofAddress? {kind : ListKind} {a : Address} {key : Key}
    (h : Key.ofAddress? kind a = some key) : key.kind = kind ∧ key.address = a := by
  cases kind
  case callSite => cases h
  all_goals
    cases h
    exact ⟨rfl, rfl⟩

namespace Policy
variable {p : Policy}

/-- The addresses of a list are those whose keys are entries. -/
theorem mem_addresses {kind : ListKind} {make : Address → Key} (hmake : ∀ a, Key.ofAddress? kind a = some (make a))
    {a : Address} : a ∈ (p.keys kind).map (·.address) ↔ make a ∈ p := by
  obtain ⟨hkind, haddress⟩ := Key.kind_address_of_ofAddress? (hmake a)
  have hentry : make a ∈ ((p.keys kind).map (·.address)).map make ↔ make a ∈ p ∧ (make a).kind = kind :=
    Snapshot.mem_map_keys hmake
  rw [and_iff_left hkind, List.mem_map] at hentry
  rw [← hentry]
  constructor
  · exact fun ha => ⟨a, ha, rfl⟩
  · rintro ⟨b, hb, hsame⟩
    obtain ⟨-, hb'⟩ := Key.kind_address_of_ofAddress? (hmake b)
    rw [← haddress, ← hsame, hb']
    exact hb

theorem mem_callSites {site : CallSite} : site ∈ p.callSites ↔ .callSite site ∈ p := by
  have hentry : Key.callSite site ∈ p.callSites.map Key.callSite ↔
      Key.callSite site ∈ p ∧ (Key.callSite site).kind = .callSite := Snapshot.mem_map_callSite
  rw [Key.kind, and_iff_left rfl, List.mem_map] at hentry
  rw [← hentry]
  constructor
  · exact fun hsite => ⟨site, hsite, rfl⟩
  · rintro ⟨_, hsite, h⟩
    cases h
    exact hsite

end Policy

namespace Guard
variable {g : Guard} {note : String} {clock : Clock}

/-- Entries that are allowed one after the other are recorded in this order, numbered as the trail goes on, each at a
    reading of the clock of its own. -/
theorem events_of_approvals (note : String) (clock : Clock) (keys : List Key) (g : Guard) :
    (g.enterAll note clock (keys.map fun key => (Change.approved, key))).events =
      g.events ++ keys.mapIdx fun i key =>
        ⟨g.trail.nextSeq + i, Event.nameOf .approved key, .approved, key, note, clock i⟩ := by
  induction keys generalizing g clock with
  | nil => exact (List.append_nil _).symm
  | cons key rest ih =>
    have hrest : rest.mapIdx (fun i key => (⟨g.trail.nextSeq + 1 + i, Event.nameOf .approved key, .approved, key, note,
        clock (i + 1)⟩ : Event)) = rest.mapIdx fun i key =>
          ⟨g.trail.nextSeq + (i + 1), Event.nameOf .approved key, .approved, key, note, clock (i + 1)⟩ := by
      simp only [Nat.add_assoc, Nat.add_comm 1]
    rw [List.map_cons, enterAll, ih, List.mapIdx_cons, ← hrest, List.append_cons]
    rfl

end Guard

namespace Bootstrap.Entries

/-- The guard that allows the keys of the entries one after the other. -/
def guard (e : Entries) (governance : Address) (clock : Clock) : Guard :=
  (Guard.new governance).enterAll Settings.bootstrapNote clock (e.keys.map fun key => (Change.approved, key))

theorem owner_guard (e : Entries) (governance : Address) (clock : Clock) :
    (e.guard governance clock).owner = governance :=
  Guard.owner_enterAll _ _ _ _

theorem mem_policy_guard (e : Entries) (governance : Address) (clock : Clock) (key : Key) :
    key ∈ (e.guard governance clock).policy ↔ e.Names key := by
  rw [guard, Guard.mem_policy_of_approvals (by simp), ← mem_keys]
  simp [Guard.new, Guard.ofPolicy]

theorem events_guard (e : Entries) (governance : Address) (clock : Clock) :
    (e.guard governance clock).events = e.keys.mapIdx fun i key =>
      ⟨i, Event.nameOf .approved key, .approved, key, Settings.bootstrapNote, clock i⟩ := by
  rw [guard, Guard.events_of_approvals]
  simp [Guard.new, Guard.ofPolicy, Guard.events, Trail.empty]

end Bootstrap.Entries

namespace Settings
variable {s t : Settings}

/-- What is known of a guard that was built from settings whose lists are read as these entries. -/
structure BuiltFrom (s : Settings) (clock : Clock) (g : Guard) (e : Bootstrap.Entries) : Prop where
  governance : Address.read s.governance = .ok g.owner
  entries : e.ReadFrom s.bootstrap
  senders : ∀ a, a ∈ g.policy.senders ↔ a ∈ e.senders
  withdrawDestinations : ∀ a, a ∈ g.policy.withdrawDestinations ↔ a ∈ e.withdrawDestinations
  assets : ∀ a, a ∈ g.policy.assets ↔ a ∈ e.assets
  callSites : ∀ site, site ∈ g.policy.callSites ↔
    site.target ∈ e.tokens ∧ (site.selector = Function.transfer.selector ∨ site.selector = Function.approve.selector) ∨
      site.target ∈ e.routers ∧ site.selector = Function.swap.selector
  approvalDestinations : ∀ a, a ∈ g.policy.approvalDestinations ↔ a ∈ e.routers
  events : g.events = e.keys.mapIdx fun i key =>
    ⟨i, Event.nameOf .approved key, .approved, key, bootstrapNote, clock i⟩

/-- A guard is built if and only if everything can be read, and it is that of the entries. -/
theorem bootstrapGuard_iff_entries {clock : Clock} {g : Guard} : s.bootstrapGuard clock = .ok g ↔
    ∃ governance, ∃ e : Bootstrap.Entries, Address.read s.governance = .ok governance ∧ e.ReadFrom s.bootstrap ∧
      g = e.guard governance clock := by
  rw [Guard.bootstrapGuard_eq_ok]
  constructor
  · rintro ⟨governance, ops, hgovernance, hops, hg⟩
    obtain ⟨e, hentries, rfl⟩ := Bootstrap.operations_eq_ok.mp hops
    rw [e.steps_operations] at hg
    exact ⟨governance, e, Outcome.mapError_eq_ok.mp hgovernance, hentries, hg⟩
  · rintro ⟨governance, e, hgovernance, hentries, hg⟩
    refine ⟨governance, e.operations, Outcome.mapError_eq_ok.mpr hgovernance,
      Bootstrap.operations_eq_ok.mpr ⟨e, hentries, rfl⟩, ?_⟩
    rw [e.steps_operations]
    exact hg

theorem builtFrom_guard {clock : Clock} {governance : Address} {e : Bootstrap.Entries}
    (hgovernance : Address.read s.governance = .ok governance) (hentries : e.ReadFrom s.bootstrap) :
    s.BuiltFrom clock (e.guard governance clock) e where
  governance := by rw [e.owner_guard, hgovernance]
  entries := hentries
  senders a := (Policy.mem_addresses fun _ => rfl).trans (e.mem_policy_guard governance clock (.sender a))
  withdrawDestinations a :=
    (Policy.mem_addresses fun _ => rfl).trans (e.mem_policy_guard governance clock (.withdrawDestination a))
  assets a := (Policy.mem_addresses fun _ => rfl).trans (e.mem_policy_guard governance clock (.asset a))
  callSites site := Policy.mem_callSites.trans (e.mem_policy_guard governance clock (.callSite site))
  approvalDestinations a :=
    (Policy.mem_addresses fun _ => rfl).trans (e.mem_policy_guard governance clock (.approvalDestination a))
  events := e.events_guard governance clock

/-! ## Lists that are written otherwise -/

/-- Two texts write the same digits, but for the case of the letters and a mark before them. -/
def SameDigits (text text' : String) : Prop :=
  (Hex.unmark text.toList).map Char.toLower = (Hex.unmark text'.toList).map Char.toLower

theorem SameDigits.read_iff {text text' : String} (h : SameDigits text text') {a : Address} :
    Address.read text = .ok a ↔ Address.read text' = .ok a := by
  simp only [Address.read, Octets.read_eq_ok_iff_spells, Octets.Spells]
  rw [h]

/-- What is listed on either side is listed on the other one, in any place, any number of times and in any spelling. -/
structure SameListed (list list' : List String) : Prop where
  right : ∀ text ∈ list, ∃ text' ∈ list', SameDigits text text'
  left : ∀ text' ∈ list', ∃ text ∈ list, SameDigits text text'

/-- The second settings have the governance identity and the lists of the first ones, written in another way. -/
structure Respelled (s t : Settings) : Prop where
  governance : SameDigits s.governance t.governance
  senders : SameListed s.bootstrap.senders t.bootstrap.senders
  withdrawDestinations : SameListed s.bootstrap.withdrawDestinations t.bootstrap.withdrawDestinations
  assets : SameListed s.bootstrap.assets t.bootstrap.assets
  tokens : SameListed s.bootstrap.tokens t.bootstrap.tokens
  routers : SameListed s.bootstrap.routers t.bootstrap.routers

theorem SameListed.refl (list : List String) : SameListed list list where
  right text htext := ⟨text, htext, rfl⟩
  left text htext := ⟨text, htext, rfl⟩

section
variable {list list' : List String} {found found' : List Address}

theorem SameListed.readable (h : SameListed list list') (hread : list.map Address.read = found.map .ok) :
    ∃ found' : List Address, list'.map Address.read = found'.map .ok := by
  have hall : ∀ text ∈ list', Bootstrap.Readable text := by
    intro text htext
    obtain ⟨first, hfirst, hsame⟩ := h.left text htext
    obtain ⟨a, ha⟩ := Bootstrap.readable_of_map hread first hfirst
    exact ⟨a, hsame.read_iff.mp ha⟩
  exact (Bootstrap.exists_addresses hall).imp fun _ => Bootstrap.addresses_eq_ok.mp

theorem mem_of_read (hread : list.map Address.read = found.map .ok) {a : Address} :
    a ∈ found ↔ ∃ text ∈ list, Address.read text = .ok a := by
  have hmem : (.ok a : Except Hex.Fault Address) ∈ found.map .ok ↔ a ∈ found := by simp
  rw [← hmem, ← hread, List.mem_map]

theorem SameListed.mem_iff (h : SameListed list list') (hread : list.map Address.read = found.map .ok)
    (hread' : list'.map Address.read = found'.map .ok) {a : Address} : a ∈ found' ↔ a ∈ found := by
  rw [mem_of_read hread, mem_of_read hread']
  constructor
  · rintro ⟨text', htext', ha⟩
    obtain ⟨text, htext, hsame⟩ := h.left text' htext'
    exact ⟨text, htext, hsame.read_iff.mpr ha⟩
  · rintro ⟨text, htext, ha⟩
    obtain ⟨text', htext', hsame⟩ := h.right text htext
    exact ⟨text', htext', hsame.read_iff.mp ha⟩

end

/-- However the settings are written, the policy is the same. -/
theorem policy_of_respelled (h : s.Respelled t) {clock clock' : Clock} {g : Guard}
    (hg : s.bootstrapGuard clock = .ok g) : ∃ g', t.bootstrapGuard clock' = .ok g' ∧ g'.policy = g.policy := by
  obtain ⟨governance, e, hgovernance, hentries, rfl⟩ := bootstrapGuard_iff_entries.mp hg
  obtain ⟨senders, hsenders⟩ := h.senders.readable hentries.senders
  obtain ⟨withdraw, hwithdraw⟩ := h.withdrawDestinations.readable hentries.withdrawDestinations
  obtain ⟨assets, hassets⟩ := h.assets.readable hentries.assets
  obtain ⟨tokens, htokens⟩ := h.tokens.readable hentries.tokens
  obtain ⟨routers, hrouters⟩ := h.routers.readable hentries.routers
  let e' : Bootstrap.Entries := ⟨senders, withdraw, assets, tokens, routers⟩
  have hgovernance' := h.governance.read_iff.mp hgovernance
  have hentries' : e'.ReadFrom t.bootstrap := ⟨hsenders, hwithdraw, hassets, htokens, hrouters⟩
  have hnames : ∀ key, e'.Names key ↔ e.Names key := by
    intro key
    cases key with
    | callSite site =>
      exact or_congr (and_congr_left' (h.tokens.mem_iff hentries.tokens htokens))
        (and_congr_left' (h.routers.mem_iff hentries.routers hrouters))
    | asset a => exact h.assets.mem_iff hentries.assets hassets
    | sender a => exact h.senders.mem_iff hentries.senders hsenders
    | withdrawDestination a => exact h.withdrawDestinations.mem_iff hentries.withdrawDestinations hwithdraw
    | approvalDestination a => exact h.routers.mem_iff hentries.routers hrouters
  refine ⟨_, bootstrapGuard_iff_entries.mpr ⟨governance, e', hgovernance', hentries', rfl⟩, ?_⟩
  refine Policy.ext_mem ?_ fun key => ?_
  · exact (e'.owner_guard governance clock').trans (e.owner_guard governance clock).symm
  · rw [e'.mem_policy_guard, e.mem_policy_guard, hnames]

/-! ## What is configured is what is built -/

theorem exists_bootstrapGuard_iff {clock : Clock} : (∃ g, s.bootstrapGuard clock = .ok g) ↔ s.Readable := by
  constructor
  · rintro ⟨g, hg⟩
    obtain ⟨governance, e, hgovernance, hentries, -⟩ := bootstrapGuard_iff_entries.mp hg
    refine ⟨⟨governance, hgovernance⟩, ?_⟩
    simp only [Bootstrap.lists, List.forall_mem_cons]
    exact ⟨Bootstrap.readable_of_map hentries.senders, Bootstrap.readable_of_map hentries.withdrawDestinations,
      Bootstrap.readable_of_map hentries.assets, Bootstrap.readable_of_map hentries.tokens,
      Bootstrap.readable_of_map hentries.routers, List.forall_mem_nil _⟩
  · exact fun h => Guard.exists_bootstrapGuard h.governance h.lists clock

/-- What cannot be read first is what building fails by. -/
theorem bootstrapGuard_of_firstUnread {name text : String} {fault : Hex.Fault}
    (hgovernance : Bootstrap.Readable s.governance) (h : s.bootstrap.FirstUnread name text fault) (clock : Clock) :
    s.bootstrapGuard clock = .error (.badAddress text fault) := by
  obtain ⟨governance, hread⟩ := hgovernance
  have hread' : s.readGovernance = .ok governance := Outcome.mapError_eq_ok.mpr hread
  have hfail : (s.bootstrap.operations >>= fun _ => pure ()) = .error (.badAddress text fault) := by
    rw [Bootstrap.operations_discard]
    exact Bootstrap.readAll_eq_error.mpr ⟨name, text, fault, h, rfl⟩
  have hops : s.bootstrap.operations = .error (.badAddress text fault) :=
    (Outcome.bind_eq_error.mp hfail).resolve_right fun ⟨_, _, hok⟩ => nomatch hok
  rw [bootstrapGuard, hread', hops]
  rfl

end Settings

/-- The guard to begin with can be built if and only if everything in the settings can be read. It is built of the
    configured entries, whichever way they are written, and tells them. Settings that pass the check can be built, and
    where a list does not pass it, the first text that cannot be read is named. -/
structure Settings.BuildsAsConfigured (s : Settings) : Prop where
  built_iff : ∀ clock, (∃ g, s.bootstrapGuard clock = .ok g) ↔ s.Readable
  built : ∀ clock g, s.bootstrapGuard clock = .ok g → ∃ e, s.BuiltFrom clock g e
  respelled : ∀ t clock clock' g, s.Respelled t → s.bootstrapGuard clock = .ok g →
    ∃ g', t.bootstrapGuard clock' = .ok g' ∧ g'.policy = g.policy
  predicted : s.validate = .ok () → ∀ clock, ∃ g, s.bootstrapGuard clock = .ok g
  unread : ∀ name text fault, s.validate = .error (.badList name text fault) →
    s.bootstrap.FirstUnread name text fault ∧ ∀ clock, s.bootstrapGuard clock = .error (.badAddress text fault)

theorem Settings.buildsAsConfigured (s : Settings) : s.BuildsAsConfigured where
  built_iff _ := exists_bootstrapGuard_iff
  built clock g hg := by
    obtain ⟨governance, e, hgovernance, hentries, rfl⟩ := bootstrapGuard_iff_entries.mp hg
    exact ⟨e, builtFrom_guard hgovernance hentries⟩
  respelled _ _ _ _ h hg := policy_of_respelled h hg
  predicted hvalid _ := exists_bootstrapGuard_iff.mpr (validate_eq_ok.mp hvalid).2
  unread name text fault h := by
    obtain ⟨hhead, hfirst⟩ := validate_eq_badList.mp h
    exact ⟨hfirst, bootstrapGuard_of_firstUnread hhead.governance hfirst⟩

/-- One address is a wallet, a token and a router, and is spelled in two ways. -/
theorem Settings.buildsAsConfigured_respelled :
    let lower := "0x00000000000000000000000000000000000000ab"
    let upper := "00000000000000000000000000000000000000AB"
    let s : Settings :=
      { governance := lower, bootstrap := { senders := [lower], tokens := [lower], routers := [lower] } }
    let t : Settings :=
      { governance := lower, bootstrap := { senders := [upper, lower], tokens := [upper], routers := [lower, lower] } }
    ∃ g g', s.validate = .ok () ∧ s.bootstrapGuard .epoch = .ok g ∧
      t.bootstrapGuard Timestamp.ofNanoseconds = .ok g' ∧ g'.policy = g.policy := by
  intro lower upper s t
  have hread : Bootstrap.Readable lower := ⟨.ofNat 20 0xab, Octets.read_toHex (.ofNat 20 0xab)⟩
  have hvalid : s.validate = .ok () := by
    refine validate_eq_ok.mpr ⟨⟨by decide, hread, by decide⟩, hread, ?_⟩
    simp [Bootstrap.lists, s, hread]
  have hsame : SameDigits lower upper := by
    rw [SameDigits]
    decide
  have hlisted : ∀ {first rest}, (∀ text ∈ first :: rest, text = lower ∨ text = upper) →
      SameListed [lower] (first :: rest) := by
    intro first rest h
    have hdigits : ∀ text ∈ first :: rest, SameDigits lower text := by
      intro text htext
      rcases h text htext with rfl | rfl
      · exact rfl
      · exact hsame
    refine ⟨fun text htext => ⟨first, List.mem_cons_self, ?_⟩, fun text htext => ⟨lower, List.mem_cons_self, ?_⟩⟩
    · rw [List.mem_singleton.mp htext]
      exact hdigits first List.mem_cons_self
    · exact hdigits text htext
  have hrespelled : s.Respelled t :=
    ⟨rfl, hlisted (by simp), SameListed.refl [], SameListed.refl [], hlisted (by simp), hlisted (by simp)⟩
  have hbuilds := buildsAsConfigured s
  obtain ⟨g, hg⟩ := hbuilds.predicted hvalid .epoch
  obtain ⟨g', hg', hpolicy⟩ := hbuilds.respelled t _ Timestamp.ofNanoseconds g hrespelled hg
  exact ⟨g, g', hvalid, hg, hg', hpolicy⟩

end CallGuard
