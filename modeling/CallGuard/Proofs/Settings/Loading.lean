import CallGuard.Proofs.Outcome
import CallGuard.Proofs.Settings.Layers

/-! # Loading from the layers

Where the sections of the file are tables, settings are loaded exactly if every setting is what the layers give for it
and the settings can be used (`load_iff_layered`). The lists of the policy to begin with are then those of the file,
whatever the variables are.

Names at the top of the file and names of variables are read as paths, though, and a path may go by the number of an
item. So the lists are not the file's alone: a variable with a number in its name puts an entry into one
(`sender_from_variable`). -/

namespace CallGuard

namespace Settings
open Setting (part text? boolean? texts?)

/-- The entries of a file of settings, which need not be there. -/
def entriesOf? : Option String → Option Toml.Entries
  | none => some []
  | some text => Toml.parse? text

/-- A list is the one that the file holds, or empty where it holds none, and no variable reaches it. -/
structure Listed (file : Toml.Entries) (env : Environment) (key : String) (list : List String) : Prop where
  unset : ∀ v ∈ env, ¬ Reaches "bootstrap" key v
  held : (∃ node, file.Holds "bootstrap" key node ∧ texts? (.ofToml node) = some list) ∨
    (∀ node, ¬ file.Holds "bootstrap" key node) ∧ list = []

/-- Every setting is what the layers give for it. -/
structure Layered (s : Settings) (file : Toml.Entries) (env : Environment) : Prop where
  governance : Given file env "guard" "governance" text? "" s.governance
  policyFile : Given file env "guard" "policy_file" text? "policy.json" s.policyFile
  auditLog : Given file env "guard" "audit_log" text? "audit.jsonl" s.auditLog
  senders : Listed file env "senders" s.bootstrap.senders
  withdrawDestinations : Listed file env "withdraw_destinations" s.bootstrap.withdrawDestinations
  assets : Listed file env "assets" s.bootstrap.assets
  tokens : Listed file env "tokens" s.bootstrap.tokens
  routers : Listed file env "routers" s.bootstrap.routers
  logLevel : Given file env "logging" "level" text? "info" s.logLevel
  logJson : Given file env "logging" "json" boolean? false s.logJson

/-! ## How the settings are read -/

section
variable {head key default : String}

theorem isRead_text (hplace : (head, key) ∈ places)
    (hpreset : ((defaults.within head).get? key).all (text? · == some default) = true) :
    IsRead head key text? default := by
  refine ⟨hplace, fun v hv => ?_, fun _ => rfl, .inr fun _ => rfl⟩
  rw [hv, Option.all_some, beq_iff_eq] at hpreset
  exact hpreset

theorem isRead_json : IsRead "logging" "json" boolean? false := by
  refine ⟨by decide, fun v hv => ?_, fun _ => rfl, .inr fun _ => rfl⟩
  rw [defaults_eq] at hv
  cases hv

theorem isRead_list (hplace : ("bootstrap", key) ∈ places) : IsRead "bootstrap" key texts? [] := by
  refine ⟨hplace, fun v hv => ?_, fun _ => rfl, .inl rfl⟩
  rw [defaults_eq] at hv
  cases hv

end

/-! ## The whole tree -/

section
variable {tree : Setting.Entries} {s : Settings}

/-- A tree whose sections are tables holds settings exactly if each of its parts is read as they have it. -/
theorem ofTree?_eq_some (hguard : (tree.get? "guard").isSome) (htables : ∀ head ∈ sections, tree.IsTable head) :
    ofTree? tree = some s ↔
      (part (tree.within "guard").get? "governance" "" text? = some s.governance ∧
        part (tree.within "guard").get? "policy_file" "policy.json" text? = some s.policyFile ∧
        part (tree.within "guard").get? "audit_log" "audit.jsonl" text? = some s.auditLog) ∧
      (part (tree.within "bootstrap").get? "senders" [] texts? = some s.bootstrap.senders ∧
        part (tree.within "bootstrap").get? "withdraw_destinations" [] texts? =
          some s.bootstrap.withdrawDestinations ∧
        part (tree.within "bootstrap").get? "assets" [] texts? = some s.bootstrap.assets ∧
        part (tree.within "bootstrap").get? "tokens" [] texts? = some s.bootstrap.tokens ∧
        part (tree.within "bootstrap").get? "routers" [] texts? = some s.bootstrap.routers) ∧
      part (tree.within "logging").get? "level" "info" text? = some s.logLevel ∧
      part (tree.within "logging").get? "json" false boolean? = some s.logJson := by
  have hown : tree.get? "guard" = some (.table (tree.within "guard")) := by
    obtain ⟨v, hv⟩ := Option.isSome_iff_exists.mp hguard
    rw [← Setting.Entries.getD_eq_table (htables _ (by decide)), hv, Option.getD_some]
  have hbootstrap := Setting.Entries.getD_eq_table (htables "bootstrap" (by decide))
  have hlogging := Setting.Entries.getD_eq_table (htables "logging" (by decide))
  rw [ofTree?]
  dsimp only
  rw [hown, hbootstrap, hlogging, Option.bind_eq_bind, Option.bind_some, Setting.section?, Option.bind_eq_bind,
    Option.bind_some, Setting.section?, Option.bind_some, Setting.section?, Option.bind_some]
  constructor
  · intro h
    obtain ⟨_, governance, h⟩ := Option.bind_eq_some_iff.mp h
    obtain ⟨_, policyFile, h⟩ := Option.bind_eq_some_iff.mp h
    obtain ⟨_, auditLog, h⟩ := Option.bind_eq_some_iff.mp h
    obtain ⟨_, senders, h⟩ := Option.bind_eq_some_iff.mp h
    obtain ⟨_, destinations, h⟩ := Option.bind_eq_some_iff.mp h
    obtain ⟨_, assets, h⟩ := Option.bind_eq_some_iff.mp h
    obtain ⟨_, tokens, h⟩ := Option.bind_eq_some_iff.mp h
    obtain ⟨_, routers, h⟩ := Option.bind_eq_some_iff.mp h
    obtain ⟨_, level, h⟩ := Option.bind_eq_some_iff.mp h
    obtain ⟨_, json, h⟩ := Option.bind_eq_some_iff.mp h
    cases h
    exact ⟨⟨governance, policyFile, auditLog⟩, ⟨senders, destinations, assets, tokens, routers⟩, level, json⟩
  · rintro ⟨⟨governance, policyFile, auditLog⟩, ⟨senders, destinations, assets, tokens, routers⟩, level, json⟩
    rw [governance, policyFile, auditLog, senders, destinations, assets, tokens, routers, level, json]
    rfl

end

section
variable {file : Option String} {entries : Toml.Entries} {env : Environment} {s : Settings} {key : String}
  {list : List String}

theorem isSome_get?_guard (file : Toml.Entries) (env : Environment) :
    ((tree (Setting.ofTomlEntries file) env).get? "guard").isSome :=
  Setting.isSome_get?_putSource (Setting.isSome_get?_putSource (by rw [defaults_eq]; rfl))

/-- What the layers give for a list is never that of a variable. -/
theorem given_iff_listed : Given entries env "bootstrap" key texts? [] list ↔ Listed entries env key list := by
  constructor
  · intro h
    cases h with
    | ofVariable _ _ _ hread => cases hread
    | ofFile hunset hholds hread => exact ⟨hunset, .inl ⟨_, hholds, hread⟩⟩
    | ofEmpty _ _ hpreset =>
      rw [defaults_eq] at hpreset
      cases hpreset
    | ofDefault hunset hnone => exact ⟨hunset, .inr ⟨hnone, rfl⟩⟩
  · rintro ⟨hunset, ⟨node, hholds, hread⟩ | ⟨hnone, rfl⟩⟩
    · exact .ofFile hunset hholds hread
    · exact .ofDefault hunset hnone

theorem load_eq_ok (hfile : entriesOf? file = some entries) :
    load file env = .ok s ↔ ofTree? (tree (Setting.ofTomlEntries entries) env) = some s ∧ s.validate = .ok () := by
  have hload : load file env = (ofTree? (tree (Setting.ofTomlEntries entries) env)).elim (.error .notRead)
      fun found => found.validate >>= fun _ => .ok found := by
    cases file with
    | none =>
      cases hfile
      simp only [load, Setting.ofTomlEntries, pure_bind]
      cases ofTree? (tree [] env) <;> rfl
    | some text =>
      simp only [load, show Toml.parse? text = some entries from hfile, pure_bind]
      cases ofTree? (tree (Setting.ofTomlEntries entries) env) <;> rfl
  rw [hload]
  cases ofTree? (tree (Setting.ofTomlEntries entries) env) with
  | none => simp
  | some found =>
    rw [Option.elim_some, Outcome.bind_eq_ok, Option.some_inj]
    constructor
    · rintro ⟨_, hvalid, hfound⟩
      cases hfound
      exact ⟨rfl, hvalid⟩
    · rintro ⟨rfl, hvalid⟩
      exact ⟨(), hvalid, rfl⟩

theorem ofTree?_tree_iff (hsections : Sectioned entries) (hdirect : ∀ entry ∈ entries, ¬ EntersSection entry.1)
    (hwhole : ∀ v ∈ env, ¬ NamesSection v.1) (hcounts : ∀ v ∈ env, ¬ Counts v) :
    ofTree? (tree (Setting.ofTomlEntries entries) env) = some s ↔ s.Layered entries env := by
  have hpart {α : Type} {head key : String} {read : Setting → Option α} {default x : α}
      (hread : IsRead head key read default) := part_tree_iff (x := x) hsections hdirect hread hwhole hcounts
  have htables : ∀ head ∈ sections, (tree (Setting.ofTomlEntries entries) env).IsTable head :=
    fun head hhead => isTable_tree hsections hdirect hhead hwhole hcounts
  rw [ofTree?_eq_some (isSome_get?_guard entries env) htables,
    hpart (isRead_text (by decide) (by rw [defaults_eq]; rfl)),
    hpart (isRead_text (by decide) (by rw [defaults_eq]; rfl)),
    hpart (isRead_text (by decide) (by rw [defaults_eq]; rfl)),
    hpart (isRead_list (by decide)), hpart (isRead_list (by decide)), hpart (isRead_list (by decide)),
    hpart (isRead_list (by decide)), hpart (isRead_list (by decide)),
    hpart (isRead_text (by decide) (by rw [defaults_eq]; rfl)), hpart isRead_json]
  simp only [given_iff_listed]
  constructor
  · rintro ⟨⟨governance, policyFile, auditLog⟩, ⟨senders, destinations, assets, tokens, routers⟩, level, json⟩
    exact ⟨governance, policyFile, auditLog, senders, destinations, assets, tokens, routers, level, json⟩
  · rintro ⟨governance, policyFile, auditLog, senders, destinations, assets, tokens, routers, level, json⟩
    exact ⟨⟨governance, policyFile, auditLog⟩, ⟨senders, destinations, assets, tokens, routers⟩, level, json⟩

/-- Where the sections of the file are tables, no name at its top is a path into one, and no variable is a whole section
    or goes by a number, every setting that is loaded is what the layers give for it. -/
theorem load_iff_layered (hfile : entriesOf? file = some entries) (hsections : Sectioned entries)
    (hdirect : ∀ entry ∈ entries, ¬ EntersSection entry.1) (hwhole : ∀ v ∈ env, ¬ NamesSection v.1)
    (hcounts : ∀ v ∈ env, ¬ Counts v) :
    load file env = .ok s ↔ s.Layered entries env ∧ s.validate = .ok () := by
  rw [load_eq_ok hfile, ofTree?_tree_iff hsections hdirect hwhole hcounts]

end

/-! ## A file with an empty list -/

/-- A file with a governance identity and an empty list of senders. -/
def emptyListFile : String :=
  "[guard]\ngovernance = \"0x0101010101010101010101010101010101010101\"\n\n[bootstrap]\nsenders = []\n"

def emptyListEntries : Toml.Entries :=
  [("guard", .table .header [("governance", .text "0x0101010101010101010101010101010101010101")]),
    ("bootstrap", .table .header [("senders", .list [])])]

/-- Whether entries are those of the file. -/
def isEmptyList : Toml.Entries → Bool
  | [(first, .table .header [(key, .text text)]), (second, .table .header [(list, .list [])])] =>
    [first, key, text, second, list] =
      ["guard", "governance", "0x0101010101010101010101010101010101010101", "bootstrap", "senders"]
  | _ => false

theorem eq_of_isEmptyList {entries : Toml.Entries} (h : isEmptyList entries = true) : entries = emptyListEntries := by
  unfold isEmptyList at h
  split at h
  · simp only [decide_eq_true_eq, List.cons.injEq, and_true] at h
    obtain ⟨rfl, rfl, rfl, rfl, rfl⟩ := h
    rfl
  · cases h

theorem entriesOf?_emptyListFile : entriesOf? (some emptyListFile) = some emptyListEntries := by
  have hread : (entriesOf? (some emptyListFile)).any isEmptyList = true := by decide +kernel
  cases hentries : entriesOf? (some emptyListFile) with
  | none =>
    rw [hentries] at hread
    cases hread
  | some entries =>
    rw [hentries] at hread
    rw [eq_of_isEmptyList hread]

theorem sectioned_emptyListEntries : Sectioned emptyListEntries := by
  refine ⟨fun name node hmem _ => ?_, by decide, fun name origin inner hmem => ?_⟩
  · simp only [emptyListEntries, List.mem_cons, List.not_mem_nil, or_false, Prod.mk.injEq] at hmem
    rcases hmem with ⟨-, rfl⟩ | ⟨-, rfl⟩ <;> exact ⟨_, _, rfl⟩
  · simp only [emptyListEntries, List.mem_cons, List.not_mem_nil, or_false, Prod.mk.injEq,
      Toml.Node.table.injEq] at hmem
    rcases hmem with ⟨-, -, rfl⟩ | ⟨-, -, rfl⟩ <;> decide

theorem direct_emptyListEntries : ∀ entry ∈ emptyListEntries, ¬ EntersSection entry.1 := by
  have hnames : ∀ entry ∈ emptyListEntries, lowercase entry.1 ∈ sections := by
    simp only [emptyListEntries, List.forall_mem_cons]
    decide
  exact fun entry hentry => not_entersSection_of_mem (hnames entry hentry)

/-- A variable names the file of the policy, in a case of its own; the list of senders stays the file's. -/
theorem load_iff_layered_policy_file :
    let env := [("GUARD__Guard__Policy_File", "other.json")]
    ∃ s : Settings, entriesOf? (some emptyListFile) = some emptyListEntries ∧ Sectioned emptyListEntries ∧
      (∀ entry ∈ emptyListEntries, ¬ EntersSection entry.1) ∧ (∀ v ∈ env, ¬ NamesSection v.1) ∧
      (∀ v ∈ env, ¬ Counts v) ∧ load (some emptyListFile) env = .ok s ∧
      s.Layered emptyListEntries env ∧ s.policyFile = "other.json" ∧ s.bootstrap.senders = [] := by
  intro env
  let s : Settings :=
    { governance := "0x0101010101010101010101010101010101010101"
      policyFile := "other.json" }
  have hwhole : ∀ v ∈ env, ¬ NamesSection v.1 := by
    simp only [env, NamesSection]
    decide
  have hcounts : ∀ v ∈ env, ¬ Counts v :=
    List.forall_mem_singleton.mpr (not_counts (by decide))
  have hload : (load (some emptyListFile) env).toOption = some s := by
    decide +kernel
  have hok := Outcome.toOption_eq_some.mp hload
  have hlayered := (load_iff_layered entriesOf?_emptyListFile sectioned_emptyListEntries direct_emptyListEntries hwhole
    hcounts).mp hok
  exact ⟨s, entriesOf?_emptyListFile, sectioned_emptyListEntries, direct_emptyListEntries, hwhole, hcounts, hok,
    hlayered.1, rfl, rfl⟩

/-- A variable puts a sender into the policy to begin with, where the file has an empty list of them. -/
theorem sender_from_variable :
    let sender := "0x5e5e5e5e5e5e5e5e5e5e5e5e5e5e5e5e5e5e5e5e"
    let env := [("GUARD__BOOTSTRAP__SENDERS[0]", sender)]
    ∃ s : Settings, entriesOf? (some emptyListFile) = some emptyListEntries ∧ Sectioned emptyListEntries ∧
      (env.map (lowercase ·.1)).Nodup ∧ (∀ v ∈ env, ¬ NamesSection v.1) ∧ load (some emptyListFile) env = .ok s ∧
      emptyListEntries.Holds "bootstrap" "senders" (.list []) ∧ s.bootstrap.senders = [sender] := by
  intro sender env
  let s : Settings :=
    { governance := "0x0101010101010101010101010101010101010101"
      bootstrap := { senders := [sender] } }
  have hwhole : ∀ v ∈ env, ¬ NamesSection v.1 := by
    simp only [env, NamesSection]
    decide
  have hload : (load (some emptyListFile) env).toOption = some s := by
    decide +kernel
  have hholds : emptyListEntries.Holds "bootstrap" "senders" (.list []) :=
    ⟨"bootstrap", .header, _, "senders", by simp [emptyListEntries], by decide, List.mem_singleton_self _, by decide⟩
  exact ⟨s, entriesOf?_emptyListFile, sectioned_emptyListEntries, by simp [env], hwhole,
    Outcome.toOption_eq_some.mp hload, hholds, rfl⟩

end Settings

end CallGuard
