import CallGuard.Settings
import CallGuard.Settings.Environment
import CallGuard.Settings.Path
import CallGuard.Toml.Document

/-! # Loading settings

Settings come from defaults, over which a file is put, over which variables of the environment are put. A variable is
named `GUARD`, the name of a section and the name of a setting in any case, with two underscores between them. -/

namespace CallGuard

namespace Setting

/-- The text of a scalar. -/
def text? : Setting → Option String
  | .text s => some s
  | .integer n => some (toString n)
  | .float x => some x.text
  | .boolean b => some (if b then "true" else "false")
  | _ => none

/-- The truth value of a scalar. -/
def boolean? : Setting → Option Bool
  | .boolean b => some b
  | .integer n => some (n ≠ 0)
  | .float x => some (!x.isZero)
  | .text s =>
    let s := lowercase s
    if s ∈ ["1", "true", "on", "yes"] then some true
    else if s ∈ ["0", "false", "off", "no"] then some false
    else none
  | _ => none

/-- The texts of a list of scalars. -/
def texts? : Setting → Option (List String)
  | .list items => items.mapM text?
  | _ => none

/-- The parts of a section with these names, which may also be a list of its parts in order. -/
def section? (names : List String) : Setting → Option (String → Option Setting)
  | .table entries => some (Entries.get? entries)
  | .list items => some fun name => items[names.idxOf name]?
  | _ => none

/-- A part that stands for a default where it is missing. -/
def part {α : Type} (parts : String → Option Setting) (name : String) (default : α) (read : Setting → Option α) :
    Option α :=
  match parts name with
  | some v => read v
  | none => some default

end Setting

namespace Settings

/-- The settings that stand where no source gives others. -/
def defaults : Setting.Entries :=
  let s : Settings := {}
  Setting.putSource [] [("guard.policy_file", .text s.policyFile), ("guard.audit_log", .text s.auditLog),
    ("logging.level", .text s.logLevel)]

/-- What the names of variables that hold settings begin with. -/
def variableStart : List Char := ['g', 'u', 'a', 'r', 'd', '_', '_']

/-- A name with every two underscores replaced by a dot. -/
def dotted : List Char → List Char
  | '_' :: '_' :: rest => '.' :: dotted rest
  | c :: rest => c :: dotted rest
  | [] => []

/-- The setting that a variable holds. -/
def ofVariable? (entry : String × String) : Option (String × Setting) :=
  let name := (lowercase entry.1).toList
  if name.take variableStart.length = variableStart then
    some (String.ofList (dotted (name.drop variableStart.length)), .text entry.2)
  else none

/-- All sources put together. -/
def tree (file : Setting.Entries) (env : Environment) : Setting.Entries :=
  Setting.putSource (Setting.putSource defaults file) (env.filterMap ofVariable?)

/-- The settings that a tree holds. -/
def ofTree? (tree : Setting.Entries) : Option Settings := do
  let root := Setting.Entries.get? tree
  let default : Settings := {}
  let own ← (← root "guard").section? ["governance", "policy_file", "audit_log"]
  let bootstrap ← ((root "bootstrap").getD (.table [])).section?
    ["senders", "withdraw_destinations", "assets", "tokens", "routers"]
  let logging ← ((root "logging").getD (.table [])).section? ["level", "json"]
  return {
    governance := ← Setting.part own "governance" default.governance Setting.text?
    policyFile := ← Setting.part own "policy_file" default.policyFile Setting.text?
    auditLog := ← Setting.part own "audit_log" default.auditLog Setting.text?
    bootstrap := {
      senders := ← Setting.part bootstrap "senders" [] Setting.texts?
      withdrawDestinations := ← Setting.part bootstrap "withdraw_destinations" [] Setting.texts?
      assets := ← Setting.part bootstrap "assets" [] Setting.texts?
      tokens := ← Setting.part bootstrap "tokens" [] Setting.texts?
      routers := ← Setting.part bootstrap "routers" [] Setting.texts? }
    logLevel := ← Setting.part logging "level" default.logLevel Setting.text?
    logJson := ← Setting.part logging "json" default.logJson Setting.boolean? }

/-- The settings of a file, given by its text if there is one, and of the environment. -/
def load (file : Option String) (env : Environment) : Except SettingsFault Settings := do
  let entries ← match file with
    | none => pure []
    | some text =>
      match Toml.parse? text with
      | some entries => pure (Setting.ofTomlEntries entries)
      | none => throw .notBuilt
  match ofTree? (tree entries env) with
  | none => throw .notRead
  | some s =>
    s.validate
    return s

end Settings

end CallGuard
