/-! # Arguments

How the arguments of a command line are told apart: options, which may carry a value, positional arguments, and the name
of a command, to which all arguments behind it belong. What is wrong or asks for help is met from left to right. -/

namespace CallGuard

namespace CommandLine

/-- Why a command line is not carried out. -/
inductive Halt where
  /-- It asks for help. -/
  | help
  /-- It names no command, so help is shown. -/
  | noCommand
  /-- It asks for the version. -/
  | version
  /-- It is wrong. -/
  | usage
  deriving DecidableEq, Repr

/-- How often an option may be given, and whether it carries a value. -/
inductive OptionKind where
  | flag
  | single
  | repeated
  deriving DecidableEq, Repr

/-- The arguments that a command takes. -/
structure Shape where
  /-- The options by name. -/
  options : List (String × OptionKind) := []
  /-- The options that have a letter. -/
  letters : List (Char × String) := []
  /-- Which texts each positional argument may be. -/
  positionals : List (String → Bool) := []
  /-- The commands that may follow. -/
  commands : List String := []
  /-- Whether the version can be asked for. -/
  hasVersion : Bool := false

/-- The arguments that a command was given. -/
structure Found where
  /-- The flags. -/
  flags : List String := []
  /-- The options with their values, in order. -/
  values : List (String × String) := []
  /-- The positional arguments, in order. -/
  positionals : List String := []
  /-- The command that follows, and its arguments. -/
  command : Option (String × List String) := none

namespace Found

/-- Whether no argument was given. -/
def isEmpty (f : Found) : Bool :=
  f.flags.isEmpty && f.values.isEmpty && f.positionals.isEmpty

/-- The value of an option, the first if there are several. -/
def value? (f : Found) (name : String) : Option String :=
  (f.values.find? (·.1 = name)).map (·.2)

/-- The value of an option that must be given. -/
def required (f : Found) (name : String) : Except Halt String :=
  match f.value? name with
  | some value => .ok value
  | none => .error .usage

/-- All values of an option, in order. -/
def all (f : Found) (name : String) : List String :=
  (f.values.filter (·.1 = name)).map (·.2)

/-- Whether a flag was given. -/
def hasFlag (f : Found) (name : String) : Bool :=
  f.flags.contains name

/-- A positional argument that must be given. -/
def positional (f : Found) (i : Nat) : Except Halt String :=
  match f.positionals[i]? with
  | some text => .ok text
  | none => .error .usage

/-- Adds a flag, which may be given once. -/
def addFlag (f : Found) (name : String) : Except Halt Found :=
  if f.flags.contains name then .error .usage else .ok { f with flags := f.flags ++ [name] }

/-- Adds an option with its value. -/
def addValue (f : Found) (kind : OptionKind) (name value : String) : Except Halt Found :=
  if kind = .single ∧ (f.value? name).isSome then .error .usage
  else .ok { f with values := f.values ++ [(name, value)] }

/-- Adds a positional argument. -/
def addPositional (f : Found) (shape : Shape) (text : String) : Except Halt Found :=
  match shape.positionals[f.positionals.length]? with
  | some accepts => if accepts text then .ok { f with positionals := f.positionals ++ [text] } else .error .usage
  | none => .error .usage

end Found

/-- What an argument is. -/
inductive Argument where
  /-- The name of a command. -/
  | command
  /-- The end of options. -/
  | endOfOptions
  /-- An option, and the value attached to it. -/
  | option (name : String) (attached : Option String)
  /-- No option. -/
  | plain
  deriving DecidableEq, Repr

/-- The value behind the equals sign in a text, and what stands before it. -/
def splitAtEquals (cs : List Char) : String × Option String :=
  match cs.dropWhile (· ≠ '=') with
  | _ :: value => (String.ofList (cs.takeWhile (· ≠ '=')), some (String.ofList value))
  | [] => (String.ofList cs, none)

/-- The value attached to the letter of an option; an equals sign in front of it is left out. -/
def attachedToLetter : List Char → Option String
  | [] => none
  | '=' :: value => some (String.ofList value)
  | value => some (String.ofList value)

/-- What an argument is that stands before the end of options. -/
def Shape.classify (shape : Shape) (text : String) : Except Halt Argument :=
  if shape.commands.contains text then .ok .command
  else
    match text.toList with
    | ['-', '-'] => .ok .endOfOptions
    | '-' :: '-' :: rest =>
      let (name, attached) := splitAtEquals rest
      .ok (.option name attached)
    | ['-'] => .ok .plain
    | '-' :: letter :: rest =>
      if letter = 'h' then .error .help
      else if letter = 'V' ∧ shape.hasVersion then .error .version
      else
        match shape.letters.find? (·.1 = letter) with
        | some (_, name) => .ok (.option name (attachedToLetter rest))
        | none => .error .usage
    | _ => .ok .plain

/-- Whether a text can be the value of the option before it. -/
def canBeValue (text : String) : Bool :=
  match text.toList with
  | '-' :: _ :: _ => false
  | _ => true

/-- Goes over arguments behind the end of options. -/
def Shape.scanPlain (shape : Shape) (found : Found) (args : List String) : Except Halt Found :=
  args.foldlM (fun found text => found.addPositional shape text) found

/-- Goes over the arguments of a command. -/
def Shape.scan (shape : Shape) (found : Found) : List String → Except Halt Found
  | [] => .ok found
  | text :: rest => do
    match ← shape.classify text with
    | .command => return { found with command := some (text, rest) }
    | .endOfOptions => shape.scanPlain found rest
    | .plain => shape.scan (← found.addPositional shape text) rest
    | .option name attached =>
      match shape.options.lookup name, attached with
      | some .flag, none => shape.scan (← found.addFlag name) rest
      | some .flag, some _ => throw .usage
      | some kind, some value => shape.scan (← found.addValue kind name value) rest
      | some kind, none =>
        match rest with
        | value :: rest =>
          if canBeValue value then shape.scan (← found.addValue kind name value) rest else throw .usage
        | [] => throw .usage
      | none, none =>
        if name = "help" then throw .help
        else if name = "version" ∧ shape.hasVersion then throw .version
        else throw .usage
      | none, some _ => throw .usage

/-- Rejects arguments without a command: where there are none at all, help is shown. -/
def Found.needCommand (found : Found) : Except Halt (String × List String) :=
  match found.command with
  | some command => .ok command
  | none => .error (if found.isEmpty then .noCommand else .usage)

end CommandLine

end CallGuard
