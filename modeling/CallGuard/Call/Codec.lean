import CallGuard.Call.Frame
import CallGuard.Payload

/-! # Calls as payloads

The payload of a call, and the call that a payload makes. A payload is decoded for a function that is known beforehand;
what keeps it from being a call of that function is named. -/

namespace CallGuard

/-- Why a payload is not a call. -/
inductive Malformed where
  /-- The payload is too short for a selector. -/
  | noSelector (size : Nat)
  /-- The arguments do not follow the layout of the function. -/
  | layout (f : Function) (fault : LayoutFault)
  /-- A swap along no tokens at all. -/
  | emptyPath
  deriving DecidableEq

/-- The wording of a failed check of what some data stands for. -/
def checkFailed (what : String) (data : Bytes) : String :=
  "type check failed for \"" ++ what ++ "\" with data: " ++ String.ofList (Hex.encode data)

/-- The wording of a fault in the arguments of a function. -/
def LayoutFault.message (f : Function) : LayoutFault → String
  | .overrun => "ABI decoding failed: buffer overrun while deserializing"
  | .otherSelector start => checkFailed f.name start
  | .wideSize word => checkFailed "offset (usize)" word.bytes
  | .dirtyAddress value => checkFailed f.argumentTypes value
  | .unaddressableArray =>
    "memory allocation failed because the computed capacity exceeded the collection's maximum"
  | .unheldArray => "memory allocation failed because the memory allocator returned an error"

/-- The wording of a reason. -/
def Malformed.message : Malformed → String
  | .noSelector size => "payload of " ++ toString size ++ " bytes has no selector"
  | .layout f fault => f.signature ++ ": " ++ fault.message f
  | .emptyPath => "swap path is empty"

namespace Call

/-- The payload that makes a call. -/
def encode (c : Call) : Bytes :=
  c.function.selector.bytes ++ c.frame.encode

/-- The arguments behind the selector of a function. -/
def argumentsOf (f : Function) (data : Bytes) : Except LayoutFault Bytes :=
  match Payload.split? data with
  | some (s, args) => if s = f.selector then .ok args else .error (.otherSelector (data.take 4))
  | none => .error (.otherSelector (data.take 4))

/-- The call of a function that a payload makes, a swap along no tokens included. -/
def decodeArguments (f : Function) (data : Bytes) : Except LayoutFault Call := do
  let args ← argumentsOf f data
  let frame ← Frame.read f args
  match frame.call? with
  | some c => return c
  | none => throw (.dirtyAddress frame.encodeValue)

/-- The call of a function that a payload makes. -/
def decode (f : Function) (data : Bytes) : Except Malformed Call :=
  match decodeArguments f data with
  | .error fault => .error (.layout f fault)
  | .ok (.swap args) => if args.path = [] then .error .emptyPath else .ok (.swap args)
  | .ok c => .ok c

end Call

end CallGuard
