import CallGuard.Failure

/-! # Texts of operators

What an operator gives a command as text, and what it stands for. The first text that stands for nothing is the one
that is reported. -/

namespace CallGuard

/-- The address that a text stands for; `what` tells what it is the address of. -/
def readAddress (what text : String) : Except Failure Address :=
  (Address.read text).mapError (.badAddress what text)

/-- The amount that a text stands for; `what` tells what it is the amount of. -/
def readAmount (what text : String) : Except Failure Amount :=
  (Amount.read text).mapError (.badAmount what text)

/-- The payload that a text stands for. -/
def readPayload (text : String) : Except Failure Bytes :=
  (Payload.read text).mapError .badPayload

/-- A call, its arguments as text. -/
inductive CallText where
  | swap (amountOut amountInMax : String) (path : List String) (recipient deadline : String)
  | transfer (recipient amount : String)
  | approve (spender amount : String)
  deriving DecidableEq

/-- The call that texts stand for. -/
def CallText.read : CallText → Except Failure Call
  | .swap amountOut amountInMax path recipient deadline => do
    let amountOut ← readAmount "amount_out" amountOut
    let amountInMax ← readAmount "amount_in_max" amountInMax
    let path ← path.mapM (readAddress "path")
    let recipient ← readAddress "to" recipient
    let deadline ← readAmount "deadline" deadline
    return .swap ⟨amountOut, amountInMax, path, recipient, deadline⟩
  | .transfer recipient amount => do
    let recipient ← readAddress "to" recipient
    let amount ← readAmount "amount" amount
    return .transfer ⟨recipient, amount⟩
  | .approve spender amount => do
    let spender ← readAddress "spender" spender
    let amount ← readAmount "amount" amount
    return .approve ⟨spender, amount⟩

/-- The key of an entry as text: its list, its address, and the selector of a call site. -/
structure KeyText where
  kind : ListKind
  address : String
  selector : Option String
  deriving DecidableEq

/-- The key that texts stand for. A selector must be given for a call site and for nothing else. -/
def KeyText.read (k : KeyText) : Except Failure Key := do
  let address ← readAddress "key" k.address
  match k.selector, Key.ofAddress? k.kind address with
  | some text, none => return .ofCallSite address (← (Selector.read text).mapError (.badSelector text))
  | none, none => throw .selectorMissing
  | none, some key => return key
  | some _, some _ => throw (.selectorUnused k.kind)

/-- A change of the policy as text. -/
inductive ChangeText where
  | allow (key : KeyText)
  | remove (key : KeyText)
  | whitelistToken (token : String)
  | whitelistRouter (router : String)
  deriving DecidableEq

/-- The change that texts stand for. -/
def ChangeText.read : ChangeText → Except Failure Operation
  | .allow key => return .allow (← key.read)
  | .remove key => return .remove (← key.read)
  | .whitelistToken token => return .whitelistToken (← readAddress "token" token)
  | .whitelistRouter router => return .whitelistRouter (← readAddress "router" router)

end CallGuard
