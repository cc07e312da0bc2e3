import CallGuard.Address

/-! # Guarded functions

The three functions whose calls can be forwarded. Each is known on the chain by the selector of its signature. -/

namespace CallGuard

/-- A function whose calls the guard understands. -/
inductive Function where
  /-- A swap on a router for a fixed amount received. -/
  | swap
  /-- A transfer of a token. -/
  | transfer
  /-- An approval to spend a token. -/
  | approve
  deriving DecidableEq, Repr

namespace Function

/-- Every function, in the order in which they are listed. -/
def all : List Function := [.swap, .transfer, .approve]

/-- The name on the chain. -/
def name : Function → String
  | .swap => "swapTokensForExactTokens"
  | .transfer => "transfer"
  | .approve => "approve"

/-- The types of the arguments, as one tuple. -/
def argumentTypes : Function → String
  | .swap => "(uint256,uint256,address[],address,uint256)"
  | .transfer => "(address,uint256)"
  | .approve => "(address,uint256)"

/-- The name with the types of the arguments. -/
def signature (f : Function) : String :=
  f.name ++ f.argumentTypes

/-- The selector of the signature. -/
def selector : Function → Selector
  | .swap => ⟨[0x88, 0x03, 0xDB, 0xEE], rfl⟩
  | .transfer => ⟨[0xA9, 0x05, 0x9C, 0xBB], rfl⟩
  | .approve => ⟨[0x09, 0x5E, 0xA7, 0xB3], rfl⟩

/-- The function that a selector names, if the guard understands it. -/
def ofSelector? (s : Selector) : Option Function :=
  all.find? fun f => f.selector = s

@[simp] theorem mem_all (f : Function) : f ∈ all := by
  cases f <;> decide

theorem ofSelector?_eq_some {s : Selector} {f : Function} : ofSelector? s = some f ↔ f.selector = s := by
  constructor
  · intro h
    simpa using List.find?_some h
  · rintro rfl
    cases f <;> decide

end Function

end CallGuard
