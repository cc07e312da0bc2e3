import CallGuard.Amount
import CallGuard.Function

/-! # Calls

A call of one of the guarded functions with its arguments. -/

namespace CallGuard

/-- A swap along a route of tokens for a fixed amount received. -/
structure Swap where
  /-- The amount to receive. -/
  amountOut : Amount
  /-- The most that may be paid. -/
  amountInMax : Amount
  /-- The route: the token paid first, the token received last. -/
  path : List Address
  /-- Who receives the last token. -/
  recipient : Address
  /-- The time after which the swap is void. -/
  deadline : Amount
  deriving DecidableEq

/-- A transfer of a token. -/
structure Transfer where
  /-- Who receives the token. -/
  recipient : Address
  /-- How much of it. -/
  amount : Amount
  deriving DecidableEq

/-- An approval to spend a token. -/
structure Approval where
  /-- Who may spend the token. -/
  spender : Address
  /-- How much of it. -/
  amount : Amount
  deriving DecidableEq

/-- A call of a guarded function. -/
inductive Call where
  | swap (args : Swap)
  | transfer (args : Transfer)
  | approve (args : Approval)
  deriving DecidableEq

/-- The function called. -/
def Call.function : Call → Function
  | .swap _ => .swap
  | .transfer _ => .transfer
  | .approve _ => .approve

end CallGuard
