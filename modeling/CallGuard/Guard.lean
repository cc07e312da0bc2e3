import CallGuard.Audit.Trail
import CallGuard.Policy.Authorize

/-! # Guards

A guard is a policy with the trail of its changes. Only the governance identity changes the policy, and every change is
recorded, also one that leaves the policy as it was. -/

namespace CallGuard

/-- A policy and the trail of its changes. -/
structure Guard where
  policy : Policy
  trail : Trail
  deriving DecidableEq

/-- A step on a guard that may be rejected; what it did before stays done. -/
abbrev Guarded := ExceptT Violation (StateM Guard)

/-- A change asked of a guard: an entry of any list or of a list that is named, or the entries that a token or a router
    needs. -/
inductive Operation where
  | allow (key : Key)
  | remove (key : Key)
  | allowCallSite (target : Address) (selector : Selector)
  | removeCallSite (target : Address) (selector : Selector)
  | allowAsset (token : Address)
  | removeAsset (token : Address)
  | allowSender (wallet : Address)
  | removeSender (wallet : Address)
  | allowWithdrawDestination (destination : Address)
  | removeWithdrawDestination (destination : Address)
  | allowApprovalDestination (spender : Address)
  | removeApprovalDestination (spender : Address)
  /-- Allow transfers and approvals of a token. -/
  | whitelistToken (token : Address)
  /-- Allow swaps on a router and approvals for it. -/
  | whitelistRouter (router : Address)
  deriving DecidableEq

/-- The changes of entries that an operation makes, in order. -/
def Operation.steps : Operation → List (Change × Key)
  | .allow key => [(.approved, key)]
  | .remove key => [(.removed, key)]
  | .allowCallSite target selector => [(.approved, .ofCallSite target selector)]
  | .removeCallSite target selector => [(.removed, .ofCallSite target selector)]
  | .allowAsset token => [(.approved, .asset token)]
  | .removeAsset token => [(.removed, .asset token)]
  | .allowSender wallet => [(.approved, .sender wallet)]
  | .removeSender wallet => [(.removed, .sender wallet)]
  | .allowWithdrawDestination destination => [(.approved, .withdrawDestination destination)]
  | .removeWithdrawDestination destination => [(.removed, .withdrawDestination destination)]
  | .allowApprovalDestination spender => [(.approved, .approvalDestination spender)]
  | .removeApprovalDestination spender => [(.removed, .approvalDestination spender)]
  | .whitelistToken token =>
    [(.approved, .ofCallSite token Function.transfer.selector),
      (.approved, .ofCallSite token Function.approve.selector)]
  | .whitelistRouter router =>
    [(.approved, .ofCallSite router Function.swap.selector), (.approved, .approvalDestination router)]

namespace Guard

/-- A guard of a policy on whose trail nothing is recorded. -/
def ofPolicy (p : Policy) : Guard := ⟨p, .empty⟩

/-- The guard of a governance identity that allows nothing. -/
def new (governance : Address) : Guard := ofPolicy (.empty governance)

/-- Who may change the policy. -/
def owner (g : Guard) : Address := g.policy.governance

/-- The events recorded and not yet taken. -/
def events (g : Guard) : List Event := g.trail.events

/-- Decides whether `sender` may forward `data` to `target`. -/
def authorize (g : Guard) (sender target : Address) (data : Bytes) : Except Violation Permission :=
  g.policy.authorize sender target data

/-- Rejects every caller but the governance identity. -/
def ensureGovernance (caller : Address) : Guarded Unit := do
  let g ← get
  if !g.policy.isGovernance caller then throw (.unauthorized caller)

/-- Changes an entry and records the change. -/
def change (caller : Address) (what : Change) (key : Key) (note : String) (time : Timestamp) : Guarded Unit := do
  ensureGovernance caller
  modify fun g => ⟨g.policy.apply what key, g.trail.record what key note time⟩

/-- Allows an entry. -/
def allow (caller : Address) (key : Key) (note : String) (time : Timestamp) : Guarded Unit :=
  change caller .approved key note time

/-- Removes an entry. -/
def remove (caller : Address) (key : Key) (note : String) (time : Timestamp) : Guarded Unit :=
  change caller .removed key note time

/-! ## Changes of single lists -/

section
variable (caller : Address)

/-- Allows calls of a function of a contract. -/
def allowCallSite (target : Address) (selector : Selector) (note : String) (time : Timestamp) : Guarded Unit :=
  allow caller (.ofCallSite target selector) note time

/-- Takes back that a function of a contract may be called. -/
def removeCallSite (target : Address) (selector : Selector) (note : String) (time : Timestamp) : Guarded Unit :=
  remove caller (.ofCallSite target selector) note time

/-- Allows swaps to begin and end with a token. -/
def allowAsset (token : Address) (note : String) (time : Timestamp) : Guarded Unit :=
  allow caller (.asset token) note time

/-- Takes back that swaps may begin and end with a token. -/
def removeAsset (token : Address) (note : String) (time : Timestamp) : Guarded Unit :=
  remove caller (.asset token) note time

/-- Allows a wallet to call, and swaps to pay to it. -/
def allowSender (wallet : Address) (note : String) (time : Timestamp) : Guarded Unit :=
  allow caller (.sender wallet) note time

/-- Takes back that a wallet may call, and that swaps may pay to it. -/
def removeSender (wallet : Address) (note : String) (time : Timestamp) : Guarded Unit :=
  remove caller (.sender wallet) note time

/-- Allows transfers to pay to an address. -/
def allowWithdrawDestination (destination : Address) (note : String) (time : Timestamp) : Guarded Unit :=
  allow caller (.withdrawDestination destination) note time

/-- Takes back that transfers may pay to an address. -/
def removeWithdrawDestination (destination : Address) (note : String) (time : Timestamp) : Guarded Unit :=
  remove caller (.withdrawDestination destination) note time

/-- Allows an address to be approved to spend. -/
def allowApprovalDestination (spender : Address) (note : String) (time : Timestamp) : Guarded Unit :=
  allow caller (.approvalDestination spender) note time

/-- Takes back that an address may be approved to spend. -/
def removeApprovalDestination (spender : Address) (note : String) (time : Timestamp) : Guarded Unit :=
  remove caller (.approvalDestination spender) note time

end

/-! ## Operations -/

/-- Allows transfers and approvals of a token. Each entry is recorded at a reading of the clock of its own. -/
def whitelistToken (caller token : Address) (note : String) (clock : Clock) : Guarded Unit := do
  allowCallSite caller token Function.transfer.selector note (clock 0)
  allowCallSite caller token Function.approve.selector note (clock 1)

/-- Allows swaps on a router and approvals for it. -/
def whitelistRouter (caller router : Address) (note : String) (clock : Clock) : Guarded Unit := do
  allowCallSite caller router Function.swap.selector note (clock 0)
  allowApprovalDestination caller router note (clock 1)

/-- Makes a change that is asked for. -/
def perform (caller : Address) (op : Operation) (note : String) (clock : Clock) : Guarded Unit :=
  match op with
  | .allow key => allow caller key note (clock 0)
  | .remove key => remove caller key note (clock 0)
  | .allowCallSite target selector => allowCallSite caller target selector note (clock 0)
  | .removeCallSite target selector => removeCallSite caller target selector note (clock 0)
  | .allowAsset token => allowAsset caller token note (clock 0)
  | .removeAsset token => removeAsset caller token note (clock 0)
  | .allowSender wallet => allowSender caller wallet note (clock 0)
  | .removeSender wallet => removeSender caller wallet note (clock 0)
  | .allowWithdrawDestination destination => allowWithdrawDestination caller destination note (clock 0)
  | .removeWithdrawDestination destination => removeWithdrawDestination caller destination note (clock 0)
  | .allowApprovalDestination spender => allowApprovalDestination caller spender note (clock 0)
  | .removeApprovalDestination spender => removeApprovalDestination caller spender note (clock 0)
  | .whitelistToken token => whitelistToken caller token note clock
  | .whitelistRouter router => whitelistRouter caller router note clock

/-- Makes changes one after the other, on a clock that goes on. -/
def performAll (caller : Address) (note : String) : List Operation → Clock → Guarded Unit
  | [], _ => pure ()
  | op :: rest, clock => do
    perform caller op note clock
    performAll caller note rest (clock.after op.steps.length)

/-- Takes the events recorded so far off the trail. -/
def takeEvents : StateM Guard (List Event) := do
  let g ← get
  let (events, trail) := g.trail.take
  set { g with trail := trail }
  return events

end Guard

end CallGuard
