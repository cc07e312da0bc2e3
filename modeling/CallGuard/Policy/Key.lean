import CallGuard.Function
import CallGuard.SortedSet

/-! # Policy keys

A key is an entry of one of the five lists of a policy. Call sites are keyed by a contract and a selector, the entries
of the other lists by an address. Keys are ordered by list first, then by their bytes. -/

namespace CallGuard

/-- The lists of a policy. -/
inductive ListKind where
  | callSite
  | asset
  | sender
  | withdrawDestination
  | approvalDestination
  deriving DecidableEq, Repr

namespace ListKind

/-- Every list, in order. -/
def all : List ListKind := [.callSite, .asset, .sender, .withdrawDestination, .approvalDestination]

/-- The name of a list, as it stands in the names of events. -/
def name : ListKind → String
  | .callSite => "CallSite"
  | .asset => "Asset"
  | .sender => "Sender"
  | .withdrawDestination => "WithdrawDestination"
  | .approvalDestination => "ApprovalDestination"

/-- The tag of a list, as it stands in stored keys. -/
def tag : ListKind → String
  | .callSite => "call_site"
  | .asset => "asset"
  | .sender => "sender"
  | .withdrawDestination => "withdraw_destination"
  | .approvalDestination => "approval_destination"

/-- The list of a tag. -/
def ofTag? (tag : String) : Option ListKind :=
  all.find? fun kind => kind.tag = tag

/-- The place of a list among the five. -/
def rank : ListKind → UInt8
  | .callSite => 0
  | .asset => 1
  | .sender => 2
  | .withdrawDestination => 3
  | .approvalDestination => 4

end ListKind

/-- A place where calls may go: a contract and one of its functions. -/
structure CallSite where
  /-- The contract. -/
  target : Address
  /-- The function. -/
  selector : Selector
  deriving DecidableEq

/-- An entry of one of the lists of a policy. -/
inductive Key where
  | callSite (site : CallSite)
  | asset (token : Address)
  | sender (wallet : Address)
  | withdrawDestination (destination : Address)
  | approvalDestination (spender : Address)
  deriving DecidableEq

namespace Key

/-- The list that a key belongs to. -/
def kind : Key → ListKind
  | .callSite _ => .callSite
  | .asset _ => .asset
  | .sender _ => .sender
  | .withdrawDestination _ => .withdrawDestination
  | .approvalDestination _ => .approvalDestination

/-- The address of a key; that of a call site is its contract. -/
def address : Key → Address
  | .callSite site => site.target
  | .asset a => a
  | .sender a => a
  | .withdrawDestination a => a
  | .approvalDestination a => a

/-- The selector of a call site. -/
def selector? : Key → Option Selector
  | .callSite site => some site.selector
  | _ => none

/-- The key of an address in a list; call sites need a selector besides. -/
def ofAddress? : ListKind → Address → Option Key
  | .callSite, _ => none
  | .asset, a => some (.asset a)
  | .sender, a => some (.sender a)
  | .withdrawDestination, a => some (.withdrawDestination a)
  | .approvalDestination, a => some (.approvalDestination a)

/-- The call site of a contract and a selector, as a key. -/
def ofCallSite (target : Address) (selector : Selector) : Key :=
  .callSite ⟨target, selector⟩

/-- A key as it is shown: the address, for a call site followed by the selector. -/
def display : Key → String
  | .callSite site => site.target.checksum ++ " " ++ site.selector.toHex
  | key => key.address.checksum

/-- The bytes that order keys: the place of the list, the address, the selector. -/
def bytes (key : Key) : Bytes :=
  key.kind.rank :: key.address.bytes ++ (key.selector?.map (·.bytes)).getD []

theorem bytes_injective {a b : Key} (h : a.bytes = b.bytes) : a = b := by
  have split (p q : Address) (x y : Bytes) (h : p.bytes ++ x = q.bytes ++ y) : p = q ∧ x = y := by
    obtain ⟨h1, h2⟩ := List.append_inj h (by rw [p.length_bytes, q.length_bytes])
    exact ⟨Octets.ext h1, h2⟩
  cases a <;> cases b <;> simp only [bytes, kind, ListKind.rank, address, selector?, List.cons.injEq, Option.map_some,
    Option.map_none, Option.getD_some, Option.getD_none, List.cons_append] at h
  case callSite.callSite s t =>
    obtain ⟨h1, h2⟩ := split _ _ _ _ h.2
    cases s
    cases t
    simp_all [Octets.ext_iff]
  all_goals first
    | exact absurd h.1 (by decide)
    | exact congrArg _ (split _ _ _ _ h.2).1

instance : ByteOrdered Key := ⟨bytes, bytes_injective⟩

end Key

end CallGuard
