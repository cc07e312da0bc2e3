import CallGuard.Policy.Key

/-! # Policies

A policy is the governance identity, which may change it, with the entries of five lists. What has no entry is not
allowed. Each list can be asked for a single entry, and looked at on its own, in byte order. -/

namespace CallGuard

/-- The governance identity and the entries of the five lists. -/
structure Policy where
  /-- Who may change the policy. -/
  governance : Address
  /-- The entries of all lists. -/
  entries : SortedSet Key
  deriving DecidableEq

namespace Policy

/-- The policy of a governance identity with no entries. -/
def empty (governance : Address) : Policy := ⟨governance, ∅⟩

instance : Membership Key Policy := ⟨fun p key => key ∈ p.entries⟩

instance (key : Key) (p : Policy) : Decidable (key ∈ p) :=
  inferInstanceAs (Decidable (key ∈ p.entries))

@[simp] theorem mem_entries {key : Key} {p : Policy} : key ∈ p.entries ↔ key ∈ p := Iff.rfl

@[simp] theorem not_mem_empty (key : Key) (governance : Address) : key ∉ empty governance :=
  SortedSet.not_mem_empty key

/-- The policy with an entry. -/
def allow (p : Policy) (key : Key) : Policy :=
  { p with entries := p.entries.insert key }

/-- The policy without an entry. -/
def remove (p : Policy) (key : Key) : Policy :=
  { p with entries := p.entries.erase key }

@[simp] theorem mem_allow {p : Policy} {key k : Key} : k ∈ p.allow key ↔ k = key ∨ k ∈ p :=
  SortedSet.mem_insert

@[simp] theorem mem_remove {p : Policy} {key k : Key} : k ∈ p.remove key ↔ k ∈ p ∧ k ≠ key :=
  SortedSet.mem_erase

@[simp] theorem governance_allow (p : Policy) (key : Key) : (p.allow key).governance = p.governance := rfl

@[simp] theorem governance_remove (p : Policy) (key : Key) : (p.remove key).governance = p.governance := rfl

/-- Policies of one governance identity with the same entries are equal. -/
theorem ext_mem {p q : Policy} (hgov : p.governance = q.governance) (h : ∀ key, key ∈ p ↔ key ∈ q) : p = q := by
  cases p
  cases q
  simp only [Policy.mk.injEq]
  exact ⟨hgov, SortedSet.ext_mem h⟩

/-! ## Single entries -/

/-- Whether an address is the governance identity. -/
def isGovernance (p : Policy) (a : Address) : Bool := a = p.governance

/-- Whether a function of a contract may be called. -/
def isAllowedCallSite (p : Policy) (target : Address) (selector : Selector) : Bool :=
  Key.ofCallSite target selector ∈ p

/-- Whether swaps may begin and end with a token. -/
def isAllowedAsset (p : Policy) (token : Address) : Bool := Key.asset token ∈ p

/-- Whether a wallet may call. -/
def isAllowedSender (p : Policy) (wallet : Address) : Bool := Key.sender wallet ∈ p

/-- Whether swaps may pay to an address. Receivers have no list of their own: they are the senders. -/
def isAllowedReceiver (p : Policy) (receiver : Address) : Bool := p.isAllowedSender receiver

/-- Whether transfers may pay to an address. -/
def isAllowedWithdrawDestination (p : Policy) (destination : Address) : Bool :=
  Key.withdrawDestination destination ∈ p

/-- Whether an address may be approved to spend. -/
def isAllowedApprovalDestination (p : Policy) (spender : Address) : Bool := Key.approvalDestination spender ∈ p

/-- Whether a key is an entry of its list. -/
def contains (p : Policy) : Key → Bool
  | .callSite site => p.isAllowedCallSite site.target site.selector
  | .asset token => p.isAllowedAsset token
  | .sender wallet => p.isAllowedSender wallet
  | .withdrawDestination destination => p.isAllowedWithdrawDestination destination
  | .approvalDestination spender => p.isAllowedApprovalDestination spender

section
variable {p : Policy} {a : Address}

@[simp] theorem isGovernance_iff : p.isGovernance a = true ↔ a = p.governance := decide_eq_true_iff

@[simp] theorem isAllowedCallSite_iff {selector : Selector} :
    p.isAllowedCallSite a selector = true ↔ Key.ofCallSite a selector ∈ p := decide_eq_true_iff

@[simp] theorem isAllowedAsset_iff : p.isAllowedAsset a = true ↔ Key.asset a ∈ p := decide_eq_true_iff

@[simp] theorem isAllowedSender_iff : p.isAllowedSender a = true ↔ Key.sender a ∈ p := decide_eq_true_iff

@[simp] theorem isAllowedReceiver_iff : p.isAllowedReceiver a = true ↔ Key.sender a ∈ p := decide_eq_true_iff

@[simp] theorem isAllowedWithdrawDestination_iff :
    p.isAllowedWithdrawDestination a = true ↔ Key.withdrawDestination a ∈ p := decide_eq_true_iff

@[simp] theorem isAllowedApprovalDestination_iff :
    p.isAllowedApprovalDestination a = true ↔ Key.approvalDestination a ∈ p := decide_eq_true_iff

@[simp] theorem contains_iff {key : Key} : p.contains key = true ↔ key ∈ p := by
  cases key <;> exact decide_eq_true_iff

end

/-! ## Lists -/

/-- The entries of one list. -/
def keys (p : Policy) (kind : ListKind) : List Key :=
  p.entries.toList.filter fun key => key.kind = kind

/-- The call sites. -/
def callSites (p : Policy) : List CallSite :=
  p.entries.toList.filterMap fun
    | .callSite site => some site
    | _ => none

/-- The tokens that swaps may begin and end with. -/
def assets (p : Policy) : List Address :=
  (p.keys .asset).map (·.address)

/-- The wallets that may call, and to which swaps may pay. -/
def senders (p : Policy) : List Address :=
  (p.keys .sender).map (·.address)

/-- The addresses to which transfers may pay. -/
def withdrawDestinations (p : Policy) : List Address :=
  (p.keys .withdrawDestination).map (·.address)

/-- The addresses that may be approved to spend. -/
def approvalDestinations (p : Policy) : List Address :=
  (p.keys .approvalDestination).map (·.address)

end Policy

end CallGuard
