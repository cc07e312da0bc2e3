import CallGuard.Function

/-! # Selectors of the guarded functions

The selectors that the guard knows are those that the chain computes from the signatures
(`Function.selector_eq_ofSignature`). -/

namespace CallGuard

/-- The selector of a function is the start of the digest of its signature. -/
theorem Function.selector_eq_ofSignature (f : Function) : f.selector = .ofSignature f.signature := by
  cases f <;> decide +kernel

end CallGuard
