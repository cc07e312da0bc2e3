import CallGuard.Proofs.Guard.Run
import CallGuard.Proofs.Policy.Grants

/-! # What provisioning opens

Whitelisting a token or a router approves two entries. A decision changes by it exactly if the call was refused for
want of one of the two (`exists_perform_ne_iff`), so nothing else is opened and nothing is closed, whatever the
policy was before. The main statement is `authorize_provisioned`. -/

namespace CallGuard

namespace Violation
variable {v : Violation}

theorem missing?_eq_ofCallSite {target : Address} {selector : Selector} :
    v.missing? = some (.ofCallSite target selector) ↔ v = .callSiteNotAllowed target selector := by
  cases v <;> simp [missing?, Key.ofCallSite]

theorem missing?_eq_approvalDestination {spender : Address} :
    v.missing? = some (.approvalDestination spender) ↔ v = .approvalDestinationNotAllowed spender := by
  cases v <;> simp [missing?, Key.ofCallSite]

end Violation

namespace Decision
open Layout

/-- An approval that lacks only its spender is let through once the spender is an approval destination. -/
theorem authorize_of_spender {p q : Policy} {sender target spender : Address} {data : Bytes}
    (hgovernance : q.governance = p.governance) (hsub : ∀ key, key ∈ p → key ∈ q)
    (hspender : Key.approvalDestination spender ∈ q)
    (h : p.authorize sender target data = .error (.approvalDestinationNotAllowed spender)) :
    q.authorize sender target data = .ok (.call .approve) := by
  have hsender := ne_governance_of_error h
  cases (authorize_eq_error hsender).mp h with
  | flow hallowed hmakes hsite hflow =>
    cases hflow with
    | @spender c _ =>
      exact (authorize_eq_ok (hgovernance ▸ hsender)).mpr
        ⟨hsub _ hallowed, .approve c, hmakes, hsub _ hsite, hspender, rfl⟩

end Decision

namespace Guard
open Decision

section
variable {g : Guard} {note : String} {clock : Clock} {sender target : Address} {data : Bytes}

theorem mem_policy_of_approvals {steps : List (Change × Key)} (h : ∀ step ∈ steps, step.1 = .approved) {key : Key} :
    key ∈ (g.enterAll note clock steps).policy ↔ key ∈ steps.map Prod.snd ∨ key ∈ g.policy := by
  induction steps generalizing g clock with
  | nil => simp [enterAll]
  | cons step rest ih =>
    obtain ⟨happroved, hrest⟩ := List.forall_mem_cons.mp h
    have henter : key ∈ (g.enter note (clock 0) step).policy ↔ key = step.2 ∨ key ∈ g.policy := by
      rw [enter, happroved]
      exact Policy.mem_allow
    rw [enterAll, ih hrest, henter, List.map_cons, List.mem_cons, or_left_comm, or_assoc]

/-- Governance may approve entries, and a decision changes by it exactly if the call was refused for want of one of
    them. -/
theorem exists_perform_ne_iff (op : Operation) (h : ∀ step ∈ op.steps, step.1 = .approved) :
    ∃ g', (perform g.owner op note clock).run g = (.ok (), g') ∧ g'.owner = g.owner ∧
      (∀ key, key ∈ g'.policy ↔ key ∈ op.steps.map Prod.snd ∨ key ∈ g.policy) ∧
        (g'.authorize sender target data ≠ g.authorize sender target data ↔
          ∃ v, g.authorize sender target data = .error v ∧ ∃ key ∈ op.steps.map Prod.snd, v.missing? = some key) := by
  have howner := owner_enterAll note clock g op.steps
  have hmem (key : Key) : key ∈ (g.enterAll note clock op.steps).policy ↔
      key ∈ op.steps.map Prod.snd ∨ key ∈ g.policy := mem_policy_of_approvals h
  refine ⟨g.enterAll note clock op.steps, ?_, howner, hmem, authorize_ne_iff_of_granted howner hmem⟩
  rw [perform_run, if_pos rfl]

theorem exists_error_iff_of_pair {x : Except Violation Permission} {first second : Violation} {key key' : Key}
    (hfirst : ∀ v : Violation, v.missing? = some key ↔ v = first)
    (hsecond : ∀ v : Violation, v.missing? = some key' ↔ v = second) :
    (∃ v, x = .error v ∧ ∃ k ∈ [key, key'], v.missing? = some k) ↔ x = .error first ∨ x = .error second := by
  simp only [List.mem_cons, List.not_mem_nil, or_false, exists_eq_or_imp, exists_eq_left, hfirst, hsecond]
  constructor
  · rintro ⟨v, hv, rfl | rfl⟩
    · exact .inl hv
    · exact .inr hv
  · rintro (hx | hx)
    · exact ⟨first, hx, .inl rfl⟩
    · exact ⟨second, hx, .inr rfl⟩

end

/-- Provisioning opens exactly what it says. Governance may whitelist a token, and then the decisions that change are
    those that refused a transfer or an approval for want of the call site at that token. Governance may whitelist a
    router, and then they are those that refused a swap for want of the call site at that router, and those that
    refused an approval for it; the latter are let through. -/
theorem authorize_provisioned (g : Guard) (contract : Address) (note : String) (clock : Clock)
    (sender target : Address) (data : Bytes) :
    (∃ g', (whitelistToken g.owner contract note clock).run g = (.ok (), g') ∧
      (g'.authorize sender target data ≠ g.authorize sender target data ↔
        g.authorize sender target data = .error (.callSiteNotAllowed contract Function.transfer.selector) ∨
          g.authorize sender target data = .error (.callSiteNotAllowed contract Function.approve.selector))) ∧
    ∃ g', (whitelistRouter g.owner contract note clock).run g = (.ok (), g') ∧
      (g'.authorize sender target data ≠ g.authorize sender target data ↔
        g.authorize sender target data = .error (.callSiteNotAllowed contract Function.swap.selector) ∨
          g.authorize sender target data = .error (.approvalDestinationNotAllowed contract)) ∧
      (g.authorize sender target data = .error (.approvalDestinationNotAllowed contract) →
        g'.authorize sender target data = .ok (.call .approve)) := by
  constructor
  · obtain ⟨g', hrun, -, -, hchanged⟩ := exists_perform_ne_iff (.whitelistToken contract) (by simp [Operation.steps])
    refine ⟨g', hrun, hchanged.trans (exists_error_iff_of_pair ?_ ?_)⟩
    · exact fun _ => Violation.missing?_eq_ofCallSite
    · exact fun _ => Violation.missing?_eq_ofCallSite
  · obtain ⟨g', hrun, howner, hmem, hchanged⟩ :=
      exists_perform_ne_iff (.whitelistRouter contract) (by simp [Operation.steps])
    refine ⟨g', hrun, hchanged.trans (exists_error_iff_of_pair ?_ ?_), fun hrefused => ?_⟩
    · exact fun _ => Violation.missing?_eq_ofCallSite
    · exact fun _ => Violation.missing?_eq_approvalDestination
    · have hspender : Key.approvalDestination contract ∈ g'.policy :=
        (hmem _).mpr (.inl (List.mem_cons_of_mem _ List.mem_cons_self))
      exact authorize_of_spender howner (fun key hkey => (hmem key).mpr (.inr hkey)) hspender hrefused

end Guard

end CallGuard
