import CallGuard.Proofs.Guard.Run
import CallGuard.Proofs.Policy.Grants

/-! # Remedies for refusals

A refusal that names an entry tells governance what to allow, and the call is then asked again (`Remedied`). Every
entry allowed meets a need that was not met before and none is lost, so the unmet needs become fewer with every round
(`Remedied.length_add_unmet_le`), and where the rounds end nothing is missing any more. The main statement is
`remedied_ends`. -/

namespace CallGuard

namespace Decision

/-- The needs for which a policy has no entry. -/
def unmet (p : Policy) (asked : List Need) : List Need :=
  asked.filter fun need => need.key ∉ p

theorem unmet_allow (p : Policy) (key : Key) (asked : List Need) :
    unmet (p.allow key) asked = (unmet p asked).filter fun need => need.key ≠ key := by
  rw [unmet, unmet, List.filter_filter]
  refine List.filter_congr fun need _ => ?_
  simp [Policy.mem_allow]

theorem length_unmet_allow_lt {p : Policy} {need : Need} {asked : List Need} (hneed : need ∈ asked)
    (hlacks : need.key ∉ p) : (unmet (p.allow need.key) asked).length < (unmet p asked).length := by
  rw [unmet_allow]
  have hunmet : need ∈ unmet p asked := List.mem_filter.mpr ⟨hneed, decide_eq_true hlacks⟩
  exact List.length_filter_lt_length_iff_exists.mpr ⟨need, hunmet, by simp⟩

end Decision

namespace Guard
open Decision

/-- From one guard to another the refusals of a call were remedied: governance allowed the entry that was missing, and
    the call was decided again, as often as there are refusals. -/
inductive Remedied (sender target : Address) (data : Bytes) : Guard → List Violation → Guard → Prop
  | done (g : Guard) : Remedied sender target data g [] g
  | allow {g g' g'' : Guard} {v : Violation} {key : Key} {note : String} {time : Timestamp} {denials : List Violation}
      (hdenied : g.authorize sender target data = .error v) (hkey : v.missing? = some key)
      (hallow : (allow g.owner key note time).run g = (.ok (), g')) (h : Remedied sender target data g' denials g'') :
      Remedied sender target data g (v :: denials) g''

/-- A call is refused for want of an entry, and governance may allow it. -/
def Remediable (sender target : Address) (data : Bytes) (g : Guard) : Prop :=
  ∃ v key, g.authorize sender target data = .error v ∧ v.missing? = some key ∧ key ∉ g.policy ∧
    ∀ note time, ∃ g', (allow g.owner key note time).run g = (.ok (), g')

section
variable {sender target : Address} {data : Bytes} {g g' : Guard} {denials : List Violation}

/-! ## One round -/

theorem allow_run (g : Guard) (key : Key) (note : String) (time : Timestamp) :
    (allow g.owner key note time).run g = (.ok (), g.enter note time (.approved, key)) :=
  change_run_of_owner rfl .approved key note time

theorem of_allow_run {key : Key} {note : String} {time : Timestamp}
    (h : (allow g.owner key note time).run g = (.ok (), g')) :
    g'.owner = g.owner ∧ g'.policy = g.policy.allow key := by
  rw [allow_run] at h
  cases h
  exact ⟨rfl, rfl⟩

theorem mem_of_allow_run {key k : Key} {note : String} {time : Timestamp}
    (h : (allow g.owner key note time).run g = (.ok (), g')) : k ∈ g'.policy ↔ k = key ∨ k ∈ g.policy := by
  rw [(of_allow_run h).2, Policy.mem_allow]

/-- Allowing the entry that a refusal names leaves fewer needs unmet. -/
theorem unmet_lt_of_allow {v : Violation} {key : Key} (hdenied : g.authorize sender target data = .error v)
    (hkey : v.missing? = some key) (hpolicy : g'.policy = g.policy.allow key) :
    (unmet g'.policy (needs sender target data)).length < (unmet g.policy (needs sender target data)).length := by
  obtain ⟨need, hneed, -, rfl, hlacks⟩ := need_of_missing? hdenied hkey
  rw [hpolicy]
  exact length_unmet_allow_lt hneed hlacks

/-- A decision on a call of another sender than governance is conclusive, or there is an entry to allow. -/
theorem conclusive_or_remediable (hsender : sender ≠ g.owner) :
    Conclusive data (g.authorize sender target data) ∨ Remediable sender target data g := by
  have hsettle : g.authorize sender target data = settle g.policy (verdict data) (needs sender target data) :=
    authorize_eq_settle hsender
  rcases settle_cases g.policy (verdict data) (needs sender target data) with ⟨-, h⟩ | ⟨need, hneed, hlacks, h⟩
  · rw [hsettle, h]
    exact .inl (conclusive_verdict data)
  · refine .inr ⟨need.violation, need.key, hsettle.trans h, missing?_of_mem_needs hneed, hlacks, fun note time => ?_⟩
    exact ⟨_, allow_run g need.key note time⟩

/-! ## All rounds -/

namespace Remedied

theorem owner_eq (h : Remedied sender target data g denials g') : g'.owner = g.owner := by
  induction h with
  | done g => rfl
  | allow _ _ hallow _ ih => rw [ih, (of_allow_run hallow).1]

theorem mem_of_mem (h : Remedied sender target data g denials g') {key : Key} (hkey : key ∈ g.policy) :
    key ∈ g'.policy := by
  induction h with
  | done g => exact hkey
  | allow _ _ hallow _ ih => exact ih ((mem_of_allow_run hallow).mpr (.inr hkey))

/-- What a refusal on the way names was missing to begin with and is there in the end. -/
theorem entered (h : Remedied sender target data g denials g') {v : Violation} (hv : v ∈ denials) :
    ∃ key, v.missing? = some key ∧ key ∉ g.policy ∧ key ∈ g'.policy := by
  induction h with
  | done g => cases hv
  | @allow g g₁ g' w key note time denials hdenied hkey hallow hrest ih =>
    rcases List.mem_cons.mp hv with rfl | hv
    · -- The entry of the first refusal is allowed at once and stays.
      have hadded : key ∈ g₁.policy := (mem_of_allow_run hallow).mpr (.inl rfl)
      exact ⟨key, hkey, not_mem_of_missing? hdenied hkey, hrest.mem_of_mem hadded⟩
    · obtain ⟨other, hother, hlacks, hthere⟩ := ih hv
      exact ⟨other, hother, fun hmem => hlacks ((mem_of_allow_run hallow).mpr (.inr hmem)), hthere⟩

/-- A refusal that was remedied does not come back. -/
theorem ne_of_mem (h : Remedied sender target data g denials g') {v : Violation} (hv : v ∈ denials) :
    g'.authorize sender target data ≠ .error v := by
  intro hdenied
  obtain ⟨key, hkey, -, hthere⟩ := h.entered hv
  exact not_mem_of_missing? hdenied hkey hthere

theorem nodup (h : Remedied sender target data g denials g') : denials.Nodup := by
  induction h with
  | done g => exact List.nodup_nil
  | @allow g g₁ g' v key note time denials hdenied hkey hallow hrest ih =>
    refine List.nodup_cons.mpr ⟨fun hv => ?_, ih⟩
    obtain ⟨other, hother, hlacks, -⟩ := hrest.entered hv
    obtain rfl := Option.some.inj (hkey.symm.trans hother)
    exact hlacks ((mem_of_allow_run hallow).mpr (.inl rfl))

/-- Every round meets a need that was not met before. -/
theorem length_add_unmet_le (h : Remedied sender target data g denials g') :
    denials.length + (unmet g'.policy (needs sender target data)).length ≤
      (unmet g.policy (needs sender target data)).length := by
  induction h with
  | done g => rw [List.length_nil, Nat.zero_add]
  | allow hdenied hkey hallow _ ih =>
    have hfewer := unmet_lt_of_allow hdenied hkey (of_allow_run hallow).2
    rw [List.length_cons]
    omega

theorem length_le (h : Remedied sender target data g denials g') : denials.length ≤ 5 := by
  have hrounds := h.length_add_unmet_le
  have hunmet : (unmet g.policy (needs sender target data)).length ≤ (needs sender target data).length :=
    List.length_filter_le _ _
  have hneeds := length_needs_le sender target data
  omega

end Remedied

theorem exists_remedied (hsender : sender ≠ g.owner) :
    ∃ denials g', Remedied sender target data g denials g' ∧ Conclusive data (g'.authorize sender target data) := by
  -- The induction is on the number of unmet needs, whatever the guard: every round lowers it.
  induction hunmet : (unmet g.policy (needs sender target data)).length using Nat.strongRecOn generalizing g with
  | _ count ih =>
    rcases conclusive_or_remediable hsender with hend | ⟨v, key, hdenied, hkey, -, hallow⟩
    · exact ⟨[], g, .done g, hend⟩
    · obtain ⟨g₁, hg₁⟩ := hallow "" (.ofNanoseconds 0)
      obtain ⟨howner, hpolicy⟩ := of_allow_run hg₁
      have hfewer := unmet_lt_of_allow hdenied hkey hpolicy
      rw [hunmet] at hfewer
      obtain ⟨denials, g', hrest, hend⟩ := ih _ hfewer (howner ▸ hsender) rfl
      exact ⟨v :: denials, g', .allow hdenied hkey hg₁ hrest, hend⟩

end

/-- A refusal names what to allow, and allowing it leads on. Whenever governance remedies the refusals of a call of
    another sender, it does so at most five times and no refusal comes back; at every stage the decision is conclusive,
    or it names an entry that the policy lacks and that governance may allow. So the rounds come to an end, and there
    the call is let through, or its payload is refused for having no selector, an unknown one or no arguments of its
    function. -/
theorem remedied_ends (g : Guard) {sender : Address} (target : Address) (data : Bytes) (hsender : sender ≠ g.owner) :
    (∀ denials g', Remedied sender target data g denials g' →
      denials.length ≤ 5 ∧ denials.Nodup ∧ (∀ v ∈ denials, g'.authorize sender target data ≠ .error v) ∧
        (Conclusive data (g'.authorize sender target data) ∨ Remediable sender target data g')) ∧
    ∃ denials g', Remedied sender target data g denials g' ∧
      Conclusive data (g'.authorize sender target data) := by
  refine ⟨fun denials g' h => ⟨h.length_le, h.nodup, fun v => h.ne_of_mem, ?_⟩, exists_remedied hsender⟩
  exact conclusive_or_remediable (h.owner_eq.symm ▸ hsender)

/-- A wallet swaps a token for itself at an empty policy: of the five needs two are met along with others. -/
theorem remedied_ends_alias :
    let owner : Address := .ofNat 20 1
    let wallet : Address := .ofNat 20 2
    let router : Address := .ofNat 20 3
    let token : Address := .ofNat 20 4
    let data := (Call.swap ⟨1, 2, [token], wallet, 9999⟩).encode
    let denials : List Violation :=
      [.senderNotAllowed wallet, .callSiteNotAllowed router Function.swap.selector, .assetNotAllowed token]
    wallet ≠ (Guard.new owner).owner ∧
      ∃ g', Remedied wallet router data (Guard.new owner) denials g' ∧ denials.Nodup ∧
        g'.authorize wallet router data ≠ .error (.assetNotAllowed token) ∧
          (Conclusive data (g'.authorize wallet router data) ∨ Remediable wallet router data g') := by
  intro owner wallet router token data denials
  have hwallet : wallet ≠ (Guard.new owner).owner := by decide
  let time : Timestamp := .ofNanoseconds 0
  let g₁ := (Guard.new owner).enter "in" time (.approved, .sender wallet)
  let g₂ := g₁.enter "site" time (.approved, .ofCallSite router Function.swap.selector)
  let g₃ := g₂.enter "token" time (.approved, .asset token)
  have hrounds : Remedied wallet router data (Guard.new owner) denials g₃ := by
    refine .allow ?_ rfl (allow_run (.new owner) _ "in" time) (.allow ?_ rfl (allow_run g₁ _ "site" time)
      (.allow ?_ rfl (allow_run g₂ _ "token" time) (.done g₃)))
    all_goals decide +kernel
  obtain ⟨-, hnodup, hgone, hend⟩ := (remedied_ends (.new owner) router data hwallet).1 denials g₃ hrounds
  exact ⟨hwallet, g₃, hrounds, hnodup, hgone _ (by simp [denials]), hend⟩

end Guard

end CallGuard
