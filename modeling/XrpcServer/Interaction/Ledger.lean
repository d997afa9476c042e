import Mathlib.Algebra.BigOperators.Group.Finset.Basic
import Mathlib.Algebra.Order.BigOperators.Group.Finset

/-!
# Ledgers

The units of each resource are spread over finitely many holders and a common pool. A ledger
that accounts for all of them stays balanced when one holder moves and conserves what it has.
Where there is at most one unit of a resource, it is in one place only.
-/

namespace XrpcServer.Interaction

variable {Holder Resource : Type*} [Fintype Holder]

/-- The shares and the pool add up to the total of each resource. -/
def Balanced (shares : Holder → Resource → ℕ) (pool total : Resource → ℕ) : Prop :=
  ∀ r, ∑ h, shares h r + pool r = total r

namespace Balanced

variable {shares shares' : Holder → Resource → ℕ} {pool pool' total total' : Resource → ℕ}

/-- What exists is with a holder or in the pool. -/
theorem exists_place (h : Balanced shares pool total) {r : Resource} (hr : 0 < total r) :
    (∃ t, 0 < shares t r) ∨ 0 < pool r := by
  by_contra hnowhere
  rw [not_or, not_exists] at hnowhere
  obtain ⟨hshares, hpool⟩ := hnowhere
  have hsum : ∑ t, shares t r = 0 := Finset.sum_eq_zero fun t _ => Nat.eq_zero_of_not_pos (hshares t)
  have hbalance := h r
  omega

/-- A single unit in the pool is with no holder. -/
theorem pooled_only (h : Balanced shares pool total) {r : Resource} (htotal : total r ≤ 1)
    (hpool : 0 < pool r) : total r = 1 ∧ pool r = 1 ∧ ∀ t, shares t r = 0 := by
  have hbalance := h r
  have hsum : ∑ t, shares t r = 0 := by omega
  refine ⟨by omega, by omega, ?_⟩
  intro t
  exact (Finset.sum_eq_zero_iff.mp hsum) t (Finset.mem_univ t)

variable [DecidableEq Holder]

/-- One holder's share is set apart from the others'. -/
theorem sum_eq_add_erase (f : Holder → ℕ) (t : Holder) :
    ∑ h, f h = f t + ∑ h ∈ Finset.univ.erase t, f h :=
  (Finset.add_sum_erase Finset.univ f (Finset.mem_univ t)).symm

/-- A single unit is with one holder, and not in the pool. -/
theorem held_only (h : Balanced shares pool total) {r : Resource} (htotal : total r ≤ 1) {t : Holder}
    (hheld : 0 < shares t r) :
    total r = 1 ∧ shares t r = 1 ∧ pool r = 0 ∧ ∀ t', t' ≠ t → shares t' r = 0 := by
  have hbalance := h r
  rw [sum_eq_add_erase (fun t => shares t r) t] at hbalance
  have hothers : ∑ t' ∈ Finset.univ.erase t, shares t' r = 0 := by omega
  refine ⟨by omega, by omega, by omega, ?_⟩
  intro t' hne
  exact (Finset.sum_eq_zero_iff.mp hothers) t' (Finset.mem_erase.mpr ⟨hne, Finset.mem_univ t'⟩)

/-- A holder moves units to and from the pool, creates some and destroys some. -/
theorem move (h : Balanced shares pool total) (t : Holder)
    (hothers : ∀ t', t' ≠ t → shares' t' = shares t')
    (hconserved : ∀ r, shares' t r + pool' r + total r = shares t r + pool r + total' r) :
    Balanced shares' pool' total' := by
  intro r
  have hbalance := h r
  have hmoves := hconserved r
  have hrest : ∑ t' ∈ Finset.univ.erase t, shares' t' r = ∑ t' ∈ Finset.univ.erase t, shares t' r := by
    apply Finset.sum_congr rfl
    intro t' ht'
    rw [hothers t' (Finset.ne_of_mem_erase ht')]
  rw [sum_eq_add_erase (fun t => shares t r) t] at hbalance
  rw [sum_eq_add_erase (fun t => shares' t r) t, hrest]
  omega

end Balanced

end XrpcServer.Interaction
