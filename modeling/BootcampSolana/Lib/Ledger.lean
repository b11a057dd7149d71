import Mathlib.Algebra.BigOperators.Group.Finset.Basic
import Mathlib.Algebra.Order.BigOperators.Group.Finset
import Mathlib.Logic.Function.Basic

/-!
# Ledgers without a list

Two ways to speak of a ledger of which nobody has a list.

Some of its cells have names. A sheet says of every name what is in its cell, and who writes to
one cell changes one line of the sheet, as no two names are of the same cell.

`Covered f bound` says that whatever finite set of holders one looks at, they hold no more than
`bound` together.

* `Cells.Holds.write` — one cell is written
* `Covered.pair` — two holders stay below the bound
* `Covered.exchange` — what some holders gain or give up, the bound can follow
-/

/-! ## Cells -/

namespace Cells

variable {K A V : Type} {addr : K → A} {s s' : K → V → Prop} {L L' : A → V} {k : K}
  {φ : V → Prop} {v : V}

/-- Every cell with a name is as the sheet says. -/
def Holds (addr : K → A) (s : K → V → Prop) (L : A → V) : Prop := ∀ k, s k (L (addr k))

/-- Whoever leaves these cells alone leaves the sheet alone. -/
theorem Holds.frame (h : Holds addr s L) (hL : ∀ k, L' (addr k) = L (addr k)) :
    Holds addr s L' := by
  intro k
  rw [hL k]
  exact h k

/-- Two sheets that say the same. -/
theorem Holds.congr (h : Holds addr s L) (hs : ∀ k, s k = s' k) : Holds addr s' L := by
  intro k
  rw [← hs k]
  exact h k

/-- **One cell is written.** -/
theorem Holds.write [DecidableEq K] [DecidableEq A] (hinj : Function.Injective addr)
    (h : Holds addr s L) (hv : φ v) :
    Holds addr (Function.update s k φ) (Function.update L (addr k) v) := by
  intro j
  by_cases hj : j = k
  · subst hj
    rw [Function.update_self, Function.update_self]
    exact hv
  · rw [Function.update_of_ne hj, Function.update_of_ne (hinj.ne hj)]
    exact h j

end Cells

/-! ## Holdings under a bound -/

def Covered {K : Type} (f : K → ℕ) (bound : ℕ) : Prop := ∀ T : Finset K, ∑ k ∈ T, f k ≤ bound

namespace Covered

section Bounds

variable {K : Type} {f : K → ℕ} {bound : ℕ}

theorem single (h : Covered f bound) (a : K) : f a ≤ bound := by
  have hsingle := h {a}
  rwa [Finset.sum_singleton] at hsingle

theorem pair [DecidableEq K] {a b : K} (h : Covered f bound) (hne : a ≠ b) :
    f a + f b ≤ bound := by
  have hpair := h {a, b}
  rwa [Finset.sum_pair hne] at hpair

end Bounds

variable {K : Type} [DecidableEq K] {f g : K → ℕ} {a b : K} {bound bound' n : ℕ}

/-- **Exchange.** The bound follows the holders of `S`, and the others gain nothing. -/
theorem exchange (S : Finset K) (h : Covered f bound)
    (hS : ∑ k ∈ S, g k + bound ≤ ∑ k ∈ S, f k + bound') (hg : ∀ k, k ∉ S → g k ≤ f k) :
    Covered g bound' := by
  intro T
  have hmore : ∑ k ∈ T, g k ≤ ∑ k ∈ T \ S, g k + ∑ k ∈ S, g k := by
    rw [← Finset.sum_union Finset.sdiff_disjoint, Finset.sdiff_union_self_eq_union]
    exact Finset.sum_le_sum_of_subset Finset.subset_union_left
  have hrest : ∑ k ∈ T \ S, g k ≤ ∑ k ∈ T \ S, f k :=
    Finset.sum_le_sum fun k hk => hg k (Finset.mem_sdiff.mp hk).2
  have hall := h (T \ S ∪ S)
  rw [Finset.sum_union Finset.sdiff_disjoint] at hall
  omega

/-- One holder gains no more than the bound does. -/
theorem credit (h : Covered f bound) (ha : g a ≤ f a + n) (hg : ∀ k, k ≠ a → g k ≤ f k) :
    Covered g (bound + n) := by
  refine h.exchange {a} ?_ fun k hk => hg k (by simpa using hk)
  simp only [Finset.sum_singleton]
  omega

/-- Two holders that together hold no more than before. -/
theorem move (h : Covered f bound) (hne : a ≠ b) (hab : g a + g b ≤ f a + f b)
    (hg : ∀ k, k ≠ a → k ≠ b → g k ≤ f k) : Covered g bound := by
  refine h.exchange {a, b} ?_ fun k hk => ?_
  · simp only [Finset.sum_pair hne]
    omega
  · simp only [Finset.mem_insert, Finset.mem_singleton, not_or] at hk
    exact hg k hk.1 hk.2

end Covered
