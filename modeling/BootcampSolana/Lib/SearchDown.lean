import Mathlib.Logic.Function.Basic

/-!
# Searching downwards for the first hit

A loop that tries `n, n - 1, …, 1` and stops at the first value for which a partial function
answers. `search_eq_some_iff` is its whole meaning: what it returns is a hit, and nothing
above it is.
-/

namespace SearchDown

variable {α : Type*}

/-- Tries `n, n - 1, …, 1` in that order. -/
def search (p : Nat → Option α) : Nat → Option (Nat × α)
  | 0 => none
  | n + 1 =>
    match p (n + 1) with
    | some a => some (n + 1, a)
    | none => search p n

theorem search_eq_some_iff {p : Nat → Option α} {k : Nat} {a : α} : ∀ {n : Nat},
    search p n = some (k, a) ↔
      0 < k ∧ k ≤ n ∧ p k = some a ∧ ∀ j, k < j → j ≤ n → p j = none
  | 0 => by
    constructor
    · intro h; simp [search] at h
    · rintro ⟨h1, h2, -⟩; omega
  | n + 1 => by
    rw [search]
    cases hp : p (n + 1) with
    | some b =>
      constructor
      · intro h
        obtain ⟨rfl, rfl⟩ := Prod.mk.inj (Option.some.inj h)
        exact ⟨Nat.succ_pos n, Nat.le_refl _, hp, fun j h1 h2 => by omega⟩
      · rintro ⟨-, hle, hk, habove⟩
        -- the search stops at the top, so a hit below it would contradict `habove`
        have hkn : k = n + 1 := by
          by_contra hne
          have := habove (n + 1) (by omega) (Nat.le_refl _)
          rw [hp] at this
          exact Option.some_ne_none b this
        subst hkn
        rw [hp] at hk
        rw [Option.some.inj hk]
    | none =>
      have ih := search_eq_some_iff (p := p) (k := k) (a := a) (n := n)
      constructor
      · intro h
        obtain ⟨h1, h2, h3, h4⟩ := ih.mp h
        refine ⟨h1, by omega, h3, ?_⟩
        intro j hj hjn
        rcases Nat.lt_or_ge n j with hlt | hge
        · have : j = n + 1 := by omega
          rw [this]; exact hp
        · exact h4 j hj hge
      · rintro ⟨h1, h2, h3, h4⟩
        have hne : k ≠ n + 1 := fun he => by
          rw [he, hp] at h3
          exact Option.some_ne_none a h3.symm
        exact ih.mpr ⟨h1, by omega, h3, fun j hj hjn => h4 j hj (by omega)⟩

end SearchDown
