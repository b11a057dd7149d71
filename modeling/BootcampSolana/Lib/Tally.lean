import Mathlib.Algebra.GroupWithZero.Nat
import BootcampSolana.Lib.Machine

/-!
# Tallies

Counters under keys, each opened at most once and never closed, none of which reaches
`bound`. What is proved here of the operations that `perform` carries out is a property of
every machine that refines a tally.

* `count_opened_le` — a key is opened at most once
* `perform_of_open` — from then on its count is the sum of what was added
* `opened_of_open` — and before that it has none
* `total_of_closed` — so a count is the sum of everything that was ever added
-/

/-- The counters that are open, and what they count. -/
abbrev Tally (K : Type) := K → Option Nat

namespace Tally

open Machine

variable {K : Type} [DecidableEq K]

inductive Op (K : Type) where
  | opened (k : K)
  | added (k : K) (n : Nat)
  deriving DecidableEq

/-- What an operation adds to `k`. -/
def Op.amount (k : K) : Op K → Nat
  | .opened _ => 0
  | .added k' n => if k' = k then n else 0

/-- One operation, when it is legal. -/
def apply (bound : Nat) (t : Tally K) : Op K → Option (Tally K)
  | .opened k =>
    match t k with
    | none => some (Function.update t k (some 0))
    | some _ => none
  | .added k n =>
    match t k with
    | none => none
    | some c => if c + n < bound then some (Function.update t k (some (c + n))) else none

/-- What a list of operations adds to `k`. -/
def total (k : K) (ops : List (Op K)) : Nat := (ops.map (Op.amount k)).sum

variable {bound : Nat} {t t' : Tally K} {k : K} {n : Nat} {op : Op K} {ops : List (Op K)}

/-! ## One operation -/

theorem apply_opened : apply bound t (.opened k) = some t' ↔
    t k = none ∧ t' = Function.update t k (some 0) := by
  rcases h : t k with _ | c
  · simp only [apply, h, Option.some.injEq, true_and]
    exact eq_comm
  · simp [apply, h]

theorem apply_added : apply bound t (.added k n) = some t' ↔
    ∃ c, t k = some c ∧ c + n < bound ∧ t' = Function.update t k (some (c + n)) := by
  rcases h : t k with _ | c
  · simp [apply, h]
  · simp only [apply, h, Option.some.injEq, exists_eq_left']
    by_cases hb : c + n < bound
    · rw [if_pos hb, Option.some.injEq]
      exact ⟨fun he => ⟨hb, he.symm⟩, fun he => he.2.symm⟩
    · rw [if_neg hb]
      exact ⟨nofun, fun he => absurd he.1 hb⟩

/-- An open counter stays open, gains the amount, and is not opened. -/
theorem apply_of_open {c : Nat} (h : apply bound t op = some t') (hk : t k = some c) :
    t' k = some (c + op.amount k) ∧ op ≠ .opened k := by
  cases op with
  | opened k' =>
    obtain ⟨hnone, rfl⟩ := apply_opened.mp h
    have hne : k ≠ k' := by
      rintro rfl
      rw [hk] at hnone
      cases hnone
    refine ⟨?_, ?_⟩
    · rw [Function.update_of_ne hne]
      exact hk
    · intro hc
      exact hne (Op.opened.inj hc).symm
  | added k' n =>
    obtain ⟨c', hc', -, rfl⟩ := apply_added.mp h
    refine ⟨?_, nofun⟩
    -- `k` itself gains `n`, the others nothing
    by_cases hkk : k' = k
    · subst hkk
      rw [hk] at hc'
      cases hc'
      rw [Function.update_self, Op.amount, if_pos rfl]
    · rw [Function.update_of_ne (Ne.symm hkk), Op.amount, if_neg hkk]
      exact hk

/-- A counter that is not open either stays so or is opened. -/
theorem apply_of_closed (h : apply bound t op = some t') (hk : t k = none) :
    t' k = none ∨ t' k = some 0 ∧ op = .opened k := by
  cases op with
  | opened k' =>
    obtain ⟨-, rfl⟩ := apply_opened.mp h
    by_cases hkk : k' = k
    · subst hkk
      exact Or.inr ⟨Function.update_self _ _ _, rfl⟩
    · refine Or.inl ?_
      rw [Function.update_of_ne (Ne.symm hkk)]
      exact hk
  | added k' n =>
    obtain ⟨c, hc, -, rfl⟩ := apply_added.mp h
    -- what is added to is open
    have hkk : k' ≠ k := by
      rintro rfl
      rw [hk] at hc
      cases hc
    refine Or.inl ?_
    rw [Function.update_of_ne (Ne.symm hkk)]
    exact hk

/-- Nothing is added to a counter that is not open. -/
theorem amount_of_closed (h : apply bound t op = some t') (hk : t k = none) : op.amount k = 0 := by
  cases op with
  | opened k' => rfl
  | added k' n =>
    obtain ⟨c, hc, -, -⟩ := apply_added.mp h
    have hkk : k' ≠ k := by
      rintro rfl
      simp [hk] at hc
    simp [Op.amount, hkk]

/-! ## Histories -/

/-- **A counter that is open** counts what is added to it, and is never opened again. -/
theorem perform_of_open {c : Nat} (h : perform (apply bound) t ops = some t') (hk : t k = some c) :
    t' k = some (c + total k ops) ∧ .opened k ∉ ops := by
  induction ops generalizing t c with
  | nil =>
    cases h
    exact ⟨hk, List.not_mem_nil⟩
  | cons op ops ih =>
    obtain ⟨t₁, hop, hops⟩ := perform_cons.mp h
    obtain ⟨hk₁, hne⟩ := apply_of_open hop hk
    obtain ⟨hk', hno⟩ := ih hops hk₁
    refine ⟨?_, ?_⟩
    · rw [hk', total, total, List.map_cons, List.sum_cons, Nat.add_assoc]
    · rw [List.mem_cons, not_or]
      exact ⟨Ne.symm hne, hno⟩

/-- **A key is opened at most once.** -/
theorem count_opened_le (h : perform (apply bound) t ops = some t') : ops.count (.opened k) ≤ 1 := by
  induction ops generalizing t with
  | nil => simp
  | cons op ops ih =>
    obtain ⟨t₁, hop, hops⟩ := perform_cons.mp h
    by_cases hk : op = .opened k
    · subst hk
      obtain ⟨-, rfl⟩ := apply_opened.mp hop
      obtain ⟨-, hno⟩ := perform_of_open (k := k) hops (Function.update_self _ _ _)
      exact Nat.le_of_eq (by rw [List.count_cons_self, List.count_eq_zero_of_not_mem hno])
    · rw [List.count_cons_of_ne hk]
      exact ih hops

/-- **What is open was opened**, and what was added to it was added since. -/
theorem opened_of_open {c : Nat} (h : perform (apply bound) t ops = some t') (ht : t k = none)
    (hk : t' k = some c) :
    ∃ pre post, ops = pre ++ .opened k :: post ∧ c = total k post := by
  induction ops generalizing t with
  | nil =>
    cases h
    rw [ht] at hk
    cases hk
  | cons op ops ih =>
    obtain ⟨t₁, hop, hops⟩ := perform_cons.mp h
    rcases apply_of_closed hop ht with h₁ | ⟨h₁, rfl⟩
    · obtain ⟨pre, post, rfl, hc⟩ := ih hops h₁
      exact ⟨op :: pre, post, rfl, hc⟩
    · obtain ⟨h', -⟩ := perform_of_open hops h₁
      rw [hk, Nat.zero_add] at h'
      exact ⟨[], ops, rfl, Option.some.inj h'⟩

/-- **A count is a total.** Every addition to a counter came after it was opened. -/
theorem total_of_closed {c : Nat} (h : perform (apply bound) t ops = some t') (ht : t k = none)
    (hk : t' k = some c) : c = total k ops ∧ ops.count (.opened k) = 1 := by
  induction ops generalizing t with
  | nil =>
    cases h
    simp [ht] at hk
  | cons op ops ih =>
    obtain ⟨t₁, hop, hops⟩ := perform_cons.mp h
    have hamount := amount_of_closed hop ht
    rcases apply_of_closed hop ht with h₁ | ⟨h₁, rfl⟩
    · have hne : op ≠ .opened k := by
        rintro rfl
        simp [(apply_opened.mp hop).2] at h₁
      obtain ⟨hc, hone⟩ := ih hops h₁
      refine ⟨?_, ?_⟩
      · rw [total, List.map_cons, List.sum_cons, hamount, Nat.zero_add]
        exact hc
      · rw [List.count_cons_of_ne hne]
        exact hone
    · obtain ⟨h', hno⟩ := perform_of_open hops h₁
      rw [hk] at h'
      have hc : c = 0 + total k ops := Option.some.inj h'
      refine ⟨hc, ?_⟩
      rw [List.count_cons_self, List.count_eq_zero_of_not_mem hno]

end Tally
