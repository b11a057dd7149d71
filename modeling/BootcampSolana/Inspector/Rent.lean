import BootcampSolana.Lib.Binary64
import Mathlib.Algebra.Order.Floor.Ring
import Mathlib.Data.Rat.Floor
import Mathlib.Tactic.FieldSimp
import Mathlib.Tactic.Linarith
import Mathlib.Tactic.NormNum

/-!
# Rent and its cross-checks

The rent math of `02-account-inspector/inspect-account.py`. The second cross-check derives the
storage overhead of the cluster from `rent(0) / (rent(1) - rent(0))` and compares it with 128. The
cluster rounds its answers down, so the quotient is the overhead only if the rate is an integer.

The script calculates in binary floating point. Its checks are first studied in exact arithmetic,
and then with its rounding, which makes no difference at any rate that a cluster is likely to ask.

* `Resolves` — the overheads and rates for which rounding down does no harm
* `checkRight_iff` — these are the ones for which the second cross-check is right
* `checkRight_of_rate` — what is left of it between 129 and 10^9 lamports per byte
* `passes_rounded` — the second cross-check as the script computes it
-/

namespace BootcampSolana.Inspector

/-! ## The source -/

def U64_MAX : ℕ := 2 ^ 64 - 1

def STORAGE_OVERHEAD : ℕ := 128

/-- A number without its fraction. -/
def truncate (x : ℚ) : ℤ := if 0 ≤ x then ⌊x⌋ else ⌈x⌉

inductive RentLine where
  /-- The threshold is the number with these bits. -/
  | product (overhead space lpby : ℕ) (threshold : UInt64) (minimum : ℤ)
  | rpc (ok : String) (space : ℕ) (rpcMin : ℤ)
  /-- `nan` is `none`. -/
  | overhead (ok : String) (derived : Option ℚ)
  | exempt (bal minimum surplus : ℤ)
  | notExempt (bal minimum short : ℤ)
  | purgeable
  | staleRentEpoch (re : ℕ)
  deriving DecidableEq

/-- Cross-check 1: does the RPC agree with our arithmetic? -/
def rpcCheck (rent : ℕ → ℤ) (minimum : ℤ) (space : ℕ) : RentLine :=
  .rpc (if rent space = minimum then "OK " else "MISMATCH ") space (rent space)

/--
Cross-check 2: is the 128-byte overhead constant actually what this cluster uses? Each number that
is calculated or written here is rounded by `round`.
-/
def overheadLine (round : ℚ → ℚ) (rent : ℕ → ℤ) : RentLine :=
  let zero := rent 0
  let one := rent 1
  let derivedOverhead : Option ℚ := if one ≠ zero then some (round (zero / (one - zero))) else none
  let ok := derivedOverhead.any fun derived : ℚ =>
    |round (derived - STORAGE_OVERHEAD)| < round (1 / 10 ^ 9)
  .overhead (if ok then "OK " else "MISMATCH ") derivedOverhead

/-- The second cross-check in exact arithmetic. -/
def overheadCheck (rent : ℕ → ℤ) : RentLine := overheadLine id rent

/-- Cross-check 3: is this account actually exempt? -/
def balanceCheck (minimum bal : ℤ) (re : ℕ) : List RentLine :=
  (if minimum ≤ bal then [.exempt bal minimum (bal - minimum)]
    else [.notExempt bal minimum (minimum - bal), .purgeable]) ++
  (if re ≠ U64_MAX ∧ minimum ≤ bal then [.staleRentEpoch re] else [])

/-! ## The cluster -/

/-- The answers of a cluster with the overhead `o` that asks `r` lamports per byte. -/
def clusterRent (o : ℕ) (r : ℚ) (n : ℕ) : ℤ := ⌊((o + n : ℕ) : ℚ) * r⌋

/-- The second cross-check prints OK. -/
def Passes (rent : ℕ → ℤ) : Prop := ∃ derived, overheadCheck rent = .overhead "OK " derived

/-- It prints OK for the overhead of 128 bytes, and for no other. -/
def CheckRight (o : ℕ) (r : ℚ) : Prop := Passes (clusterRent o r) ↔ o = 128

/-- What `n` bytes cost beyond the whole lamports of their rate. -/
def excess (n : ℕ) (r : ℚ) : ℤ := ⌊(n : ℚ) * Int.fract r⌋

/--
Rounding does no harm. The excess of `o` and of `o + 1` bytes is the same or differs by one
lamport; in either case, it must not move the quotient from 128, nor to 128.
-/
structure Resolves (o : ℕ) (r : ℚ) : Prop where
  complete : o = 128 →
    (excess (o + 1) r = excess o r ∧ 10 ^ 9 * excess o r < ⌊r⌋) ∨
    (excess (o + 1) r = excess o r + 1 ∧ 10 ^ 9 * (128 - excess o r) < ⌊r⌋ + 1)
  soundBelow : o < 128 →
    ¬ (excess (o + 1) r = excess o r ∧ 0 < ⌊r⌋ ∧ excess o r = (128 - o) * ⌊r⌋)
  soundAbove : 128 < o →
    ¬ (excess (o + 1) r = excess o r + 1 ∧ (o - 128) * ⌊r⌋ + excess o r = 128)

variable {o n : ℕ} {r : ℚ} {rent : ℕ → ℤ}

/-- The first cross-check rounds as the cluster does. -/
theorem truncate_clusterRent (hr : 0 ≤ r) :
    truncate (((STORAGE_OVERHEAD + n : ℕ) : ℚ) * r) = clusterRent STORAGE_OVERHEAD r n := by
  have hnonneg : 0 ≤ ((STORAGE_OVERHEAD + n : ℕ) : ℚ) * r := mul_nonneg (by positivity) hr
  rw [truncate, if_pos hnonneg, clusterRent]

/-! ## Rounding -/

theorem floor_mul_eq (n : ℕ) (r : ℚ) : ⌊(n : ℚ) * r⌋ = n * ⌊r⌋ + excess n r := by
  have hsplit : (n : ℚ) * r = ((n * ⌊r⌋ : ℤ) : ℚ) + n * Int.fract r := by
    conv_lhs => rw [← Int.floor_add_fract r, mul_add]
    push_cast
    rfl
  rw [hsplit, Int.floor_intCast_add, excess]

theorem excess_nonneg (n : ℕ) (r : ℚ) : 0 ≤ excess n r :=
  Int.floor_nonneg.mpr (mul_nonneg (Nat.cast_nonneg n) (Int.fract_nonneg r))

/-- At most a lamport for each byte. -/
theorem excess_le (n : ℕ) (r : ℚ) : excess n r ≤ n := by
  have hle : (n : ℚ) * Int.fract r ≤ (n : ℤ) := by
    push_cast
    exact mul_le_of_le_one_right (Nat.cast_nonneg n) (Int.fract_lt_one r).le
  exact (Int.floor_mono hle).trans_eq (Int.floor_intCast _)

theorem excess_lt (hn : 0 < n) (r : ℚ) : excess n r < n := by
  have hpos : (0 : ℚ) < n := Nat.cast_pos.mpr hn
  rw [excess, Int.floor_lt]
  push_cast
  exact mul_lt_of_lt_one_right hpos (Int.fract_lt_one r)

theorem excess_eq_zero_iff : excess n r = 0 ↔ n * Int.fract r < 1 := by
  have hnonneg : 0 ≤ (n : ℚ) * Int.fract r :=
    mul_nonneg (Nat.cast_nonneg n) (Int.fract_nonneg r)
  rw [excess, Int.floor_eq_zero_iff, Set.mem_Ico]
  exact ⟨fun h => h.2, fun h => ⟨hnonneg, h⟩⟩

/-- One byte more costs at most one lamport more. -/
theorem excess_succ (n : ℕ) (r : ℚ) :
    excess (n + 1) r = excess n r ∨ excess (n + 1) r = excess n r + 1 := by
  have hnonneg := Int.fract_nonneg r
  have hlt := Int.fract_lt_one r
  have hle : excess n r ≤ excess (n + 1) r := by
    refine Int.floor_mono ?_
    push_cast
    linarith
  have hsucc : excess (n + 1) r < excess n r + 2 := by
    have hfloor := Int.lt_floor_add_one ((n : ℚ) * Int.fract r)
    rw [excess, excess, Int.floor_lt]
    push_cast
    linarith
  omega

theorem floor_rate_nonneg (hr : 0 < r) : 0 ≤ ⌊r⌋ := Int.floor_nonneg.mpr hr.le

/-! ## The quotient -/

/-- What it takes to print OK. -/
theorem passes_iff_derived : Passes rent ↔
    rent 1 ≠ rent 0 ∧ |(rent 0 : ℚ) / (rent 1 - rent 0) - 128| < 1 / 10 ^ 9 := by
  unfold Passes overheadCheck overheadLine
  by_cases hne : rent 1 ≠ rent 0
  · simp [hne, STORAGE_OVERHEAD]
  · simp [hne]

/-- The comparison of the quotient with 128, without the quotient. -/
theorem passes_iff (hle : rent 0 ≤ rent 1) : Passes rent ↔
    0 < rent 1 - rent 0 ∧
      10 ^ 9 * (rent 0 - 128 * (rent 1 - rent 0)) < rent 1 - rent 0 ∧
      10 ^ 9 * (128 * (rent 1 - rent 0) - rent 0) < rent 1 - rent 0 := by
  rw [passes_iff_derived]
  by_cases hne : rent 1 = rent 0
  · simp [hne]
  · have hpos : 0 < rent 1 - rent 0 := by omega
    have hq : (0 : ℚ) < (rent 1 - rent 0 : ℤ) := Int.cast_pos.mpr hpos
    have hdiff : (rent 0 : ℚ) / (rent 1 - rent 0) - 128 =
        (rent 0 - 128 * (rent 1 - rent 0) : ℤ) / (rent 1 - rent 0 : ℤ) := by
      push_cast at hq ⊢
      field_simp
    have hcast : |((rent 0 - 128 * (rent 1 - rent 0) : ℤ) : ℚ)| * 10 ^ 9 <
        1 * ((rent 1 - rent 0 : ℤ) : ℚ) ↔
          |rent 0 - 128 * (rent 1 - rent 0)| * 10 ^ 9 < rent 1 - rent 0 := by
      rw [one_mul]
      exact_mod_cast Iff.rfl
    rw [hdiff, abs_div, abs_of_pos hq, div_lt_div_iff₀ hq (by norm_num), hcast]
    rcases abs_cases (rent 0 - 128 * (rent 1 - rent 0)) with ⟨habs, hsign⟩ | ⟨habs, hsign⟩
    · rw [habs]
      omega
    · rw [habs]
      omega

/-! ## When the check is right -/

/-- The answers for an empty account and for one byte. -/
theorem clusterRent_zero (o : ℕ) (r : ℚ) : clusterRent o r 0 = o * ⌊r⌋ + excess o r :=
  floor_mul_eq o r

theorem clusterRent_one (o : ℕ) (r : ℚ) :
    clusterRent o r 1 = (o + 1) * ⌊r⌋ + excess (o + 1) r := by
  rw [clusterRent, floor_mul_eq]
  push_cast
  rfl

/-- The second cross-check, in terms of the excess. -/
theorem passes_clusterRent (hr : 0 < r) : Passes (clusterRent o r) ↔
    (excess (o + 1) r = excess o r ∧ 0 < ⌊r⌋ ∧
      10 ^ 9 * ((o - 128) * ⌊r⌋ + excess o r) < ⌊r⌋ ∧
      10 ^ 9 * -((o - 128) * ⌊r⌋ + excess o r) < ⌊r⌋) ∨
    (excess (o + 1) r = excess o r + 1 ∧
      10 ^ 9 * ((o - 128) * ⌊r⌋ + excess o r - 128) < ⌊r⌋ + 1 ∧
      10 ^ 9 * (128 - excess o r - (o - 128) * ⌊r⌋) < ⌊r⌋ + 1) := by
  have hm := floor_rate_nonneg hr
  have hone : clusterRent o r 1 - clusterRent o r 0 =
      ⌊r⌋ + (excess (o + 1) r - excess o r) := by
    rw [clusterRent_zero, clusterRent_one]
    ring
  have hzero : clusterRent o r 0 = (o - 128) * ⌊r⌋ + 128 * ⌊r⌋ + excess o r := by
    rw [clusterRent_zero]
    ring
  rcases excess_succ o r with hsame | hmore
  · rw [passes_iff (by omega), hone, hzero, hsame]
    constructor
    · intro h
      refine Or.inl ⟨rfl, ?_, ?_, ?_⟩ <;> omega
    · rintro (h | h)
      · refine ⟨?_, ?_, ?_⟩ <;> omega
      · omega
  · rw [passes_iff (by omega), hone, hzero, hmore]
    constructor
    · intro h
      refine Or.inr ⟨rfl, ?_, ?_⟩ <;> omega
    · rintro (h | h)
      · omega
      · refine ⟨?_, ?_, ?_⟩ <;> omega

/-- With fewer bytes than 128 the quotient falls short, unless the excess makes up for it. -/
theorem checkRight_below (hr : 0 < r) (ho : o < 128) : CheckRight o r ↔
    ¬ (excess (o + 1) r = excess o r ∧ 0 < ⌊r⌋ ∧ excess o r = (128 - o) * ⌊r⌋) := by
  have hm := floor_rate_nonneg hr
  have ha := excess_nonneg o r
  have hle := excess_le o r
  have hmissing : ⌊r⌋ ≤ (128 - o) * ⌊r⌋ := le_mul_of_one_le_left hm (by omega)
  have hneg : ((o : ℤ) - 128) * ⌊r⌋ = -((128 - o) * ⌊r⌋) := by ring
  have hne : ¬ o = 128 := by omega
  unfold CheckRight
  rw [passes_clusterRent hr, hneg, iff_false_right hne]
  omega

/-- With more bytes the quotient is too large, unless the next byte costs one lamport more. -/
theorem checkRight_above (hr : 0 < r) (ho : 128 < o) : CheckRight o r ↔
    ¬ (excess (o + 1) r = excess o r + 1 ∧ (o - 128) * ⌊r⌋ + excess o r = 128) := by
  have hm := floor_rate_nonneg hr
  have ha := excess_nonneg o r
  have hmore : ⌊r⌋ ≤ (o - 128) * ⌊r⌋ := le_mul_of_one_le_left hm (by omega)
  have hne : ¬ o = 128 := by omega
  unfold CheckRight
  rw [passes_clusterRent hr, iff_false_right hne]
  omega

/-- With 128 bytes the quotient is 128, up to what the excess adds to it. -/
theorem checkRight_equal (hr : 0 < r) : CheckRight 128 r ↔
    (excess (128 + 1) r = excess 128 r ∧ 10 ^ 9 * excess 128 r < ⌊r⌋) ∨
      (excess (128 + 1) r = excess 128 r + 1 ∧ 10 ^ 9 * (128 - excess 128 r) < ⌊r⌋ + 1) := by
  have hm := floor_rate_nonneg hr
  have ha := excess_nonneg 128 r
  have hle := excess_le 128 r
  have hnone : (((128 : ℕ) : ℤ) - 128) * ⌊r⌋ = 0 := by simp
  unfold CheckRight
  rw [passes_clusterRent hr, hnone, iff_true_right rfl]
  omega

theorem checkRight_iff (hr : 0 < r) : CheckRight o r ↔ Resolves o r := by
  rcases Nat.lt_trichotomy o 128 with ho | rfl | ho
  · rw [checkRight_below hr ho]
    constructor
    · intro h
      exact ⟨fun heq => by omega, fun _ => h, fun hlt => by omega⟩
    · intro h
      exact h.soundBelow ho
  · rw [checkRight_equal hr]
    constructor
    · intro h
      exact ⟨fun _ => h, fun hlt => by omega, fun hlt => by omega⟩
    · intro h
      exact h.complete rfl
  · rw [checkRight_above hr ho]
    constructor
    · intro h
      exact ⟨fun heq => by omega, fun hlt => by omega, fun _ => h⟩
    · intro h
      exact h.soundAbove ho

/--
From 129 to 10^9 lamports per byte, the check can only be wrong about an overhead of 128 bytes, and
is so from the fraction on that adds up to a lamport over 129 bytes.
-/
theorem checkRight_of_rate (hlow : 129 ≤ ⌊r⌋) (hhigh : ⌊r⌋ < 10 ^ 9) :
    CheckRight o r ↔ o ≠ 128 ∨ Int.fract r < 1 / 129 := by
  have hr : 0 < r := Int.floor_pos.mp (by omega) |>.trans_lt' (by norm_num)
  rcases Nat.lt_trichotomy o 128 with ho | rfl | ho
  · rw [checkRight_below hr ho]
    have hle := excess_le o r
    have hmissing : ⌊r⌋ ≤ (128 - o) * ⌊r⌋ := le_mul_of_one_le_left (by omega) (by omega)
    constructor
    · intro _
      exact Or.inl (by omega)
    · rintro _ ⟨-, -, h⟩
      omega
  · rw [checkRight_equal hr]
    have ha := excess_nonneg 128 r
    have hlt := excess_lt (by decide : 0 < 128) r
    have hzero := @excess_eq_zero_iff (128 + 1) r
    rw [mul_comm, ← lt_div_iff₀ (by positivity)] at hzero
    have hsucc := excess_succ 128 r
    constructor
    · intro h
      have h129 : excess (128 + 1) r = 0 := by omega
      have hfract := hzero.mp h129
      norm_num at hfract
      exact Or.inr (by linarith)
    · intro h
      have hfract : Int.fract r < 1 / 129 := by simpa using h
      have h129 : excess (128 + 1) r = 0 := hzero.mpr (by norm_num; linarith)
      exact Or.inl ⟨by omega, by omega⟩
  · rw [checkRight_above hr ho]
    have ha := excess_nonneg o r
    have hmore : ⌊r⌋ ≤ (o - 128) * ⌊r⌋ := le_mul_of_one_le_left (by omega) (by omega)
    constructor
    · intro _
      exact Or.inl (by omega)
    · rintro _ ⟨-, h⟩
      omega

/-- A whole number of lamports leaves nothing to round. -/
theorem resolves_natCast {m : ℕ} (hm : 0 < m) (o : ℕ) : Resolves o (m : ℚ) := by
  have hexcess : ∀ n, excess n (m : ℚ) = 0 := by
    intro n
    simp [excess]
  have hfloor : ⌊(m : ℚ)⌋ = m := Int.floor_natCast m
  have hpos : (0 : ℤ) < m := Int.natCast_pos.mpr hm
  refine ⟨?_, ?_, ?_⟩
  · intro _
    refine Or.inl ⟨?_, ?_⟩
    · rw [hexcess, hexcess]
    · rw [hexcess, hfloor]
      omega
  · rintro ho ⟨-, -, h⟩
    rw [hexcess, hfloor] at h
    have hmissing : (m : ℤ) ≤ (128 - o) * m := le_mul_of_one_le_left hpos.le (by omega)
    omega
  · rintro ho ⟨h, -⟩
    rw [hexcess, hexcess] at h
    omega

/--
**The second cross-check is right where rounding does no harm**, and only there: for every overhead
and every positive rate, OK means 128 bytes and no other overhead if and only if the excess of
a fraction of a lamport resolves. For an integer rate it always does.
-/
theorem overhead_check (o : ℕ) (r : ℚ) (hr : 0 < r) :
    (CheckRight o r ↔ Resolves o r) ∧ ((∃ m : ℕ, r = m) → CheckRight o r) := by
  refine ⟨checkRight_iff hr, ?_⟩
  rintro ⟨m, rfl⟩
  exact (checkRight_iff hr).mpr (resolves_natCast (Nat.cast_pos.mp hr) o)

/-- The rate of mainnet. -/
theorem overhead_check_mainnet : CheckRight 128 (6333 : ℕ) :=
  (overhead_check 128 (6333 : ℕ) (by norm_num)).2 ⟨6333, rfl⟩

/--
With half a lamport in the rate, a cluster whose overhead is 128 bytes is a mismatch, and one
whose overhead is 100 passes at 1.28 lamports per byte.
-/
theorem overhead_check_fraction :
    ¬ CheckRight 128 (18999 / 2) ∧ ¬ CheckRight 100 (32 / 25) := by
  refine ⟨?_, ?_⟩
  · have hzero : clusterRent 128 (18999 / 2) 0 = 1215936 := by
      rw [clusterRent, Int.floor_eq_iff]
      norm_num
    have hone : clusterRent 128 (18999 / 2) 1 = 1225435 := by
      rw [clusterRent, Int.floor_eq_iff]
      norm_num
    unfold CheckRight
    rw [passes_iff (by rw [hzero, hone]; decide), hzero, hone]
    norm_num
  · have hzero : clusterRent 100 (32 / 25) 0 = 128 := by
      rw [clusterRent, Int.floor_eq_iff]
      norm_num
    have hone : clusterRent 100 (32 / 25) 1 = 129 := by
      rw [clusterRent, Int.floor_eq_iff]
      norm_num
    unfold CheckRight
    rw [passes_iff (by rw [hzero, hone]; decide), hzero, hone]
    norm_num

/-! ## In floating point -/

theorem abs_nearest_sub_le_small (x : ℚ) : |Binary64.nearest x - x| ≤ (|x| + 1) / 10 ^ 15 := by
  have hrel := Binary64.abs_nearest_sub_rel x
  have hulp : (2 : ℚ) ^ (-53 : ℤ) ≤ 1 / 10 ^ 15 := by norm_num
  have hleast : (2 : ℚ) ^ (-1075 : ℤ) ≤ 2 ^ (-53 : ℤ) :=
    zpow_le_zpow_right₀ (by norm_num) (by norm_num)
  calc |Binary64.nearest x - x| ≤ |x| * 2 ^ (-53 : ℤ) + 2 ^ (-1075 : ℤ) := hrel
    _ ≤ |x| * (1 / 10 ^ 15) + 1 / 10 ^ 15 :=
      add_le_add (mul_le_mul_of_nonneg_left hulp (abs_nonneg x)) (hleast.trans hulp)
    _ = (|x| + 1) / 10 ^ 15 := by ring

/-- The quotient of two numbers of lamports is 128, or not close to it. -/
theorem derived_eq_or_far {zero d : ℤ} (hd : d ≠ 0) (h : |d| ≤ 9 * 10 ^ 8) :
    (zero / d : ℚ) = 128 ∨ 1 / (9 * 10 ^ 8) ≤ |(zero / d : ℚ) - 128| := by
  have hd' : (d : ℚ) ≠ 0 := Int.cast_ne_zero.mpr hd
  by_cases heq : zero = 128 * d
  · left
    rw [heq]
    push_cast
    field_simp
  · right
    have hpos : (0 : ℚ) < |(d : ℚ)| := abs_pos.mpr hd'
    have hle : |(d : ℚ)| ≤ 9 * 10 ^ 8 := by exact_mod_cast h
    have hone : (1 : ℚ) ≤ |((zero - 128 * d : ℤ) : ℚ)| := by
      exact_mod_cast Int.one_le_abs (sub_ne_zero.mpr heq)
    have hsub : (zero / d : ℚ) - 128 = ((zero - 128 * d : ℤ) : ℚ) / d := by
      push_cast
      field_simp
    rw [hsub, abs_div]
    exact div_le_div₀ (abs_nonneg _) hone hpos hle

/-- There, the rounded comparison is the exact one. -/
theorem near_rounded {q : ℚ} (h : q = 128 ∨ 1 / (9 * 10 ^ 8) ≤ |q - 128|) :
    |Binary64.nearest (Binary64.nearest q - 128)| < Binary64.nearest (1 / 10 ^ 9) ↔
      |q - 128| < 1 / 10 ^ 9 := by
  have hbound := abs_nearest_sub_le_small (1 / 10 ^ 9)
  rw [abs_of_pos (by norm_num : (0 : ℚ) < 1 / 10 ^ 9), abs_le] at hbound
  rcases h with rfl | hfar
  · have hexact : Binary64.nearest 128 = 128 := by
      exact_mod_cast @Binary64.nearest_intCast 128 (by norm_num)
    rw [hexact, sub_self, Binary64.nearest_zero, abs_zero]
    refine iff_of_true ?_ (by norm_num)
    linarith
  · have hderived := abs_nearest_sub_le_small q
    have hdiff := abs_nearest_sub_le_small (Binary64.nearest q - 128)
    have hq : |q| ≤ |q - 128| + 128 := by
      have htri := abs_add_le (q - 128) 128
      norm_num at htri
      exact htri
    have hsplit := abs_sub_le q (Binary64.nearest q) 128
    rw [abs_sub_comm q (Binary64.nearest q)] at hsplit
    have hlost := abs_sub_abs_le_abs_sub (Binary64.nearest q - 128)
      (Binary64.nearest (Binary64.nearest q - 128))
    rw [abs_sub_comm (Binary64.nearest q - 128)] at hlost
    refine iff_of_false ?_ ?_
    · rw [not_lt]
      linarith
    · rw [not_lt]
      linarith

/-- The script's rounding makes no difference up to nine tenths of a SOL per byte. -/
theorem passes_rounded (h : |rent 1 - rent 0| ≤ 9 * 10 ^ 8) :
    (∃ derived, overheadLine Binary64.nearest rent = .overhead "OK " derived) ↔ Passes rent := by
  rw [passes_iff_derived]
  unfold overheadLine
  by_cases hne : rent 1 = rent 0
  · simp [hne]
  have hderived := @derived_eq_or_far (rent 0) (rent 1 - rent 0) (sub_ne_zero.mpr hne) h
  rw [Int.cast_sub] at hderived
  rw [← near_rounded hderived]
  simp [hne, STORAGE_OVERHEAD]

end BootcampSolana.Inspector
