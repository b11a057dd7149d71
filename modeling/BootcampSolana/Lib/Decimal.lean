import Mathlib.Data.Rat.Defs
import Mathlib.Tactic.FieldSimp
import Mathlib.Tactic.NormNum

/-!
# Numbers in decimal

Three ways to write a natural number for a reader, and how to read it in a text.

* `padded` — in a column, filled up with zeros
* `fixed` — with a point that has `k` digits behind it, for the number divided by `10 ^ k`
* `grouped` — with a comma in front of every three digits
-/

namespace Decimal

def padded (width n : Nat) : List Char :=
  List.replicate (width - (Nat.toDigits 10 n).length) '0' ++ Nat.toDigits 10 n

def fixed (k n : Nat) : List Char :=
  Nat.toDigits 10 (n / 10 ^ k) ++ '.' :: padded k (n % 10 ^ k)

def grouped (n : Nat) : List Char :=
  if n < 1000 then Nat.toDigits 10 n else grouped (n / 1000) ++ ',' :: padded 3 (n % 1000)

/-- The number that digits stand for. -/
def read (cs : List Char) : Nat := Nat.ofDigitChars 10 cs 0

/-- The number in a text that has only one. -/
def readIn (text : List Char) : Nat := read (text.filter Char.isDigit)

/-- The number that a text with a point in it stands for. -/
def value (cs : List Char) : ℚ :=
  let whole := cs.takeWhile (· != '.')
  let part := (cs.dropWhile (· != '.')).tail
  read whole + read part / 10 ^ part.length

variable {k n m width : Nat} {cs cs' : List Char} {c : Char}

/-! ## Digits -/

theorem read_toDigits : read (Nat.toDigits 10 n) = n := Nat.ofDigitChars_ten_toDigits

theorem read_append : read (cs ++ cs') = 10 ^ cs'.length * read cs + read cs' := by
  rw [read, Nat.ofDigitChars_append, Nat.ofDigitChars_eq_ofDigitChars_zero]
  rfl

theorem read_padded : read (padded width n) = n := by
  rw [padded, read_append, read_toDigits, read, Nat.ofDigitChars_replicate_zero]
  simp

theorem length_padded (hk : 0 < k) (hn : n < 10 ^ k) : (padded k n).length = k := by
  have hle := (Nat.length_toDigits_le_iff (by decide : 1 < 10) hk).mpr hn
  rw [padded, List.length_append, List.length_replicate]
  omega

theorem isDigit_toDigits (h : c ∈ Nat.toDigits 10 n) : c.isDigit = true :=
  Nat.isDigit_of_mem_toDigits (by decide) (by decide) h

/-- A number is read behind any label without digits. -/
theorem readIn_label (h : cs.any Char.isDigit = false) : readIn (cs ++ Nat.toDigits 10 n) = n := by
  have hlabel : cs.filter Char.isDigit = [] := by
    rw [List.filter_eq_nil_iff]
    exact List.any_eq_false.mp h
  have hdigits : (Nat.toDigits 10 n).filter Char.isDigit = Nat.toDigits 10 n :=
    List.filter_eq_self.mpr fun _ hc => isDigit_toDigits hc
  rw [readIn, List.filter_append, hlabel, hdigits, List.nil_append, read_toDigits]

theorem not_mem_toDigits {mark : Char} (hmark : mark.isDigit = false) :
    mark ∉ Nat.toDigits 10 n := by
  intro h
  rw [isDigit_toDigits h] at hmark
  cases hmark

/-! ## Marks between digits -/

theorem forall_ne_mark {mark : Char} (h : mark ∉ cs) : ∀ c ∈ cs, (c != mark) = true := by
  intro c hc
  rw [bne_iff_ne]
  rintro rfl
  exact h hc

theorem takeWhile_mark {mark : Char} (h : mark ∉ cs) :
    (cs ++ mark :: cs').takeWhile (· != mark) = cs := by
  rw [List.takeWhile_append_of_pos (forall_ne_mark h)]
  simp

theorem dropWhile_mark {mark : Char} (h : mark ∉ cs) :
    (cs ++ mark :: cs').dropWhile (· != mark) = mark :: cs' := by
  rw [List.dropWhile_append_of_pos (forall_ne_mark h)]
  simp

/-- **With a point**, a number is shown exactly. -/
theorem value_fixed (hk : 0 < k) : value (fixed k n) = n / 10 ^ k := by
  have hpos : (10 : ℚ) ^ k ≠ 0 := pow_ne_zero k (by norm_num)
  have hlen : (padded k (n % 10 ^ k)).length = k :=
    length_padded hk (Nat.mod_lt n (Nat.pow_pos (by decide)))
  have hwhole := @not_mem_toDigits (n / 10 ^ k) '.' (by decide)
  have hsplit : ((n / 10 ^ k : Nat) : ℚ) * 10 ^ k + (n % 10 ^ k : Nat) = n := by
    exact_mod_cast Nat.div_add_mod' n (10 ^ k)
  simp only [value, fixed, takeWhile_mark hwhole, dropWhile_mark hwhole, List.tail_cons,
    read_toDigits, read_padded, hlen]
  rw [← hsplit]
  field_simp

end Decimal
