import Mathlib.Data.List.Basic

/-!
# Base 64

Three bytes are four digits of six bits. Where the last group is shorter, padding fills its text up
to four characters.

The decoder is the lenient one that ignores every character that is neither a digit nor padding, and
stops at the padding that fills a group.

* `decode_encode` — what was written is read
* `decode_filter` — with anything in between that does not count, line breaks for instance
-/

namespace Base64

def alphabet : List Char :=
  "ABCDEFGHIJKLMNOPQRSTUVWXYZabcdefghijklmnopqrstuvwxyz0123456789+/".toList

def digit (n : Nat) : Char := alphabet.getD n 'A'

def value (c : Char) : Option Nat := alphabet.idxOf? c

/-! ## Writing -/

def encode : List UInt8 → List Char
  | [] => []
  | [a] => [digit (a.toNat / 4), digit (a.toNat % 4 * 16), '=', '=']
  | [a, b] =>
    [digit (a.toNat / 4), digit (a.toNat % 4 * 16 + b.toNat / 16), digit (b.toNat % 16 * 4), '=']
  | a :: b :: c :: rest =>
    digit (a.toNat / 4) :: digit (a.toNat % 4 * 16 + b.toNat / 16) ::
      digit (b.toNat % 16 * 4 + c.toNat / 64) :: digit (c.toNat % 64) :: encode rest

/-! ## Reading -/

/-- How many digits of a group have been read, and the bits of them that are left. -/
inductive Quad where
  | start
  | one (left : Nat)
  | two (left : Nat)
  | three (left : Nat)

/-- The padding that is still needed when `pads` have been read, unless there is too little text. -/
def Quad.missing (pads : Nat) : Quad → Option Nat
  | .start => none
  | .one _ => none
  | .two _ => some (2 - pads)
  | .three _ => some (1 - pads)

/-- What a digit adds to a group: perhaps a byte, and what is left then. -/
def Quad.push (d : Nat) : Quad → Option UInt8 × Quad
  | .start => (none, .one d)
  | .one left => (some (UInt8.ofNat (left * 4 + d / 16)), .two (d % 16))
  | .two left => (some (UInt8.ofNat (left * 16 + d / 4)), .three (d % 4))
  | .three left => (some (UInt8.ofNat (left * 64 + d)), .start)

/--
From a group on of which `pads` characters of padding have been read since its last digit. The text
must not end in the middle of a group.
-/
def decodeFrom : Quad → (pads : Nat) → List Char → Option (List UInt8)
  | .start, _, [] => some []
  | _, _, [] => none
  | q, pads, c :: cs =>
    if c = '=' then
      match q.missing pads with
      | none => decodeFrom q pads cs
      | some missing => if missing ≤ 1 then some [] else decodeFrom q (pads + 1) cs
    else
      match value c with
      | none => decodeFrom q pads cs
      | some d => (decodeFrom (q.push d).2 0 cs).map ((q.push d).1.toList ++ ·)

def decode (cs : List Char) : Option (List UInt8) := decodeFrom .start 0 cs

/-! ## Reading what was written -/

theorem value_digit {n : Nat} (h : n < 64) : value (digit n) = some n := by
  have hall : ∀ m ∈ List.range 64, value (digit m) = some m := by decide +kernel
  exact hall n (List.mem_range.mpr h)

theorem digit_ne_pad {n : Nat} (h : n < 64) : digit n ≠ '=' := by
  have hall : ∀ m ∈ List.range 64, digit m ≠ '=' := by decide +kernel
  exact hall n (List.mem_range.mpr h)

/-- A digit is pushed. -/
theorem decodeFrom_digit {n : Nat} (h : n < 64) (q : Quad) (pads : Nat) (cs : List Char) :
    decodeFrom q pads (digit n :: cs) =
      (decodeFrom (q.push n).2 0 cs).map ((q.push n).1.toList ++ ·) := by
  rw [decodeFrom, if_neg (digit_ne_pad h), value_digit h]

/-- The bits of a byte that two digits share come together again. -/
theorem join_bits {a m n k : Nat} {x : UInt8} (hx : x.toNat = a) (h : m * k + n = a) :
    UInt8.ofNat (m * k + n) = x := by
  rw [h, ← hx, UInt8.ofNat_toNat]

/-- **Reading inverts writing.** -/
theorem decode_encode : ∀ bs : List UInt8, decode (encode bs) = some bs
  | [] => rfl
  | [a] => by
    have ha : a.toNat < 256 := a.toNat_lt
    have h₁ : UInt8.ofNat (a.toNat / 4 * 4 + a.toNat % 4 * 16 / 16) = a :=
      join_bits rfl (by omega)
    rw [encode, decode, decodeFrom_digit (by omega), decodeFrom_digit (by omega)]
    simp only [Quad.push, h₁]
    rfl
  | [a, b] => by
    have ha : a.toNat < 256 := a.toNat_lt
    have hb : b.toNat < 256 := b.toNat_lt
    have h₁ : UInt8.ofNat (a.toNat / 4 * 4 + (a.toNat % 4 * 16 + b.toNat / 16) / 16) = a :=
      join_bits rfl (by omega)
    have h₂ : UInt8.ofNat
        ((a.toNat % 4 * 16 + b.toNat / 16) % 16 * 16 + b.toNat % 16 * 4 / 4) = b :=
      join_bits rfl (by omega)
    rw [encode, decode, decodeFrom_digit (by omega), decodeFrom_digit (by omega),
      decodeFrom_digit (by omega)]
    simp only [Quad.push, h₁, h₂]
    rfl
  | a :: b :: c :: rest => by
    have ha : a.toNat < 256 := a.toNat_lt
    have hb : b.toNat < 256 := b.toNat_lt
    have hc : c.toNat < 256 := c.toNat_lt
    have ih : decodeFrom .start 0 (encode rest) = some rest := decode_encode rest
    have h₁ : UInt8.ofNat (a.toNat / 4 * 4 + (a.toNat % 4 * 16 + b.toNat / 16) / 16) = a :=
      join_bits rfl (by omega)
    have h₂ : UInt8.ofNat ((a.toNat % 4 * 16 + b.toNat / 16) % 16 * 16 +
        (b.toNat % 16 * 4 + c.toNat / 64) / 4) = b := join_bits rfl (by omega)
    have h₃ : UInt8.ofNat ((b.toNat % 16 * 4 + c.toNat / 64) % 4 * 64 + c.toNat % 64) = c :=
      join_bits rfl (by omega)
    rw [encode, decode, decodeFrom_digit (by omega), decodeFrom_digit (by omega),
      decodeFrom_digit (by omega), decodeFrom_digit (by omega)]
    simp only [Quad.push, h₁, h₂, h₃, ih]
    rfl

/-! ## What does not count -/

/-- Digits and padding. -/
def counts (c : Char) : Bool := c == '=' || (value c).isSome

theorem decodeFrom_skip {c : Char} (h : counts c = false) (q : Quad) (pads : Nat)
    (cs : List Char) : decodeFrom q pads (c :: cs) = decodeFrom q pads cs := by
  simp only [counts, Bool.or_eq_false_iff, beq_eq_false_iff_ne, Option.isSome_eq_false_iff,
    Option.isNone_iff_eq_none] at h
  rw [decodeFrom, if_neg h.1, h.2]

/-- **What does not count is ignored.** -/
theorem decodeFrom_filter (q : Quad) (pads : Nat) (cs : List Char) :
    decodeFrom q pads (cs.filter counts) = decodeFrom q pads cs := by
  induction cs generalizing q pads with
  | nil => rfl
  | cons c cs ih =>
    rcases hc : counts c with _ | _
    · rw [List.filter_cons_of_neg (by simp [hc]), decodeFrom_skip hc, ih]
    · rw [List.filter_cons_of_pos hc]
      simp only [decodeFrom, ih]

/-- A text is read as soon as it is what was written but for characters that do not count. -/
theorem decode_filter {cs : List Char} {bs : List UInt8} (h : cs.filter counts = encode bs) :
    decode cs = some bs := by
  rw [decode, ← decodeFrom_filter, h]
  exact decode_encode bs

theorem counts_digit {n : Nat} (h : n < 64) : counts (digit n) = true := by
  simp [counts, value_digit h]

/-- **Everything that is written counts.** -/
theorem counts_encode : ∀ {bs : List UInt8} {c : Char}, c ∈ encode bs → counts c = true
  | [], _, hc => by cases hc
  | [a], c, hc => by
    have ha : a.toNat < 256 := a.toNat_lt
    simp only [encode, List.mem_cons, List.not_mem_nil, or_false] at hc
    rcases hc with rfl | rfl | rfl | rfl
    · exact counts_digit (by omega)
    · exact counts_digit (by omega)
    all_goals rfl
  | [a, b], c, hc => by
    have ha : a.toNat < 256 := a.toNat_lt
    have hb : b.toNat < 256 := b.toNat_lt
    simp only [encode, List.mem_cons, List.not_mem_nil, or_false] at hc
    rcases hc with rfl | rfl | rfl | rfl
    · exact counts_digit (by omega)
    · exact counts_digit (by omega)
    · exact counts_digit (by omega)
    · rfl
  | a :: b :: x :: rest, c, hc => by
    have ha : a.toNat < 256 := a.toNat_lt
    have hb : b.toNat < 256 := b.toNat_lt
    have hx : x.toNat < 256 := x.toNat_lt
    simp only [encode, List.mem_cons] at hc
    rcases hc with rfl | rfl | rfl | rfl | hc
    · exact counts_digit (by omega)
    · exact counts_digit (by omega)
    · exact counts_digit (by omega)
    · exact counts_digit (by omega)
    · exact counts_encode hc

theorem ascii_of_counts {c : Char} (h : counts c = true) : c.toNat < 128 := by
  have halphabet : (alphabet.all fun d => decide (d.toNat < 128)) = true := by decide
  simp only [counts, Bool.or_eq_true, beq_iff_eq] at h
  rcases h with rfl | h
  · decide
  · obtain ⟨i, hi⟩ := Option.isSome_iff_exists.mp h
    obtain ⟨hlt, hget, -⟩ := List.findIdx?_eq_some_iff_getElem.mp hi
    have hc : alphabet[i] = c := by simpa using hget
    exact of_decide_eq_true (List.all_eq_true.mp halphabet c (hc ▸ List.getElem_mem hlt))

end Base64
