import Mathlib.Data.List.Basic

/-!
# Bytes in hexadecimal

Every byte is two lower-case digits. The digits of several bytes stand next to each other, or with a
blank between two bytes.
-/

namespace Hex

def byte (b : UInt8) : List Char := [Nat.digitChar (b.toNat / 16), Nat.digitChar (b.toNat % 16)]

def value (c : Char) : Option Nat := "0123456789abcdef".toList.idxOf? c

/-- The byte that the first two characters stand for, and the rest. -/
def readByte : List Char → Option (UInt8 × List Char)
  | h :: l :: rest =>
    match value h, value l with
    | some x, some y => some (UInt8.ofNat (16 * x + y), rest)
    | _, _ => none
  | _ => none

/-- Bytes without blanks. -/
def read : List Char → Option (List UInt8)
  | [] => some []
  | [_] => none
  | h :: l :: rest =>
    match readByte [h, l], read rest with
    | some (b, _), some bs => some (b :: bs)
    | _, _ => none

/-- Bytes with a blank between two of them. -/
def spaced : List UInt8 → List Char
  | [] => []
  | [b] => byte b
  | b :: b' :: bs => byte b ++ ' ' :: spaced (b' :: bs)

/-- The bytes up to the first place that has none. -/
def readSpaced (cs : List Char) : List UInt8 :=
  match cs with
  | h :: l :: ' ' :: rest =>
    match readByte [h, l] with
    | some (b, _) => b :: readSpaced rest
    | none => []
  | _ => []

theorem value_digitChar {n : Nat} (h : n < 16) : value (Nat.digitChar n) = some n := by
  have hall : ∀ m ∈ List.range 16, value (Nat.digitChar m) = some m := by decide
  exact hall n (List.mem_range.mpr h)

/-- **A byte is read back.** -/
theorem readByte_byte (b : UInt8) (rest : List Char) :
    readByte (byte b ++ rest) = some (b, rest) := by
  have hb : b.toNat < 256 := b.toNat_lt
  have hjoin : 16 * (b.toNat / 16) + b.toNat % 16 = b.toNat := by omega
  simp only [byte, List.cons_append, List.nil_append, readByte,
    value_digitChar (by omega : b.toNat / 16 < 16), value_digitChar (by omega : b.toNat % 16 < 16),
    hjoin, UInt8.ofNat_toNat]

/-- **Bytes are read back.** -/
theorem read_flatMap_byte (bs : List UInt8) : read (bs.flatMap byte) = some bs := by
  induction bs with
  | nil => rfl
  | cons b bs ih =>
    have hb := readByte_byte b []
    simp only [byte, List.append_nil] at hb
    simp only [List.flatMap_cons, byte, List.cons_append, List.nil_append] at ih ⊢
    rw [read, hb, ih]

theorem readSpaced_blank : ∀ cs : List Char, readSpaced (' ' :: cs) = []
  | [] => rfl
  | [_] => rfl
  | c :: c' :: rest => by
    by_cases hc : c' = ' '
    · subst hc
      rw [readSpaced, readByte, show value ' ' = none by decide]
    · rw [readSpaced]
      simp [hc]

theorem readSpaced_byte (b : UInt8) (rest : List Char) :
    readSpaced (byte b ++ ' ' :: rest) = b :: readSpaced rest := by
  have hb := readByte_byte b []
  simp only [byte, List.append_nil] at hb
  simp only [byte, List.cons_append, List.nil_append]
  rw [readSpaced, hb]

/-- **Spaced bytes are read back**, when two blanks follow. -/
theorem readSpaced_spaced : ∀ {bs : List UInt8} (rest : List Char), bs ≠ [] →
    readSpaced (spaced bs ++ ' ' :: ' ' :: rest) = bs
  | [b], rest, _ => by
    rw [spaced, readSpaced_byte, readSpaced_blank]
  | b :: b' :: bs, rest, _ => by
    have ih := @readSpaced_spaced (b' :: bs) rest (by simp)
    rw [spaced, List.append_assoc, List.cons_append, readSpaced_byte, ih]

end Hex
