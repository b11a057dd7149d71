import Mathlib.Data.List.TakeWhile
import Mathlib.Data.Nat.Digits.Lemmas

/-!
# Base 58

The text form of a byte string: the value of the bytes in base 58, and one leading `1` for
every leading zero byte, which the value alone would lose.

* `decode_encode` — decoding inverts encoding, leading zeros included
-/

namespace Base58

/-- The 58 digits in order. `0`, `O`, `I` and `l` are left out. -/
def alphabet : List Char := "123456789ABCDEFGHJKLMNPQRSTUVWXYZabcdefghijkmnopqrstuvwxyz".toList

def digit? (c : Char) : Option Nat := alphabet.findIdx? (· == c)

/-- The number a string of digits stands for, read after the digits that gave `n`. -/
def valueFrom : Nat → List Char → Option Nat
  | n, [] => some n
  | n, c :: rest =>
    match digit? c with
    | none => none
    | some d => valueFrom (n * 58 + d) rest

/-- One zero byte for each leading `1`, then the shortest big-endian bytes of the value. -/
def decode (text : List Char) : Option (List UInt8) :=
  (valueFrom 0 text).map fun n =>
    List.replicate (text.takeWhile (· == '1')).length 0
      ++ (Nat.digits 256 n).reverse.map UInt8.ofNat

/-! ## Encoding -/

/-- The digit for `d`. -/
def digit (d : Nat) : Char := alphabet.getD d '1'

/-- The number a string of bytes stands for, most significant first. -/
def value (bytes : List UInt8) : Nat := bytes.foldl (fun n b => n * 256 + b.toNat) 0

/-- One `1` for each leading zero byte, then the digits of the value. -/
def encode (bytes : List UInt8) : List Char :=
  List.replicate (bytes.takeWhile (· == 0)).length '1'
    ++ (Nat.digits 58 (value bytes)).reverse.map digit

/-! ## Digits -/

variable {bytes : List UInt8} {ds : List Nat} {text : List Char} {d k n : Nat}

theorem digit?_digit (h : d < 58) : digit? (digit d) = some d := by
  have hall : ∀ e ∈ List.range 58, digit? (digit e) = some e := by decide
  exact hall d (List.mem_range.mpr h)

theorem digit_mem_alphabet (d : Nat) : digit d ∈ alphabet := by
  rw [digit, List.getD_eq_getElem?_getD]
  cases h : alphabet[d]? with
  | none => decide
  | some c => exact List.mem_of_getElem? h

/-- What is not a digit is not in the text. -/
theorem not_mem_encode {c : Char} (h : c ∉ alphabet) : c ∉ encode bytes := by
  rw [encode, List.mem_append, List.mem_map]
  rintro (hone | ⟨d, -, rfl⟩)
  · rw [List.eq_of_mem_replicate hone] at h
    exact h (by decide)
  · exact h (digit_mem_alphabet d)

/-- The digit `1` is zero, and no other digit is. -/
theorem digit_eq_one_iff (h : d < 58) : digit d = '1' ↔ d = 0 := by
  constructor
  · intro hd
    have hvalue := digit?_digit h
    rw [hd] at hvalue
    exact (Option.some.inj hvalue).symm
  · rintro rfl
    rfl

theorem valueFrom_map_digit : ∀ {ds : List Nat}, (∀ d ∈ ds, d < 58) → ∀ n,
    valueFrom n (ds.map digit) = some (ds.foldl (fun n d => n * 58 + d) n)
  | [], _, _ => rfl
  | d :: ds, h, n => by
    have ih := valueFrom_map_digit (fun e he => h e (List.mem_cons_of_mem d he)) (n * 58 + d)
    rw [List.map_cons, valueFrom, digit?_digit (h d List.mem_cons_self)]
    exact ih

/-- Leading ones do not change the value. -/
theorem valueFrom_replicate : ∀ k : Nat,
    valueFrom 0 (List.replicate k '1' ++ text) = valueFrom 0 text
  | 0 => rfl
  | k + 1 => valueFrom_replicate k

/-- Digits read most significant first. -/
theorem foldl_reverse_digits (base : Nat) (ds : List Nat) :
    ds.reverse.foldl (fun n d => n * base + d) 0 = Nat.ofDigits base ds := by
  rw [List.foldl_reverse, Nat.ofDigits_eq_foldr]
  congr 1
  funext d n
  rw [Nat.cast_id, Nat.mul_comm, Nat.add_comm]

theorem value_eq (bytes : List UInt8) :
    value bytes = Nat.ofDigits 256 (bytes.reverse.map UInt8.toNat) := by
  rw [← foldl_reverse_digits, ← List.map_reverse, List.reverse_reverse, List.foldl_map]
  rfl

theorem value_replicate : ∀ k : Nat, value (List.replicate k 0 ++ bytes) = value bytes
  | 0 => rfl
  | k + 1 => value_replicate k

/-! ## The round trip -/

/-- Bytes without a leading zero are the shortest for their value. -/
theorem digits_value (h : ∀ b ∈ bytes.head?, b ≠ 0) :
    Nat.digits 256 (value bytes) = bytes.reverse.map UInt8.toNat := by
  have hlt : ∀ d ∈ bytes.reverse.map UInt8.toNat, d < 256 := by
    intro d hd
    obtain ⟨b, -, rfl⟩ := List.mem_map.mp hd
    exact b.toNat_lt
  have hlast : ∀ hne : bytes.reverse.map UInt8.toNat ≠ [],
      (bytes.reverse.map UInt8.toNat).getLast hne ≠ 0 := by
    cases bytes with
    | nil => simp
    | cons b bs =>
      have hb : b ≠ 0 := h b rfl
      simpa [← UInt8.toNat_inj] using hb
  rw [value_eq, Nat.digits_ofDigits 256 (by decide) _ hlt hlast]

/-- A number's digits do not start with a zero, so no `1` is mistaken for a zero byte. -/
theorem takeWhile_digits (n : Nat) :
    ((Nat.digits 58 n).reverse.map digit).takeWhile (· == '1') = [] := by
  by_cases hn : n = 0
  · simp [hn]
  · have hne : Nat.digits 58 n ≠ [] := Nat.digits_ne_nil_iff_ne_zero.mpr hn
    have hlt := Nat.digits_lt_base (by decide : 1 < 58) (List.getLast_mem hne)
    have hlast := Nat.getLast_digit_ne_zero 58 hn
    have hone : digit ((Nat.digits 58 n).getLast hne) ≠ '1' := by
      rw [Ne, digit_eq_one_iff hlt]
      exact hlast
    rw [← List.dropLast_append_getLast hne, List.reverse_append]
    simp [hone]

/-- **Decoding inverts encoding**, for every string of bytes. -/
theorem decode_encode (bytes : List UInt8) : decode (encode bytes) = some bytes := by
  -- the zeros at the front, which the value does not have, and the rest, which it determines
  have hsplit : List.replicate (bytes.takeWhile (· == 0)).length 0 ++ bytes.dropWhile (· == 0) =
      bytes := by
    have hzeros : bytes.takeWhile (· == 0) =
        List.replicate (bytes.takeWhile (· == 0)).length 0 := by
      rw [List.eq_replicate_iff]
      exact ⟨rfl, fun b hb => by simpa using List.mem_takeWhile_imp hb⟩
    rw [← hzeros, List.takeWhile_append_dropWhile]
  have hhead : ∀ b ∈ (bytes.dropWhile (· == 0)).head?, b ≠ 0 := by
    intro b hb hzero
    have hnot := List.head?_dropWhile_not (· == 0) bytes
    rw [hb, hzero] at hnot
    simp at hnot
  have hvalue : value bytes = value (bytes.dropWhile (· == 0)) := by
    conv_lhs => rw [← hsplit]
    rw [value_replicate]
  have hdigits : ∀ d ∈ (Nat.digits 58 (value bytes)).reverse, d < 58 := by
    intro d hd
    exact Nat.digits_lt_base (by decide) (List.mem_reverse.mp hd)
  have hread : valueFrom 0 (encode bytes) = some (value bytes) := by
    rw [encode, valueFrom_replicate, valueFrom_map_digit hdigits, foldl_reverse_digits,
      Nat.ofDigits_digits]
  have hones : ((encode bytes).takeWhile (· == '1')).length =
      (bytes.takeWhile (· == 0)).length := by
    have hpos : ∀ c ∈ List.replicate (bytes.takeWhile (· == 0)).length '1', (c == '1') = true := by
      intro c hc
      rw [List.eq_of_mem_replicate hc]
      rfl
    rw [encode, List.takeWhile_append_of_pos hpos, takeWhile_digits, List.append_nil,
      List.length_replicate]
  have hbytes : (bytes.dropWhile (· == 0)).map (UInt8.ofNat ∘ UInt8.toNat) =
      bytes.dropWhile (· == 0) := by
    simp [Function.comp_def]
  rw [decode, hread, Option.map_some, hones, hvalue, digits_value hhead, ← List.map_reverse,
    List.reverse_reverse, List.map_map, hbytes, hsplit]

end Base58
