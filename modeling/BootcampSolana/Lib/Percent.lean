import Mathlib.Data.List.Basic

/-!
# Percent-encoding

Text that stands for a string of bytes: an unreserved character for its own byte, and `%XX` for
any byte. Text that stands for a string of characters stands for its bytes in UTF-8.

* `decode` — reads unreserved characters and triples, and nothing else
* `decodeText_eq_some_iff` — what the text reads as, once its bytes are known
* `bytes_eq_utf8_iff` — taking the low byte of every character is UTF-8 for ASCII, and only there
-/

namespace Percent

/-- The characters that stand for themselves. -/
def unreserved (c : Char) : Bool :=
  ('A' ≤ c && c ≤ 'Z') || ('a' ≤ c && c ≤ 'z') || ('0' ≤ c && c ≤ '9') || c == '-' || c == '_' ||
    c == '.' || c == '~'

/-- An upper-case hexadecimal digit. -/
def hexDigit (n : Nat) : Char := "0123456789ABCDEF".toList.getD n '0'

/-- The value of a hexadecimal digit of either case. -/
def hexValue (c : Char) : Option Nat :=
  if '0' ≤ c && c ≤ '9' then some (c.toNat - '0'.toNat)
  else if 'A' ≤ c && c ≤ 'F' then some (c.toNat - 'A'.toNat + 10)
  else if 'a' ≤ c && c ≤ 'f' then some (c.toNat - 'a'.toNat + 10)
  else none

/-- `%XX`. -/
def triple (b : UInt8) : List Char := ['%', hexDigit (b.toNat / 16), hexDigit (b.toNat % 16)]

/-- The bytes of a text of unreserved characters and triples. -/
def decode : List Char → Option (List UInt8)
  | [] => some []
  | c :: rest =>
    if unreserved c then (decode rest).map (c.toUInt8 :: ·)
    else if c = '%' then
      match rest with
      | h :: l :: rest =>
        match hexValue h, hexValue l with
        | some x, some y => (decode rest).map (UInt8.ofNat (16 * x + y) :: ·)
        | _, _ => none
      | _ => none
    else none

/-- The text that the bytes are in UTF-8. -/
def decodeText (text : List Char) : Option String :=
  (decode text).bind fun bytes => String.fromUTF8? bytes.toByteArray

/-! ## Reading one character -/

variable {c : Char} {rest text l : List Char} {bytes : List UInt8} {s : String} {n : Nat}

theorem hexValue_hexDigit (h : n < 16) : hexValue (hexDigit n) = some n := by
  have hall : ∀ m ∈ List.range 16, hexValue (hexDigit m) = some m := by decide
  exact hall n (List.mem_range.mpr h)

theorem unreserved_ascii (h : unreserved c = true) : c.toNat < 128 := by
  have hle : ∀ {d : Char}, c ≤ d → d.toNat < 128 → c.toNat < 128 := by
    intro d hd hlt
    exact Nat.lt_of_le_of_lt (UInt32.le_iff_toNat_le.mp hd) hlt
  unfold unreserved at h
  simp only [Bool.or_eq_true, Bool.and_eq_true, decide_eq_true_eq, beq_iff_eq] at h
  rcases h with (((((h | h) | h) | rfl) | rfl) | rfl) | rfl
  · exact hle h.2 (by decide)
  · exact hle h.2 (by decide)
  · exact hle h.2 (by decide)
  all_goals decide

theorem decode_unreserved (h : unreserved c = true) :
    decode (c :: rest) = (decode rest).map (c.toUInt8 :: ·) :=
  (decode.eq_def (c :: rest)).trans (if_pos h)

theorem decode_triple (b : UInt8) :
    decode (triple b ++ rest) = (decode rest).map (b :: ·) := by
  have hb : b.toNat < 256 := b.toNat_lt
  have hvalue : UInt8.ofNat (16 * (b.toNat / 16) + b.toNat % 16) = b := by
    rw [Nat.div_add_mod, UInt8.ofNat_toNat]
  have hplain : unreserved '%' = false := by decide
  simp only [triple, List.cons_append, List.nil_append]
  rw [decode]
  simp [hplain, hexValue_hexDigit (show b.toNat / 16 < 16 by omega),
    hexValue_hexDigit (show b.toNat % 16 < 16 by omega), hvalue]

theorem triple_inj {b b' : UInt8} (h : triple b = triple b') : b = b' := by
  have hdecode : decode (triple b ++ []) = decode (triple b' ++ []) := by rw [h]
  rw [decode_triple, decode_triple] at hdecode
  simpa [decode] using hdecode

/-! ## Bytes and characters -/

theorem fromUTF8?_eq_some_iff : String.fromUTF8? bytes.toByteArray = some s ↔
    bytes = s.toList.flatMap String.utf8EncodeChar := by
  have hutf8 : s.toByteArray = (s.toList.flatMap String.utf8EncodeChar).toByteArray := by
    rw [← String.utf8Encode_toList]
    rfl
  have hinj : bytes.toByteArray = s.toByteArray ↔
      bytes = s.toList.flatMap String.utf8EncodeChar := by
    rw [hutf8, List.toByteArray_inj]
  rw [← hinj]
  unfold String.fromUTF8?
  split
  · next h =>
    rw [Option.some_inj, ← String.toByteArray_inj]
    rfl
  · next h =>
    constructor
    · intro hnone
      cases hnone
    · intro heq
      rw [heq] at h
      exact absurd s.isValidUTF8 h

theorem decodeText_eq_some_iff (h : decode text = some bytes) :
    decodeText text = some s ↔ bytes = s.toList.flatMap String.utf8EncodeChar := by
  rw [decodeText, h, Option.bind_some, fromUTF8?_eq_some_iff]

theorem utf8Size_eq_one_iff : c.utf8Size = 1 ↔ c.toNat < 128 := by
  rw [Char.utf8Size_eq_one_iff, UInt32.le_iff_toNat_le]
  show c.toNat ≤ 127 ↔ _
  omega

theorem utf8EncodeChar_ascii (h : c.toNat < 128) : String.utf8EncodeChar c = [c.toUInt8] := by
  rw [String.utf8EncodeChar_eq_singleton (utf8Size_eq_one_iff.mpr h), Char.toUInt8_val]

/-- No character is shorter than a byte. -/
theorem length_le_utf8 (l : List Char) : l.length ≤ (l.flatMap String.utf8EncodeChar).length := by
  induction l with
  | nil => simp
  | cons c l ih =>
    have hc := Char.utf8Size_pos c
    rw [List.flatMap_cons, List.length_append, String.length_utf8EncodeChar, List.length_cons]
    omega

/-- A character that is not ASCII takes more than one byte, and there is no room for it. -/
theorem bytes_eq_utf8_iff :
    l.map Char.toUInt8 = l.flatMap String.utf8EncodeChar ↔ ∀ c ∈ l, c.toNat < 128 := by
  constructor
  · -- there are as many bytes as characters, so none can take more than one
    intro h c hc
    rw [← utf8Size_eq_one_iff]
    obtain ⟨before, after, rfl⟩ := List.append_of_mem hc
    have hlen := congrArg List.length h
    have hbefore := length_le_utf8 before
    have hafter := length_le_utf8 after
    have hpos := Char.utf8Size_pos c
    simp only [List.map_append, List.map_cons, List.flatMap_append, List.flatMap_cons,
      List.length_append, List.length_cons, List.length_map, String.length_utf8EncodeChar] at hlen
    omega
  · intro h
    induction l with
    | nil => rfl
    | cons c l ih =>
      rw [List.map_cons, List.flatMap_cons, utf8EncodeChar_ascii (h c List.mem_cons_self),
        ih fun d hd => h d (List.mem_cons_of_mem c hd)]
      rfl

end Percent
