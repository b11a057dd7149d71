import Mathlib.Algebra.Order.Ring.Nat
import Mathlib.Logic.Equiv.Defs

/-!
# Little-endian base 256

Fixed-width integers laid out least significant byte first, over plain lists of bytes.

The two directions invert each other in different senses, and both are needed:

* `decode_encode` — the bytes of a number read back as that number, modulo `256 ^ width`
* `encode_decode` — a string of bytes is the encoding of the number it reads as, so a
  fixed-width field has exactly one spelling
-/

namespace LittleEndian

/-- The `width` low base-256 digits of `n`, least significant first. -/
def encode : (width : Nat) → Nat → List UInt8
  | 0, _ => []
  | width + 1, n => UInt8.ofNat n :: encode width (n / 256)

/-- The number a string of base-256 digits stands for, least significant first. -/
def decode : List UInt8 → Nat
  | [] => 0
  | b :: bs => b.toNat + 256 * decode bs

@[simp] theorem length_encode : ∀ width n : Nat, (encode width n).length = width
  | 0, _ => rfl
  | width + 1, n => by rw [encode, List.length_cons, length_encode width]

theorem decode_lt : ∀ bs : List UInt8, decode bs < 256 ^ bs.length
  | [] => by simp [decode]
  | b :: bs => by
    have hb : b.toNat < 256 := UInt8.toNat_lt b
    have ih := decode_lt bs
    rw [decode, List.length_cons, Nat.pow_succ]
    omega

theorem decode_encode : ∀ width n : Nat, decode (encode width n) = n % 256 ^ width
  | 0, n => by simp [encode, decode, Nat.mod_one]
  | width + 1, n => by
    have hd : (UInt8.ofNat n).toNat = n % 256 := UInt8.toNat_ofNat'
    rw [encode, decode, hd, decode_encode width, Nat.pow_succ, Nat.mul_comm (256 ^ width) 256,
      Nat.mod_mul]

/-- A number that fits the width reads back as itself. -/
theorem decode_encode_of_lt {width n : Nat} (h : n < 256 ^ width) :
    decode (encode width n) = n := by
  rw [decode_encode, Nat.mod_eq_of_lt h]

/-- **A field has exactly one spelling**: its bytes are the encoding of what they read as. -/
theorem encode_decode : ∀ bs : List UInt8, encode bs.length (decode bs) = bs
  | [] => rfl
  | b :: bs => by
    have hb : b.toNat < 256 := UInt8.toNat_lt b
    have hhead : UInt8.ofNat (b.toNat + 256 * decode bs) = b := by
      apply UInt8.toNat.inj
      rw [UInt8.toNat_ofNat']
      omega
    have htail : (b.toNat + 256 * decode bs) / 256 = decode bs := by omega
    rw [List.length_cons, decode, encode, hhead, htail, encode_decode bs]

/-- The values of a `width`-byte integer type are the strings of `width` bytes. -/
def equiv {α : Type} {width : Nat} (toNat : α → Nat) (ofNat : Nat → α)
    (hlt : ∀ a, toNat a < 256 ^ width) (hleft : ∀ a, ofNat (toNat a) = a)
    (hright : ∀ n, n < 256 ^ width → toNat (ofNat n) = n) :
    α ≃ { s : List UInt8 // s.length = width } where
  toFun a := ⟨encode width (toNat a), length_encode width _⟩
  invFun s := ofNat (decode s.1)
  left_inv a := by
    show ofNat (decode (encode width (toNat a))) = a
    rw [decode_encode_of_lt (hlt a), hleft]
  right_inv s := by
    obtain ⟨bs, rfl⟩ := s
    refine Subtype.ext ?_
    show encode bs.length (toNat (ofNat (decode bs))) = bs
    rw [hright _ (decode_lt bs), encode_decode]

end LittleEndian
