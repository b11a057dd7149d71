import BootcampSolana.Lib.LittleEndian

/-!
# The parts of Rust the sources are written in

* `Outcome` — what a function that returns `Result` can do: return `Ok`, return `Err`, or panic
* slices, whose bounds are checked at run time and panic
* the little-endian bytes of the fixed-width integers

Panicking is kept apart from `Err` throughout: a caller can handle the one and not the other.
-/

namespace BootcampSolana

abbrev Bytes := List UInt8

/-- A byte-string literal `b"..."`. -/
def ascii (s : String) : Bytes := s.toList.map fun c => UInt8.ofNat c.toNat

/-! ## Results and panics -/

inductive Outcome (ε α : Type) where
  | ok (a : α)
  | err (e : ε)
  | panicked
  deriving DecidableEq, Repr

namespace Outcome

variable {ε α β : Type}

protected def bind (x : Outcome ε α) (f : α → Outcome ε β) : Outcome ε β :=
  match x with
  | ok a => f a
  | err e => err e
  | panicked => panicked

instance : Monad (Outcome ε) where
  pure := ok
  bind := Outcome.bind

@[simp] theorem pure_eq (a : α) : (pure a : Outcome ε α) = ok a := rfl

@[simp] theorem bind_ok (a : α) (f : α → Outcome ε β) : (ok a >>= f) = f a := rfl

/-- `?` on a `None` turned into an error. -/
def okOr (o : Option α) (e : ε) : Outcome ε α :=
  match o with
  | some a => ok a
  | none => err e

/-- `?` on a `Result` of another function. -/
def ofExcept : Except ε α → Outcome ε α
  | .ok a => ok a
  | .error e => err e

/-- `map_err`, and `?` into a wider type of errors. -/
def mapErr {ε' : Type} (f : ε → ε') : Outcome ε α → Outcome ε' α
  | ok a => ok a
  | err e => err (f e)
  | panicked => panicked

/-- It does not panic, and what it returns is as it should be. -/
def Meets (Q : α → Prop) (E : ε → Prop) : Outcome ε α → Prop
  | ok a => Q a
  | err e => E e
  | panicked => False

/-- `unwrap` on an `Option`. -/
def unwrap (o : Option α) : Outcome ε α :=
  match o with
  | some a => ok a
  | none => panicked

end Outcome

/-! ## Slices -/

/-- The bytes `i..j`, when they are there. -/
def window (d : Bytes) (i j : Nat) : Bytes := (d.drop i).take (j - i)

/-- `&d[i..j]`. -/
def slice {ε : Type} (d : Bytes) (i j : Nat) : Outcome ε Bytes :=
  if i ≤ j ∧ j ≤ d.length then .ok (window d i j) else .panicked

/-- `d[i]`. -/
def index {ε : Type} (d : Bytes) (i : Nat) : Outcome ε UInt8 :=
  match d[i]? with
  | some b => .ok b
  | none => .panicked

/-- `bs.get(..n)`. -/
def getTo (bs : Bytes) (n : Nat) : Option Bytes :=
  if n ≤ bs.length then some (bs.take n) else none

/-- `<[u8; n]>::try_from(bs)`. -/
def tryIntoArray (n : Nat) (bs : Bytes) : Option Bytes :=
  if bs.length = n then some bs else none

theorem length_window {d : Bytes} {i j : Nat} (h : j ≤ d.length) :
    (window d i j).length = j - i := by
  simp only [window, List.length_take, List.length_drop]
  omega

theorem tryIntoArray_window {d : Bytes} {i j n : Nat} (h : j ≤ d.length) (hn : j - i = n) :
    tryIntoArray n (window d i j) = some (window d i j) :=
  if_pos ((length_window h).trans hn)

section Windows

variable {a b d : Bytes} {i j k n : Nat}

/-- What starts behind `a` is read from behind `a`. -/
theorem window_append_right (h : a.length ≤ i) :
    window (a ++ b) i j = window b (i - a.length) (j - a.length) := by
  have hsub : j - a.length - (i - a.length) = j - i := by omega
  rw [window, window, List.drop_append, List.drop_eq_nil_of_le h, List.nil_append, hsub]

/-- What ends with `a` at the latest does not see what follows. -/
theorem window_append_left (h : j ≤ a.length) : window (a ++ b) i j = window a i j := by
  by_cases hij : i ≤ j
  · rw [window, window, List.drop_append_of_le_length (by omega),
      List.take_append_of_le_length (by rw [List.length_drop]; omega)]
  · rw [window, window, Nat.sub_eq_zero_of_le (by omega), List.take_zero, List.take_zero]

theorem window_self (h : a.length = n) : window a 0 n = a := by
  rw [window, List.drop_zero, Nat.sub_zero, ← h, List.take_length]

theorem window_byte (h : i < d.length) : window d i (i + 1) = [d.getD i 0] := by
  have hget : d.getD i 0 = d[i] := by
    rw [List.getD_eq_getElem?_getD, List.getElem?_eq_getElem h]
    rfl
  rw [window, Nat.add_sub_cancel_left, List.drop_eq_getElem_cons h, hget]
  rfl

theorem getD_of_window {x : UInt8} (h : window d i (i + 1) = [x]) : d.getD i 0 = x := by
  by_cases hi : i < d.length
  · rw [window_byte hi] at h
    exact (List.cons.inj h).1
  · rw [window, List.drop_eq_nil_of_le (Nat.le_of_not_lt hi), List.take_nil] at h
    cases h

/-- A field of a record is read between the end of what precedes it and its own end. -/
theorem window_field (pre : List Bytes) (f : Bytes) (post : List Bytes)
    (hi : pre.flatten.length = i) (hj : i + f.length = j) :
    window (pre ++ f :: post).flatten i j = f := by
  rw [List.flatten_append, List.flatten_cons, window_append_right (by omega), hi, Nat.sub_self,
    window_append_left (by omega)]
  exact window_self (by omega)

/-- Neighbouring windows join. -/
theorem window_append_window (hij : i ≤ j) (hjk : j ≤ k) :
    window d i j ++ window d j k = window d i k := by
  have hdrop : d.drop j = (d.drop i).drop (j - i) := by
    rw [List.drop_drop, Nat.add_sub_cancel' hij]
  have hlen : k - i = (j - i) + (k - j) := by omega
  rw [window, window, window, hdrop, hlen, List.take_add]

end Windows

theorem slice_eq_ok {ε : Type} {d : Bytes} {i j : Nat} (hij : i ≤ j) (hj : j ≤ d.length) :
    (slice d i j : Outcome ε Bytes) = .ok (window d i j) := if_pos ⟨hij, hj⟩

theorem slice_eq {ε : Type} {d : Bytes} {i j : Nat} (hij : i ≤ j) :
    (slice d i j : Outcome ε Bytes) =
      if j ≤ d.length then .ok (window d i j) else .panicked := by
  by_cases hj : j ≤ d.length
  · rw [if_pos hj, slice_eq_ok hij hj]
  · rw [if_neg hj, slice, if_neg fun h => hj h.2]

theorem index_eq {ε : Type} {d : Bytes} {i : Nat} :
    (index d i : Outcome ε UInt8) = if i < d.length then .ok (d.getD i 0) else .panicked := by
  by_cases hi : i < d.length
  · rw [if_pos hi, index, List.getElem?_eq_getElem hi, List.getD_eq_getElem?_getD,
      List.getElem?_eq_getElem hi]
    rfl
  · rw [if_neg hi, index, List.getElem?_eq_none (Nat.le_of_not_lt hi)]

theorem index_eq_ok {ε : Type} {d : Bytes} {i : Nat} {b : UInt8} (h : d[i]? = some b) :
    (index d i : Outcome ε UInt8) = .ok b := by rw [index, h]

/-- `xs[i]` on a vector. -/
def indexVec {ε α : Type} (xs : List α) (i : Nat) : Outcome ε α :=
  match xs[i]? with
  | some a => .ok a
  | none => .panicked

theorem indexVec_eq_ok {ε α : Type} {xs : List α} {i : Nat} {a : α} (h : xs[i]? = some a) :
    (indexVec xs i : Outcome ε α) = .ok a := by rw [indexVec, h]

/-- `d[i..j].copy_from_slice(src)`, as a new buffer. -/
def copied (d : Bytes) (i j : Nat) (src : Bytes) : Bytes := d.take i ++ src ++ d.drop j

/-! ## Fixed-width integers -/

section Minus

variable {ε α : Type} [LE α] [DecidableLE α] [Sub α] {a b : α}

/-- `a - b` on an unsigned type, in a build that checks for overflow, as `cargo run` makes. -/
def minus (a b : α) : Outcome ε α := if b ≤ a then .ok (a - b) else .panicked

theorem minus_eq_ok (h : b ≤ a) : (minus a b : Outcome ε α) = .ok (a - b) := if_pos h

theorem minus_eq_panicked (h : ¬ b ≤ a) : (minus a b : Outcome ε α) = .panicked := if_neg h

end Minus

/-- `u16::to_le_bytes`. -/
def U16.toLeBytes (n : UInt16) : Bytes := LittleEndian.encode 2 n.toNat

/-- `u32::to_le_bytes`. -/
def U32.toLeBytes (n : UInt32) : Bytes := LittleEndian.encode 4 n.toNat

/-- `u32::from_le_bytes`, on the four bytes its argument type promises. -/
def U32.fromLeBytes (bs : Bytes) : UInt32 := UInt32.ofNat (LittleEndian.decode bs)

@[simp] theorem U32.length_toLeBytes (n : UInt32) : (U32.toLeBytes n).length = 4 :=
  LittleEndian.length_encode 4 n.toNat

@[simp] theorem U32.fromLeBytes_toLeBytes (n : UInt32) : fromLeBytes (toLeBytes n) = n := by
  have hn : n.toNat < 256 ^ 4 := by
    have := UInt32.toNat_lt n
    omega
  rw [fromLeBytes, toLeBytes, LittleEndian.decode_encode_of_lt hn, UInt32.ofNat_toNat]

theorem U32.toLeBytes_fromLeBytes {bs : Bytes} (h : bs.length = 4) :
    toLeBytes (fromLeBytes bs) = bs := by
  have hlt := LittleEndian.decode_lt bs
  rw [h] at hlt
  rw [toLeBytes, fromLeBytes, UInt32.toNat_ofNat', Nat.mod_eq_of_lt (by omega), ← h,
    LittleEndian.encode_decode]

namespace U64

def toLeBytes (n : UInt64) : Bytes := LittleEndian.encode 8 n.toNat

/-- `u64::from_le_bytes`, on the eight bytes its argument type promises. -/
def fromLeBytes (bs : Bytes) : UInt64 := UInt64.ofNat (LittleEndian.decode bs)

def checkedAdd (a b : UInt64) : Option UInt64 :=
  if a.toNat + b.toNat < 2 ^ 64 then some (a + b) else none

/-- `a + b`, in a build that checks for overflow. -/
def plus {ε : Type} (a b : UInt64) : Outcome ε UInt64 := .unwrap (checkedAdd a b)

@[simp] theorem length_toLeBytes (n : UInt64) : (toLeBytes n).length = 8 :=
  LittleEndian.length_encode 8 n.toNat

theorem toNat_fromLeBytes {bs : Bytes} (h : bs.length = 8) :
    (fromLeBytes bs).toNat = LittleEndian.decode bs := by
  have hlt := LittleEndian.decode_lt bs
  rw [h] at hlt
  rw [fromLeBytes, UInt64.toNat_ofNat']
  exact Nat.mod_eq_of_lt (by omega)

@[simp] theorem fromLeBytes_toLeBytes (n : UInt64) : fromLeBytes (toLeBytes n) = n := by
  have hn : n.toNat < 256 ^ 8 := by have := UInt64.toNat_lt n; omega
  rw [fromLeBytes, toLeBytes, LittleEndian.decode_encode_of_lt hn, UInt64.ofNat_toNat]

theorem toLeBytes_fromLeBytes {bs : Bytes} (h : bs.length = 8) :
    toLeBytes (fromLeBytes bs) = bs := by
  rw [toLeBytes, toNat_fromLeBytes h, ← h, LittleEndian.encode_decode]

end U64

end BootcampSolana
