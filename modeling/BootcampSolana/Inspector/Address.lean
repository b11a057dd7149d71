import BootcampSolana.Solana.Pubkey

/-!
# Addresses in base 58

The two copies of `b58`, in `02-account-inspector/inspect-account.py` and in the Python that
`01-hello-account/hello-solana.sh` embeds. Both divide the value of the bytes down to zero and put
each remainder in front of the text; the zero bytes at the front, which the value does not have,
are counted by stripping them.

* `b58Loop_eq` — the loop writes the base-58 digits of its number
* `b58_exact` — decoding the text gives the bytes back
-/

namespace BootcampSolana

/-! ## The source -/

/-- `int.from_bytes(b, 'big')`. -/
def intFromBytes (b : Bytes) : Nat := b.foldl (fun n x => n * 256 + x.toNat) 0

/-- `b.lstrip(b'\0')`. -/
def lstrip (b : Bytes) : Bytes := b.dropWhile (· == 0)

/-- `while n: n, r = divmod(n, 58); s = alphabet[r] + s`. -/
def b58Loop (alphabet : List Char) (h : alphabet.length = 58) (n : Nat) (s : List Char) :
    List Char :=
  if n = 0 then s
  else b58Loop alphabet h (n / 58) (alphabet.get ⟨n % 58, by omega⟩ :: s)
termination_by n
decreasing_by exact Nat.div_lt_self (by omega) (by omega)

/-- Both copies, for their alphabets. -/
def b58With (alphabet : List Char) (h : alphabet.length = 58) (b : Bytes) : String :=
  String.ofList
    (List.replicate (b.length - (lstrip b).length) '1' ++ b58Loop alphabet h (intFromBytes b) [])

namespace Inspector

def B58 : List Char := "123456789ABCDEFGHJKLMNPQRSTUVWXYZabcdefghijkmnopqrstuvwxyz".toList

def b58 (b : Bytes) : String := b58With B58 (by decide) b

end Inspector

namespace HelloAccount

def ALPHABET : List Char := "123456789ABCDEFGHJKLMNPQRSTUVWXYZabcdefghijkmnopqrstuvwxyz".toList

def b58 (b : Bytes) : String := b58With ALPHABET (by decide) b

end HelloAccount

/-! ## What it writes -/

variable {alphabet : List Char} {h : alphabet.length = 58} {n : Nat} {s : List Char} {b : Bytes}

/-- The loop writes the digits of `n` in front of `s`. -/
theorem b58Loop_eq : b58Loop alphabet h n s =
    (Nat.digits 58 n).reverse.map (fun d => alphabet.getD d '1') ++ s := by
  induction n using Nat.strong_induction_on generalizing s with
  | _ n ih =>
    rw [b58Loop]
    split
    · next hn => simp [hn]
    · next hn =>
      have hlt : n % 58 < alphabet.length := by omega
      have hdigit : alphabet.get ⟨n % 58, hlt⟩ = alphabet.getD (n % 58) '1' := by
        rw [List.getD_eq_getElem?_getD, List.getElem?_eq_getElem hlt]
        rfl
      rw [ih (n / 58) (Nat.div_lt_self (by omega) (by omega)), hdigit,
        Nat.digits_def' (by decide) (Nat.pos_of_ne_zero hn)]
      simp

/-- The bytes that stripping takes away are the zeros at the front. -/
theorem length_sub_lstrip (b : Bytes) :
    b.length - (lstrip b).length = (b.takeWhile (· == 0)).length := by
  have hsplit := congrArg List.length (@List.takeWhile_append_dropWhile _ (· == 0) b)
  rw [List.length_append] at hsplit
  unfold lstrip
  omega

theorem toList_b58With (halphabet : alphabet = Base58.alphabet) :
    (b58With alphabet h b).toList = Base58.encode b := by
  subst halphabet
  rw [b58With, String.toList_ofList, length_sub_lstrip, b58Loop_eq, List.append_nil]
  rfl

theorem toList_b58 (b : Bytes) : (Inspector.b58 b).toList = Base58.encode b := toList_b58With rfl

theorem toList_b58' (b : Bytes) : (HelloAccount.b58 b).toList = Base58.encode b :=
  toList_b58With rfl

/-- What decodes to the bytes it was made from is made from no other bytes. -/
theorem injective_of_decode {f : Bytes → String}
    (hf : ∀ b, Base58.decode (f b).toList = some b) : Function.Injective f := by
  intro b b' heq
  have hb := hf b
  rw [heq, hf b'] at hb
  exact (Option.some.inj hb).symm

/--
**`b58` is base 58.** Decoding the text of any string of bytes gives the string back, so no two
strings have one text, and no two accounts are shown with one address.
-/
theorem b58_exact :
    (∀ b, Base58.decode (Inspector.b58 b).toList = some b) ∧
    (∀ b, Base58.decode (HelloAccount.b58 b).toList = some b) ∧
    Function.Injective Inspector.b58 ∧
    Function.Injective HelloAccount.b58 ∧
    ∀ p q : Pubkey, Inspector.b58 p.bytes = Inspector.b58 q.bytes → p = q := by
  have hinspector : ∀ b, Base58.decode (Inspector.b58 b).toList = some b := by
    intro b
    rw [toList_b58, Base58.decode_encode]
  have hhello : ∀ b, Base58.decode (HelloAccount.b58 b).toList = some b := by
    intro b
    rw [toList_b58', Base58.decode_encode]
  refine ⟨hinspector, hhello, injective_of_decode hinspector, injective_of_decode hhello, ?_⟩
  intro p q hpq
  exact Pubkey.bytes_inj.mp (injective_of_decode hinspector hpq)

end BootcampSolana
