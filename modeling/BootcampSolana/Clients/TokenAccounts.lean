import BootcampSolana.Console
import BootcampSolana.CounterPda.Client

/-!
# Reading mints and token accounts

The decoders of `06-spl-token/src/main.rs` and `token_amount` of `03-four-programs/src/main.rs`.
Both layouts are fixed-size and positional: the decoders slice the account's data at offsets
that are written out, and an option is a four-byte tag in front of a payload that is there
either way.

The layouts of the README are `Mint.pack` and `TokenAccount.pack`, written from one field to
the next without an offset. `show_pack` says that the decoders find every field where the
layout puts it.
-/

namespace BootcampSolana

open CounterPda (RpcClient ClientError)

/-- `rpc.get_account` with the flag that `show_runtime` prints as well. -/
structure RpcView extends RpcClient where
  executable : Pubkey → Bool

/-- A node that shows the same account everywhere. -/
def RpcView.serving (a : Account) : RpcView where
  getAccount _ := .ok a
  executable _ := false

/-- `u64::from_le_bytes(d[i..j].try_into()?)`. -/
def readU64 (d : Bytes) (i j : Nat) : Outcome ClientError UInt64 := do
  let word ← slice d i j
  let word ← .okOr (tryIntoArray 8 word) .tryFromSlice
  pure (U64.fromLeBytes word)

/-- `Pubkey::try_from(&d[i..j])?`. -/
def readPubkey (d : Bytes) (i j : Nat) : Outcome ClientError Pubkey := do
  let key ← slice d i j
  .okOr (Pubkey.tryFrom key) .tryFromSlice

namespace FourPrograms

def tokenAmount (rpc : RpcClient) (ata : Pubkey) : Outcome ClientError UInt64 := do
  let account ← .ofExcept (rpc.getAccount ata)
  readU64 account.data 64 72

end FourPrograms

namespace SplToken

/-- The decimal point, six digits from the right. -/
def ui (raw : UInt64) : String :=
  let digits := toString (raw.toNat % 1000000)
  toString (raw.toNat / 1000000) ++ "." ++ "".pushn '0' (6 - digits.length) ++ digits

/-! ## The decoders -/

/-- COption in account data: a 4-byte little-endian tag, then the value. -/
def coptionPubkey (d : Bytes) : Outcome ClientError (Option Pubkey) := do
  let tag ← slice d 0 4
  let tag ← .unwrap (tryIntoArray 4 tag)
  if U32.fromLeBytes tag = 0 then pure none
  else
    let key ← slice d 4 36
    let key ← .unwrap (Pubkey.tryFrom key)
    pure (some key)

def coptionU64 (d : Bytes) : Outcome ClientError (Option UInt64) := do
  let tag ← slice d 0 4
  let tag ← .unwrap (tryIntoArray 4 tag)
  if U32.fromLeBytes tag = 0 then pure none
  else
    let word ← slice d 4 12
    let word ← .unwrap (tryIntoArray 8 word)
    pure (some (U64.fromLeBytes word))

/-- What is printed about an account. -/
inductive Line where
  | mintHeading
  | accountHeading (label : String)
  | address (key : Pubkey)
  | lamports (lamports : Nat)
  | runtimeOwner (owner : Pubkey)
  | executable (executable : Bool)
  | dataLen (bytes : Nat)
  | mintLayout
  | mintAuthority (authority : Option Pubkey)
  | supply (raw : UInt64) (ui : String)
  | decimals (decimals : UInt8)
  | isInitialized (isInitialized : Bool)
  | freezeAuthority (authority : Option Pubkey)
  | accountLayout
  | mint (mint : Pubkey)
  | owner (owner : Pubkey)
  | amount (raw : UInt64) (ui : String)
  | delegate (delegate : Option Pubkey)
  | state (name : String)
  | isNative (reserve : Option UInt64)
  | delegatedAmount (raw : UInt64)
  | closeAuthority (authority : Option Pubkey)
  deriving DecidableEq

open Printed

def showRuntime (rpc : RpcView) (key : Pubkey) : Printed Line ClientError Bytes := do
  let a ← lift (.ofExcept (rpc.getAccount key))
  print (.address key)
  print (.lamports a.lamports)
  print (.runtimeOwner a.owner)
  print (.executable (rpc.executable key))
  print (.dataLen a.data.length)
  pure a.data

/-- An option in the slice `i..j`. -/
def readOption {α : Type} (decode : Bytes → Outcome ClientError α) (d : Bytes) (i j : Nat) :
    Outcome ClientError α := do
  let field ← slice d i j
  decode field

def showMint (rpc : RpcView) (key : Pubkey) : Printed Line ClientError Unit := do
  print .mintHeading
  let d ← showRuntime rpc key
  print .mintLayout
  println (return .mintAuthority (← readOption coptionPubkey d 0 36))
  println (return .supply (← readU64 d 36 44) (ui (← readU64 d 36 44)))
  println (return .decimals (← index d 44))
  println (return .isInitialized ((← index d 45) != 0))
  println (return .freezeAuthority (← readOption coptionPubkey d 46 82))

def stateName (state : UInt8) : String :=
  match state.toNat with
  | 0 => "Uninitialized"
  | 1 => "Initialized"
  | 2 => "Frozen"
  | _ => "?"

def showTokenAccount (rpc : RpcView) (label : String) (key : Pubkey) :
    Printed Line ClientError Unit := do
  print (.accountHeading label)
  let d ← showRuntime rpc key
  print .accountLayout
  println (return .mint (← readPubkey d 0 32))
  println (return .owner (← readPubkey d 32 64))
  let amount ← lift (readU64 d 64 72)
  print (.amount amount (ui amount))
  println (return .delegate (← readOption coptionPubkey d 72 108))
  println (return .state (stateName (← index d 108)))
  println (return .isNative (← readOption coptionU64 d 109 121))
  println (return .delegatedAmount (← readU64 d 121 129))
  println (return .closeAuthority (← readOption coptionPubkey d 129 165))

/-! ## What they read -/

/-- The value of an option field, for a field that is long enough. -/
def keyOption (field : Bytes) : Option Pubkey :=
  if U32.fromLeBytes (window field 0 4) = 0 then none else Pubkey.tryFrom (window field 4 36)

def wordOption (field : Bytes) : Option UInt64 :=
  if U32.fromLeBytes (window field 0 4) = 0 then none
  else some (U64.fromLeBytes (window field 4 12))

structure Mint where
  mintAuthority : Option Pubkey
  supply : UInt64
  decimals : UInt8
  isInitialized : Bool
  freezeAuthority : Option Pubkey
  deriving DecidableEq

def Mint.read (d : Bytes) : Mint where
  mintAuthority := keyOption (window d 0 36)
  supply := U64.fromLeBytes (window d 36 44)
  decimals := d.getD 44 0
  isInitialized := d.getD 45 0 != 0
  freezeAuthority := keyOption (window d 46 82)

def Mint.lines (v : Mint) : List Line :=
  [.mintAuthority v.mintAuthority, .supply v.supply (ui v.supply), .decimals v.decimals,
    .isInitialized v.isInitialized, .freezeAuthority v.freezeAuthority]

/-- A token account as it is shown, the state by its name. -/
structure TokenFields where
  mint : Pubkey
  owner : Pubkey
  amount : UInt64
  delegate : Option Pubkey
  state : String
  isNative : Option UInt64
  delegatedAmount : UInt64
  closeAuthority : Option Pubkey
  deriving DecidableEq

def TokenFields.read (d : Bytes) (h : 165 ≤ d.length) : TokenFields where
  mint := ⟨window d 0 32, length_window (by omega)⟩
  owner := ⟨window d 32 64, length_window (by omega)⟩
  amount := U64.fromLeBytes (window d 64 72)
  delegate := keyOption (window d 72 108)
  state := stateName (d.getD 108 0)
  isNative := wordOption (window d 109 121)
  delegatedAmount := U64.fromLeBytes (window d 121 129)
  closeAuthority := keyOption (window d 129 165)

def TokenFields.lines (v : TokenFields) : List Line :=
  [.mint v.mint, .owner v.owner, .amount v.amount (ui v.amount), .delegate v.delegate,
    .state v.state, .isNative v.isNative, .delegatedAmount v.delegatedAmount,
    .closeAuthority v.closeAuthority]

/-- What `show_runtime` prints of an account. -/
def runtimeLines (rpc : RpcView) (key : Pubkey) (a : Account) : List Line :=
  [.address key, .lamports a.lamports, .runtimeOwner a.owner, .executable (rpc.executable key),
    .dataLen a.data.length]

variable {d field : Bytes} {i j n : Nat}

/-- A slice of the right width is the only thing that can be missing. -/
theorem readU64_eq (hj : j = i + 8) : readU64 d i j =
    if j ≤ d.length then .ok (U64.fromLeBytes (window d i j)) else .panicked := by
  unfold readU64
  rw [slice_eq (by omega)]
  split
  · next h =>
    rw [Outcome.bind_ok, tryIntoArray_window h (by omega)]
    rfl
  · rfl

theorem readPubkey_eq (hj : j = i + 32) (h : j ≤ d.length) :
    readPubkey d i j = .ok ⟨window d i j, (length_window h).trans (by omega)⟩ := by
  unfold readPubkey
  rw [slice_eq_ok (by omega) h, Outcome.bind_ok, Pubkey.tryFrom_eq_some]
  rfl

theorem readPubkey_ne_err (hj : j = i + 32) (e : ClientError) : readPubkey d i j ≠ .err e := by
  by_cases h : j ≤ d.length
  · rw [readPubkey_eq hj h]
    exact nofun
  · unfold readPubkey
    rw [slice_eq (by omega), if_neg h]
    exact nofun

/-- An absent key needs its tag alone. -/
theorem coptionPubkey_eq (d : Bytes) : coptionPubkey d =
    if 36 ≤ d.length ∨ 4 ≤ d.length ∧ U32.fromLeBytes (window d 0 4) = 0 then .ok (keyOption d)
    else .panicked := by
  unfold coptionPubkey keyOption
  rw [slice_eq (by omega)]
  by_cases htag : 4 ≤ d.length
  · rw [if_pos htag, Outcome.bind_ok, @tryIntoArray_window d 0 4 4 htag rfl]
    show (if U32.fromLeBytes (window d 0 4) = 0 then _ else _) = _
    by_cases hzero : U32.fromLeBytes (window d 0 4) = 0
    · rw [if_pos hzero, if_pos (Or.inr ⟨htag, hzero⟩), if_pos hzero]
      rfl
    · rw [if_neg hzero, if_neg hzero, slice_eq (by omega)]
      by_cases hkey : 36 ≤ d.length
      · rw [if_pos hkey, if_pos (Or.inl hkey), Outcome.bind_ok,
          Pubkey.tryFrom_eq_some (length_window hkey)]
        rfl
      · rw [if_neg hkey, if_neg (by tauto)]
        rfl
  · rw [if_neg htag, if_neg (by omega)]
    rfl

theorem coptionPubkey_of_le (h : 36 ≤ d.length) : coptionPubkey d = .ok (keyOption d) :=
  (coptionPubkey_eq d).trans (if_pos (Or.inl h))

theorem coptionU64_eq (h : field.length = 12) : coptionU64 field = .ok (wordOption field) := by
  unfold coptionU64 wordOption
  rw [slice_eq_ok (by omega) (by omega), Outcome.bind_ok,
    @tryIntoArray_window field 0 4 4 (by omega) rfl]
  show (if U32.fromLeBytes (window field 0 4) = 0 then _ else _) = _
  split
  · rfl
  · rw [slice_eq_ok (by omega) (by omega), Outcome.bind_ok,
      @tryIntoArray_window field 4 12 8 (by omega) rfl]
    rfl

theorem readOption_eq {α : Type} {decode : Bytes → Outcome ClientError α} {value : Bytes → α}
    (hdecode : ∀ field, field.length = n → decode field = .ok (value field)) (hj : j = i + n) :
    readOption decode d i j = if j ≤ d.length then .ok (value (window d i j)) else .panicked := by
  unfold readOption
  rw [slice_eq (by omega)]
  split
  · next h =>
    exact hdecode _ ((length_window h).trans (by omega))
  · rfl

theorem readKeyOption_eq (hj : j = i + 36) : readOption coptionPubkey d i j =
    if j ≤ d.length then .ok (keyOption (window d i j)) else .panicked :=
  readOption_eq (fun _ h => coptionPubkey_of_le h.ge) hj

theorem readWordOption_eq (hj : j = i + 12) : readOption coptionU64 d i j =
    if j ≤ d.length then .ok (wordOption (window d i j)) else .panicked :=
  readOption_eq (fun _ => coptionU64_eq) hj

section Show

variable {rpc : RpcView} {key : Pubkey} {a : Account} {label : String}

theorem showRuntime_eq (h : rpc.getAccount key = .ok a) :
    showRuntime rpc key = ⟨runtimeLines rpc key a, .ok a.data⟩ := by
  unfold showRuntime
  rw [h]
  rfl

/-- **`show_mint`** on data that is long enough. -/
theorem showMint_eq (h : rpc.getAccount key = .ok a) (hlen : 82 ≤ a.data.length) :
    showMint rpc key =
      ⟨.mintHeading :: runtimeLines rpc key a ++ .mintLayout :: (Mint.read a.data).lines,
        .ok ()⟩ := by
  have h1 := (@readKeyOption_eq a.data 0 36 rfl).trans (if_pos (by omega))
  have h2 := (@readU64_eq a.data 36 44 rfl).trans (if_pos (by omega))
  have h3 := (@index_eq ClientError a.data 44).trans (if_pos (by omega))
  have h4 := (@index_eq ClientError a.data 45).trans (if_pos (by omega))
  have h5 := (@readKeyOption_eq a.data 46 82 rfl).trans (if_pos hlen)
  unfold showMint
  rw [showRuntime_eq h]
  simp only [print_bind, Printed.bind_ok, h1, h2, h3, h4, h5, Outcome.bind_ok]
  rfl

/-- **`show_token_account`** on data that is long enough. -/
theorem showTokenAccount_eq (h : rpc.getAccount key = .ok a) (hlen : 165 ≤ a.data.length) :
    showTokenAccount rpc label key =
      ⟨.accountHeading label :: runtimeLines rpc key a ++
        .accountLayout :: (TokenFields.read a.data hlen).lines, .ok ()⟩ := by
  have h1 := @readPubkey_eq a.data 0 32 rfl (by omega)
  have h2 := @readPubkey_eq a.data 32 64 rfl (by omega)
  have h3 := (@readU64_eq a.data 64 72 rfl).trans (if_pos (by omega))
  have h4 := (@readKeyOption_eq a.data 72 108 rfl).trans (if_pos (by omega))
  have h5 := (@index_eq ClientError a.data 108).trans (if_pos (by omega))
  have h6 := (@readWordOption_eq a.data 109 121 rfl).trans (if_pos (by omega))
  have h7 := (@readU64_eq a.data 121 129 rfl).trans (if_pos (by omega))
  have h8 := (@readKeyOption_eq a.data 129 165 rfl).trans (if_pos hlen)
  unfold showTokenAccount
  rw [showRuntime_eq h]
  simp only [print_bind, Printed.bind_ok, h1, h2, h3, h4, h5, h6, h7, h8, Outcome.bind_ok,
    lift_ok_bind]
  rfl

end Show

end SplToken

end BootcampSolana
