import BootcampSolana.Solana.Runtime

/-!
# The Anchor counter

`07-anchor-hello-solana/programs/hello_solana`. One counter for the whole program, at the
address derived from `["counter"]`.

The handlers see accounts that Anchor has checked against the `#[derive(Accounts)]` structs.
These checks are generated code, so they are the fields of `Anchor`. What the attributes
promise is stated apart, in `Anchor.Lawful`.
-/

namespace BootcampSolana.HelloSolana

def COUNTER_SEED : Bytes := ascii "counter"

def HELLO_WORLD_LAMPORTS : Nat := 1

def MAX_COUNT : UInt64 := 10

theorem isSome_id :
    (Pubkey.fromStr "9eEuFs67uVeMdjE4c8pPyzD7g6o5Qyi1UfZ5Gq8sdmUc").isSome = true := by decide

/-- `declare_id!`. -/
def ID : Pubkey := pk "9eEuFs67uVeMdjE4c8pPyzD7g6o5Qyi1UfZ5Gq8sdmUc" isSome_id

/-! ## State -/

structure Counter where
  count : UInt64
  authority : Pubkey
  deriving DecidableEq

/-- `InitSpace` of a `u64` and a `Pubkey`. -/
def Counter.INIT_SPACE : Nat := 8 + 32

/-- The fields in the order of the struct. -/
def Counter.serialize (c : Counter) : Bytes := U64.toLeBytes c.count ++ c.authority.bytes

/-- `try_deserialize`: the discriminator, then the fields. What follows them is not read. -/
def Counter.tryDeserialize (discriminator d : Bytes) : Option Counter :=
  if window d 0 8 = discriminator then
    if h : (window d 16 48).length = 32 then
      some { count := U64.fromLeBytes (window d 8 16), authority := ⟨window d 16 48, h⟩ }
    else none
  else none

/-! ## Errors -/

inductive ErrorCode where
  | unauthorized
  | counterOverflow
  deriving DecidableEq, Repr

/-- The checks of Anchor that the account structs ask for. -/
inductive AnchorError where
  | accountNotEnoughKeys
  | accountNotSigner
  | accountNotInitialized
  | accountDidNotDeserialize
  | constraintSeeds
  | constraintMut
  | invalidProgramId
  | tryingToInitPayerAsProgramAccount
  deriving DecidableEq, Repr

inductive HelloError where
  | anchor (e : AnchorError)
  | errorCode (e : ErrorCode)
  | program (e : ProgramError)
  deriving DecidableEq

/-! ## Accounts -/

/-- The checked accounts of `initialize`. -/
structure Initialize where
  payer : Pubkey
  counter : Pubkey

/-- The checked accounts of `increment`, the counter deserialized. -/
structure Increment where
  counter : Pubkey
  state : Counter
  authority : Pubkey

/-- What is generated from the account structs. -/
structure Anchor where
  derivation : Derivation
  /-- `Counter::DISCRIMINATOR`. -/
  discriminator : Bytes
  length_discriminator : discriminator.length = 8
  /-- `Initialize::try_accounts`, which creates the counter on the way. -/
  tryInitialize : List AccountInfo → Ledger → Except HelloError (Initialize × Ledger)
  /-- `Increment::try_accounts`. -/
  tryIncrement : List AccountInfo → Ledger → Except HelloError Increment

/-- The accounts of an `increment` of `pda` that `signer` has signed. -/
def wellFormed (pda signer : Pubkey) : List AccountInfo → Bool
  | counter :: authority :: _ =>
    counter.key == pda && counter.isWritable && authority.key == signer && authority.isSigner
  | _ => false

/-- The counter in the account at `pda`: `Account<Counter>` looks at the owner first. -/
def Anchor.counterOf (A : Anchor) (pda : Pubkey) (L : Ledger) : Option Counter :=
  if (L pda).owner = ID then Counter.tryDeserialize A.discriminator (L pda).data else none

/-- What the attributes promise. -/
structure Anchor.Lawful (A : Anchor) (pda : Pubkey) : Prop where
  /-- `seeds = [COUNTER_SEED], bump` is about this address. -/
  seeds : ∃ bump, findProgramAddress A.derivation [COUNTER_SEED] ID = some (pda, bump)
  /-- `Signer`, `seeds`, `init` and `space`. -/
  tryInitialize_ok : ∀ {accounts L ctx L'}, A.tryInitialize accounts L = .ok (ctx, L') →
    (∃ payer ∈ accounts.head?, payer.key = ctx.payer ∧ payer.isSigner = true) ∧
    ctx.counter = pda ∧
    (L pda).owner ≠ ID ∧
    (L' pda).owner = ID ∧
    (L' pda).data = List.replicate (8 + Counter.INIT_SPACE) 0
  /-- `mut`, `seeds`, `Account<Counter>` and `Signer`. -/
  tryIncrement_ok : ∀ {accounts L ctx}, A.tryIncrement accounts L = .ok ctx ↔
    wellFormed pda ctx.authority accounts = true ∧
    A.counterOf pda L = some ctx.state ∧
    ctx.counter = pda

/--
What `exit` leaves of an `Account<Counter>`: the discriminator and the fields. It writes only
to accounts of the program, and by then the counter is one.
-/
def Anchor.exit (A : Anchor) (counter : Pubkey) (state : Counter) (L : Ledger) : Ledger :=
  Function.update L counter
    { L counter with
      data := copied (L counter).data 0 (8 + Counter.INIT_SPACE)
        (A.discriminator ++ state.serialize) }

/-! ## Handlers -/

/-- The state of the counter, and the ledger after the transfer. -/
def handleInitialize (ctx : Initialize) (L : Ledger) : Outcome HelloError (Counter × Ledger) :=
  let state : Counter := { count := 0, authority := ctx.payer }
  match transferLamports ctx.payer ctx.counter HELLO_WORLD_LAMPORTS L with
  | .ok L' => .ok (state, L')
  | .error e => .err (.program e)

/-- `count += 1` panics on overflow: the release profile has `overflow-checks`. -/
def handleIncrement (ctx : Increment) : Outcome HelloError Counter :=
  if ctx.state.authority = ctx.authority then
    if ctx.state.count < MAX_COUNT then
      match U64.checkedAdd ctx.state.count 1 with
      | some count => .ok { ctx.state with count }
      | none => .panicked
    else .err (.errorCode .counterOverflow)
  else .err (.errorCode .unauthorized)

/-! ## Instructions -/

/--
An instruction for the program, with whatever accounts its sender has chosen. Neither takes
arguments, so the discriminator in front of the data is all there is to it.
-/
inductive Call where
  | initializeCounter (accounts : List AccountMeta)
  | increment (accounts : List AccountMeta)

abbrev Answer := Outcome HelloError Unit

/-- One instruction. One that fails is reverted. -/
def step (A : Anchor) (L : Ledger) : Call → Answer × Ledger
  | .initializeCounter accounts =>
    match A.tryInitialize (accounts.map AccountMeta.toInfo) L with
    | .error e => (.err e, L)
    | .ok (ctx, L₁) =>
      match handleInitialize ctx L₁ with
      | .ok (state, L₂) => (.ok (), A.exit ctx.counter state L₂)
      | .err e => (.err e, L)
      | .panicked => (.panicked, L)
  | .increment accounts =>
    match A.tryIncrement (accounts.map AccountMeta.toInfo) L with
    | .error e => (.err e, L)
    | .ok ctx =>
      match handleIncrement ctx with
      | .ok state => (.ok (), A.exit ctx.counter state L)
      | .err e => (.err e, L)
      | .panicked => (.panicked, L)

/-! ## The layout -/

variable {A : Anchor} {c : Counter}

/-- A counter account that `exit` has written. -/
def Anchor.bytes (A : Anchor) (c : Counter) : Bytes := A.discriminator ++ c.serialize

@[simp] theorem length_bytes : (A.bytes c).length = 8 + Counter.INIT_SPACE := by
  simp [Anchor.bytes, Counter.serialize, Counter.INIT_SPACE, A.length_discriminator]

/-- **Reading inverts writing.** -/
theorem tryDeserialize_bytes : Counter.tryDeserialize A.discriminator (A.bytes c) = some c := by
  have hd := A.length_discriminator
  have h0 : window (A.bytes c) 0 8 = A.discriminator := by
    show List.take 8 (A.discriminator ++ c.serialize) = A.discriminator
    rw [← hd, List.take_left]
  have hrest : List.drop 8 (A.bytes c) = U64.toLeBytes c.count ++ c.authority.bytes := by
    show List.drop 8 (A.discriminator ++ c.serialize) = c.serialize
    rw [← hd, List.drop_left]
  have h1 : window (A.bytes c) 8 16 = U64.toLeBytes c.count := by
    rw [window, hrest]
    exact List.take_left' (U64.length_toLeBytes c.count)
  have h2 : window (A.bytes c) 16 48 = c.authority.bytes := by
    rw [window, show 16 = 8 + 8 from rfl, ← List.drop_drop, hrest,
      List.drop_left' (U64.length_toLeBytes c.count)]
    exact List.take_of_length_le (Nat.le_of_eq c.authority.length_bytes)
  have hlen : (window (A.bytes c) 16 48).length = 32 := by rw [h2, c.authority.length_bytes]
  have hkey : (⟨window (A.bytes c) 16 48, hlen⟩ : Pubkey) = c.authority := Pubkey.bytes_inj.mp h2
  rw [Counter.tryDeserialize, if_pos h0, dif_pos hlen, h1, U64.fromLeBytes_toLeBytes, hkey]

/-- An account without data is not a counter. -/
theorem tryDeserialize_nil : Counter.tryDeserialize A.discriminator [] = none := by
  have hne : ¬ window ([] : Bytes) 0 8 = A.discriminator := by
    intro h
    have hlen := congrArg List.length h
    rw [A.length_discriminator] at hlen
    cases hlen
  rw [Counter.tryDeserialize, if_neg hne]

end BootcampSolana.HelloSolana
