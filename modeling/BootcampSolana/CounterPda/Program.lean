import BootcampSolana.Solana.Runtime

/-!
# The counter program

`05-counter-pda/program/src/lib.rs`. One counter per user, in the account at the address
derived from `["counter", user]`.

The two instructions read their accounts from a list that the caller chose. What ties a
handle to a user is checked by the program, in the order the source checks it: that order
decides which error a caller sees.
-/

namespace BootcampSolana.CounterPda

/-- `count: u64 | authority: [u8; 32] | bump: u8` -/
def counterLen : Nat := 8 + 32 + 1

def seedPrefix : Bytes := ascii "counter"

/-- The part of `initialize` that holds the buffer of the account it has just created. -/
def writeCounter (user counter : AccountInfo) (bump : UInt8) : Prog Unit := do
  counter.copyFromSlice 0 8 (U64.toLeBytes 0)
  counter.copyFromSlice 8 40 user.key.bytes
  counter.setByte 40 bump

/-- The `create_account` that `initialize` issues, with the PDA's seeds as its signature. -/
def createCounter (programId : Pubkey) (user counter system : AccountInfo) (bump : UInt8)
    (lamports : Nat) : Invocation where
  caller := programId
  instruction :=
    { source := user.key
      target := counter.key
      lamports := lamports
      space := counterLen
      owner := programId }
  accountInfos := [user, counter, system]
  signersSeeds := [[seedPrefix, user.key.bytes, [bump]]]

/-- The source's `initialize`: create the PDA, write a zero count, its authority and its bump. -/
def initializeCounter (R : Runtime) (programId : Pubkey) (accounts : List AccountInfo) : Prog Unit := do
  let (user, iter) ← nextAccountInfo accounts
  let (counter, iter) ← nextAccountInfo iter
  let (system, _) ← nextAccountInfo iter
  Prog.ensure user.isSigner .missingRequiredSignature
  Prog.ensure (system.key == systemProgramId) .incorrectProgramId
  let (expected, bump) ← Prog.lift
    (.unwrap (findProgramAddress R.derivation [seedPrefix, user.key.bytes] programId))
  Prog.ensure (expected == counter.key) .invalidSeeds
  let empty ← counter.dataIsEmpty
  Prog.ensure empty .accountAlreadyInitialized
  let rent ← Prog.lift (match R.rent with | .ok rent => .ok rent | .error e => .err e)
  let lamports := rent.minimumBalance counterLen
  invokeSigned R (createCounter programId user counter system bump lamports)
  counter.tryBorrowMutData (writeCounter user counter bump)

/-- The part of `increment` that holds the counter's buffer. -/
def incrementData (R : Runtime) (programId : Pubkey) (user counter : AccountInfo) (amount : UInt64) :
    Prog Unit := do
  let d ← counter.data
  let authority ← Prog.lift (slice d 8 40)
  let storedAuthority ← Prog.lift (.okOr (Pubkey.tryFrom authority) .invalidAccountData)
  let bump ← Prog.lift (index d 40)
  Prog.ensure (storedAuthority == user.key) .invalidAccountOwner
  let expected ← Prog.lift
    (match createProgramAddress R.derivation [seedPrefix, user.key.bytes, [bump]] programId with
     | .ok a => .ok a
     | .error e => .err (.ofPubkeyError e))
  Prog.ensure (expected == counter.key) .invalidSeeds
  let d ← counter.data
  let word ← Prog.lift (slice d 0 8)
  let word ← Prog.lift (.unwrap (tryIntoArray 8 word))
  let count ← Prog.lift (.okOr (U64.checkedAdd (U64.fromLeBytes word) amount) .arithmeticOverflow)
  counter.copyFromSlice 0 8 (U64.toLeBytes count)

/-- Add `amount`, the source's `by`, to the caller's counter. -/
def increment (R : Runtime) (programId : Pubkey) (accounts : List AccountInfo) (amount : UInt64) :
    Prog Unit := do
  let (user, iter) ← nextAccountInfo accounts
  let (counter, _) ← nextAccountInfo iter
  Prog.ensure user.isSigner .missingRequiredSignature
  let owner ← counter.owner
  Prog.ensure (owner == programId) .illegalOwner
  let len ← counter.dataLen
  Prog.ensure (len == counterLen) .invalidAccountData
  counter.tryBorrowMutData (incrementData R programId user counter amount)

def processInstruction (R : Runtime) (programId : Pubkey) (accounts : List AccountInfo)
    (data : Bytes) : Prog Unit :=
  match data with
  | [] => Prog.fail .invalidInstructionData
  | tag :: rest =>
    if tag = 0 then initializeCounter R programId accounts
    else if tag = 1 then do
      let word ← Prog.lift (.okOr (getTo rest 8) .invalidInstructionData)
      let word ← Prog.lift (.unwrap (tryIntoArray 8 word))
      increment R programId accounts (U64.fromLeBytes word)
    else Prog.fail .invalidInstructionData

/-! ## The instruction data -/

/-- What a string of instruction data asks for. -/
inductive CounterIx where
  | initializeCounter
  | increment (amount : UInt64)
  deriving DecidableEq

/-- A tag byte, and for `increment` eight more bytes. What follows them is not read. -/
def CounterIx.decode (data : Bytes) : Option CounterIx :=
  if data.head? = some 0 then some .initializeCounter
  else if data.head? = some 1 ∧ 9 ≤ data.length then
    some (.increment (U64.fromLeBytes (window data 1 9)))
  else none

variable {R : Runtime} {programId : Pubkey} {accounts : List AccountInfo} {data : Bytes}

/-- **The dispatch**: one of the two instructions on the same accounts, or an error. -/
theorem processInstruction_eq : processInstruction R programId accounts data =
    match CounterIx.decode data with
    | some .initializeCounter => initializeCounter R programId accounts
    | some (.increment amount) => increment R programId accounts amount
    | none => Prog.fail .invalidInstructionData := by
  cases data with
  | nil => rfl
  | cons tag rest =>
    simp only [processInstruction, CounterIx.decode, List.head?_cons, Option.some.injEq,
      List.length_cons]
    by_cases h0 : tag = 0
    · simp only [if_pos h0]
    · by_cases h1 : tag = 1
      · subst h1
        simp only [if_neg h0, if_true, true_and]
        by_cases hlen : 8 ≤ rest.length
        · have hget : getTo rest 8 = some (rest.take 8) := if_pos hlen
          have harr : tryIntoArray 8 (rest.take 8) = some (rest.take 8) := if_pos (by simp [hlen])
          have hw : window (1 :: rest) 1 9 = rest.take 8 := rfl
          funext m
          simp only [if_pos (show 9 ≤ rest.length + 1 by omega), hw, hget, harr, Prog.bind_apply,
            Prog.lift_apply, Outcome.okOr, Outcome.unwrap]
        · have hget : getTo rest 8 = none := if_neg hlen
          funext m
          simp only [if_neg (show ¬ 9 ≤ rest.length + 1 by omega), hget, Prog.bind_apply,
            Prog.lift_apply, Prog.fail_apply, Outcome.okOr]
      · simp only [if_neg h0, h1, false_and, if_false]

end BootcampSolana.CounterPda
