import BootcampSolana.Solana.Pda

/-!
# Instructions by hand

What the clients encode for the programs they call, each client for itself:

* `03-four-programs/src/main.rs` for the System Program, SPL Token, Token-2022 and the Associated
  Token Account program
* `06-spl-token/src/main.rs` once more, for a mint with six decimals: the token program and the
  decimals are fixed
* `04-transaction-lifecycle/src/main.rs` for a transfer and the compute budget
-/

/-! ## The four programs -/

namespace BootcampSolana.FourPrograms

def SYSTEM : String := "11111111111111111111111111111111"

def TOKEN : String := "TokenkegQfeZyiNwAJbNbGKPFXCWuBvf9Ss623VQ5DA"

def TOKEN_2022 : String := "TokenzQdBNbLqP5VEhdkAS6EPFLC1PHnBqCXEpPxuEb"

def ATA : String := "ATokenGPvbdGVxr1b2hvZbsiqW5xWH25efTNsLJA8knL"

theorem isSome_system : (Pubkey.fromStr SYSTEM).isSome = true := by decide

theorem isSome_token : (Pubkey.fromStr TOKEN).isSome = true := by decide

theorem isSome_token2022 : (Pubkey.fromStr TOKEN_2022).isSome = true := by decide

theorem isSome_ata : (Pubkey.fromStr ATA).isSome = true := by decide

/-! ### System Program -/

def sysCreateAccount (source new : Pubkey) (lamports space : UInt64) (owner : Pubkey) :
    Instruction where
  programId := pk SYSTEM isSome_system
  accounts := [AccountMeta.new source true, AccountMeta.new new true]
  data := U32.toLeBytes 0 ++ U64.toLeBytes lamports ++ U64.toLeBytes space ++ owner.bytes

def sysTransfer (source target : Pubkey) (lamports : UInt64) : Instruction where
  programId := pk SYSTEM isSome_system
  accounts := [AccountMeta.new source true, AccountMeta.new target false]
  data := U32.toLeBytes 2 ++ U64.toLeBytes lamports

/-! ### SPL Token and Token-2022 -/

def packOptionPubkey (buf : Bytes) (v : Option Pubkey) : Bytes :=
  match v with
  | some p => buf ++ [1] ++ p.bytes
  | none => buf ++ [0]

/-- Without a freeze authority. -/
def initializeMint2 (program mint authority : Pubkey) (decimals : UInt8) : Instruction where
  programId := program
  accounts := [AccountMeta.new mint false]
  data := packOptionPubkey ([20] ++ [decimals] ++ authority.bytes) none

def mintTo (program mint dest authority : Pubkey) (amount : UInt64) : Instruction where
  programId := program
  accounts :=
    [AccountMeta.new mint false, AccountMeta.new dest false, AccountMeta.newReadonly authority true]
  data := [7] ++ U64.toLeBytes amount

def transferChecked (program src mint dst authority : Pubkey) (amount : UInt64) (decimals : UInt8) :
    Instruction where
  programId := program
  accounts :=
    [AccountMeta.new src false, AccountMeta.newReadonly mint false, AccountMeta.new dst false,
      AccountMeta.newReadonly authority true]
  data := [12] ++ U64.toLeBytes amount ++ [decimals]

/-- Token-2022 only. -/
def initializeTransferFeeConfig (mint : Pubkey) (feeAuthority withdrawAuthority : Option Pubkey)
    (basisPoints : UInt16) (maximumFee : UInt64) : Instruction where
  programId := pk TOKEN_2022 isSome_token2022
  accounts := [AccountMeta.new mint false]
  data :=
    packOptionPubkey (packOptionPubkey [26, 0] feeAuthority) withdrawAuthority
      ++ U16.toLeBytes basisPoints ++ U64.toLeBytes maximumFee

/-! ### Associated Token Account -/

/-- `none` is the panic of a search without a result. -/
def deriveAta (D : Derivation) (wallet mint tokenProgram : Pubkey) : Option (Pubkey × UInt8) :=
  findProgramAddress D [wallet.bytes, tokenProgram.bytes, mint.bytes] (pk ATA isSome_ata)

/-- What `create_ata` builds once it has the address. -/
def ataInstruction (funder ata wallet mint tokenProgram : Pubkey) : Instruction where
  programId := pk ATA isSome_ata
  accounts :=
    [AccountMeta.new funder true, AccountMeta.new ata false,
      AccountMeta.newReadonly wallet false, AccountMeta.newReadonly mint false,
      AccountMeta.newReadonly (pk SYSTEM isSome_system) false,
      AccountMeta.newReadonly tokenProgram false]
  data := [0]

def createAta {ε : Type} (D : Derivation) (funder wallet mint tokenProgram : Pubkey) :
    Outcome ε Instruction := do
  let derived ← .unwrap (deriveAta D wallet mint tokenProgram)
  pure (ataInstruction funder derived.1 wallet mint tokenProgram)

end BootcampSolana.FourPrograms

/-! ## SPL Token -/

namespace BootcampSolana.SplToken

def SYSTEM : String := "11111111111111111111111111111111"

def TOKEN : String := "TokenkegQfeZyiNwAJbNbGKPFXCWuBvf9Ss623VQ5DA"

def ATA : String := "ATokenGPvbdGVxr1b2hvZbsiqW5xWH25efTNsLJA8knL"

def DECIMALS : UInt8 := 6

theorem isSome_system : (Pubkey.fromStr SYSTEM).isSome = true := by decide

theorem isSome_token : (Pubkey.fromStr TOKEN).isSome = true := by decide

theorem isSome_ata : (Pubkey.fromStr ATA).isSome = true := by decide

def coptionIx (buf : Bytes) (v : Option Pubkey) : Bytes :=
  match v with
  | some p => buf ++ [1] ++ p.bytes
  | none => buf ++ [0]

def sysCreateAccount (source new : Pubkey) (lamports space : UInt64) (owner : Pubkey) :
    Instruction where
  programId := pk SYSTEM isSome_system
  accounts := [AccountMeta.new source true, AccountMeta.new new true]
  data := U32.toLeBytes 0 ++ U64.toLeBytes lamports ++ U64.toLeBytes space ++ owner.bytes

def initializeMint2 (mint authority : Pubkey) (freeze : Option Pubkey) : Instruction where
  programId := pk TOKEN isSome_token
  accounts := [AccountMeta.new mint false]
  data := coptionIx ([20, DECIMALS] ++ authority.bytes) freeze

def mintTo (mint dest authority : Pubkey) (amount : UInt64) : Instruction where
  programId := pk TOKEN isSome_token
  accounts :=
    [AccountMeta.new mint false, AccountMeta.new dest false, AccountMeta.newReadonly authority true]
  data := [7] ++ U64.toLeBytes amount

def transferChecked (src mint dst authority : Pubkey) (amount : UInt64) : Instruction where
  programId := pk TOKEN isSome_token
  accounts :=
    [AccountMeta.new src false, AccountMeta.newReadonly mint false, AccountMeta.new dst false,
      AccountMeta.newReadonly authority true]
  data := [12] ++ U64.toLeBytes amount ++ [DECIMALS]

/-- `none` is the panic of a search without a result. -/
def deriveAta (D : Derivation) (wallet mint : Pubkey) : Option Pubkey :=
  (findProgramAddress D [wallet.bytes, (pk TOKEN isSome_token).bytes, mint.bytes]
    (pk ATA isSome_ata)).map Prod.fst

end BootcampSolana.SplToken

/-! ## The life of a transaction -/

namespace BootcampSolana.TransactionLifecycle

def SYSTEM : String := "11111111111111111111111111111111"

def COMPUTE_BUDGET : String := "ComputeBudget111111111111111111111111111111"

theorem isSome_system : (Pubkey.fromStr SYSTEM).isSome = true := by decide

theorem isSome_computeBudget : (Pubkey.fromStr COMPUTE_BUDGET).isSome = true := by decide

def sysTransfer (source target : Pubkey) (lamports : UInt64) : Instruction where
  programId := pk SYSTEM isSome_system
  accounts := [AccountMeta.new source true, AccountMeta.new target false]
  data := U32.toLeBytes 2 ++ U64.toLeBytes lamports

/-- ComputeBudget instruction 2: `SetComputeUnitLimit(u32)`. -/
def setCuLimit (units : UInt32) : Instruction where
  programId := pk COMPUTE_BUDGET isSome_computeBudget
  accounts := []
  data := [2] ++ U32.toLeBytes units

/-- ComputeBudget instruction 3: `SetComputeUnitPrice(u64)`, in micro-lamports per unit. -/
def setCuPrice (microLamports : UInt64) : Instruction where
  programId := pk COMPUTE_BUDGET isSome_computeBudget
  accounts := []
  data := [3] ++ U64.toLeBytes microLamports

end BootcampSolana.TransactionLifecycle
