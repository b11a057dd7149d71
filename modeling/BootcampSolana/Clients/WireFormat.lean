import BootcampSolana.Clients.Instructions
import BootcampSolana.Lib.Codec
import BootcampSolana.Solana.System

/-!
# The wire format

The encodings as the READMEs of the exercises give them, one grammar a target program, and
the encoders of the three clients against them.

A grammar is a `Codec`, so it comes with its parser, and that the parser inverts it is part of
what it is. What is left to check is that each encoder writes what its grammar writes
(`Builds.data_eq`).
-/

namespace BootcampSolana.Wire

open Codec

/-! ## Fields -/

def u16 : Codec UInt8 UInt16 :=
  fixed (@LittleEndian.equiv UInt16 2 UInt16.toNat UInt16.ofNat (fun n => n.toNat_lt)
    (fun _ => UInt16.ofNat_toNat) fun _ h => UInt16.toNat_ofNat_of_lt' h)

def u32 : Codec UInt8 UInt32 :=
  fixed (@LittleEndian.equiv UInt32 4 UInt32.toNat UInt32.ofNat (fun n => n.toNat_lt)
    (fun _ => UInt32.ofNat_toNat) fun _ h => UInt32.toNat_ofNat_of_lt' h)

def u64 : Codec UInt8 UInt64 :=
  fixed (@LittleEndian.equiv UInt64 8 UInt64.toNat UInt64.ofNat (fun n => n.toNat_lt)
    (fun _ => UInt64.ofNat_toNat) fun _ h => UInt64.toNat_ofNat_of_lt' h)

def pubkey : Codec UInt8 Pubkey :=
  fixed
    { toFun := fun p => ⟨p.bytes, p.length_bytes⟩
      invFun := fun s => ⟨s.1, s.2⟩
      left_inv := fun _ => rfl
      right_inv := fun _ => rfl }

/-- `COption<Pubkey>` is `0` for none, or `1` followed by 32 bytes. -/
def coption : Codec UInt8 (Option Pubkey) := opt 0 1 (by decide) pubkey

/-! ## Grammars -/

/-- `CreateAccount = 0u32 ++ lamports ++ space ++ owner`, `Transfer = 2u32 ++ lamports`. -/
inductive SystemOp where
  | createAccount (lamports space : UInt64) (owner : Pubkey)
  | transfer (lamports : UInt64)
  deriving DecidableEq

def SystemOp.equiv : (UInt64 × UInt64 × Pubkey) ⊕ UInt64 ≃ SystemOp where
  toFun
    | .inl p => .createAccount p.1 p.2.1 p.2.2
    | .inr n => .transfer n
  invFun
    | .createAccount lamports space owner => .inl (lamports, space, owner)
    | .transfer lamports => .inr lamports
  left_inv := by rintro (p | n) <;> rfl
  right_inv := by rintro (_ | _) <;> rfl

def system : Codec UInt8 SystemOp :=
  (alt (prefixed [0, 0, 0, 0] (seq u64 (seq u64 pubkey))) (prefixed [2, 0, 0, 0] u64)
    (apart_prefixed _ _ (by decide) (by decide))).map SystemOp.equiv

/--
SPL Token and Token-2022, a superset:
`InitializeMint2 = 20 ++ decimals ++ authority ++ COption`, `MintTo = 7 ++ amount`,
`TransferChecked = 12 ++ amount ++ decimals`,
`InitializeTransferFeeConfig = 26 ++ 0 ++ COption ++ COption ++ basis_points ++ max_fee`.
-/
inductive TokenOp where
  | initializeMint2 (decimals : UInt8) (authority : Pubkey) (freeze : Option Pubkey)
  | mintTo (amount : UInt64)
  | transferChecked (amount : UInt64) (decimals : UInt8)
  | initializeTransferFeeConfig (feeAuthority withdrawAuthority : Option Pubkey)
    (basisPoints : UInt16) (maximumFee : UInt64)
  deriving DecidableEq

def TokenOp.equiv : (UInt8 × Pubkey × Option Pubkey) ⊕ UInt64 ⊕ (UInt64 × UInt8) ⊕
    (Option Pubkey × Option Pubkey × UInt16 × UInt64) ≃ TokenOp where
  toFun
    | .inl p => .initializeMint2 p.1 p.2.1 p.2.2
    | .inr (.inl n) => .mintTo n
    | .inr (.inr (.inl p)) => .transferChecked p.1 p.2
    | .inr (.inr (.inr p)) => .initializeTransferFeeConfig p.1 p.2.1 p.2.2.1 p.2.2.2
  invFun
    | .initializeMint2 decimals authority freeze => .inl (decimals, authority, freeze)
    | .mintTo amount => .inr (.inl amount)
    | .transferChecked amount decimals => .inr (.inr (.inl (amount, decimals)))
    | .initializeTransferFeeConfig fee withdraw points maximum =>
      .inr (.inr (.inr (fee, withdraw, points, maximum)))
  left_inv := by rintro (p | n | p | p) <;> rfl
  right_inv := by rintro (_ | _ | _ | _) <;> rfl

def token : Codec UInt8 TokenOp :=
  (alt (prefixed [20] (seq letter (seq pubkey coption)))
    (alt (prefixed [7] u64)
      (alt (prefixed [12] (seq u64 letter))
        (prefixed [26, 0] (seq coption (seq coption (seq u16 u64))))
        (apart_prefixed _ _ (by decide) (by decide)))
      (.alt (apart_prefixed _ _ (by decide) (by decide))
        (apart_prefixed _ _ (by decide) (by decide))))
    (.alt (apart_prefixed _ _ (by decide) (by decide))
      (.alt (apart_prefixed _ _ (by decide) (by decide))
        (apart_prefixed _ _ (by decide) (by decide))))).map TokenOp.equiv

/-- `SetComputeUnitLimit = 2 ++ units:u32`, `SetComputeUnitPrice = 3 ++ micro_lamports:u64`. -/
inductive ComputeBudgetOp where
  | setComputeUnitLimit (units : UInt32)
  | setComputeUnitPrice (microLamports : UInt64)
  deriving DecidableEq

def ComputeBudgetOp.equiv : UInt32 ⊕ UInt64 ≃ ComputeBudgetOp where
  toFun
    | .inl n => .setComputeUnitLimit n
    | .inr n => .setComputeUnitPrice n
  invFun
    | .setComputeUnitLimit units => .inl units
    | .setComputeUnitPrice microLamports => .inr microLamports
  left_inv := by rintro (n | n) <;> rfl
  right_inv := by rintro (_ | _) <;> rfl

def computeBudget : Codec UInt8 ComputeBudgetOp :=
  (alt (prefixed [2] u32) (prefixed [3] u64)
    (apart_prefixed _ _ (by decide) (by decide))).map ComputeBudgetOp.equiv

/-! ## The encoders -/

/-- Which program an instruction is for. The two token programs share their encoding. -/
inductive Target where
  | system
  | token
  | computeBudget
  deriving DecidableEq

/-- The operations of a target. -/
def Target.Op : Target → Type
  | .system => SystemOp
  | .token => TokenOp
  | .computeBudget => ComputeBudgetOp

def Target.grammar : (t : Target) → Codec UInt8 t.Op
  | .system => Wire.system
  | .token => Wire.token
  | .computeBudget => Wire.computeBudget

/-- The instruction is what one of the encoders builds for the operation. -/
inductive Builds : (t : Target) → Instruction → t.Op → Prop where
  | sysCreateAccount (source new : Pubkey) (lamports space : UInt64) (owner : Pubkey) :
    Builds .system (FourPrograms.sysCreateAccount source new lamports space owner)
      (.createAccount lamports space owner)
  | sysTransfer (source target : Pubkey) (lamports : UInt64) :
    Builds .system (FourPrograms.sysTransfer source target lamports) (.transfer lamports)
  | initializeMint2 (program mint authority : Pubkey) (decimals : UInt8) :
    Builds .token (FourPrograms.initializeMint2 program mint authority decimals)
      (.initializeMint2 decimals authority none)
  | mintTo (program mint dest authority : Pubkey) (amount : UInt64) :
    Builds .token (FourPrograms.mintTo program mint dest authority amount) (.mintTo amount)
  | transferChecked (program src mint dst authority : Pubkey) (amount : UInt64)
    (decimals : UInt8) :
    Builds .token (FourPrograms.transferChecked program src mint dst authority amount decimals)
      (.transferChecked amount decimals)
  | initializeTransferFeeConfig (mint : Pubkey) (feeAuthority withdrawAuthority : Option Pubkey)
    (basisPoints : UInt16) (maximumFee : UInt64) :
    Builds .token
      (FourPrograms.initializeTransferFeeConfig mint feeAuthority withdrawAuthority basisPoints
        maximumFee)
      (.initializeTransferFeeConfig feeAuthority withdrawAuthority basisPoints maximumFee)
  | splCreateAccount (source new : Pubkey) (lamports space : UInt64) (owner : Pubkey) :
    Builds .system (SplToken.sysCreateAccount source new lamports space owner)
      (.createAccount lamports space owner)
  | splInitializeMint2 (mint authority : Pubkey) (freeze : Option Pubkey) :
    Builds .token (SplToken.initializeMint2 mint authority freeze)
      (.initializeMint2 SplToken.DECIMALS authority freeze)
  | splMintTo (mint dest authority : Pubkey) (amount : UInt64) :
    Builds .token (SplToken.mintTo mint dest authority amount) (.mintTo amount)
  | splTransferChecked (src mint dst authority : Pubkey) (amount : UInt64) :
    Builds .token (SplToken.transferChecked src mint dst authority amount)
      (.transferChecked amount SplToken.DECIMALS)
  | lifecycleTransfer (source target : Pubkey) (lamports : UInt64) :
    Builds .system (TransactionLifecycle.sysTransfer source target lamports) (.transfer lamports)
  | setCuLimit (units : UInt32) :
    Builds .computeBudget (TransactionLifecycle.setCuLimit units) (.setComputeUnitLimit units)
  | setCuPrice (microLamports : UInt64) :
    Builds .computeBudget (TransactionLifecycle.setCuPrice microLamports)
      (.setComputeUnitPrice microLamports)

/-- Both spellings of an optional key are the grammar's. -/
theorem packOptionPubkey_eq (buf : Bytes) (v : Option Pubkey) :
    FourPrograms.packOptionPubkey buf v = buf ++ coption.encode v := by
  cases v with
  | none => rfl
  | some p => exact List.append_assoc buf [1] p.bytes

theorem coptionIx_eq (buf : Bytes) (v : Option Pubkey) :
    SplToken.coptionIx buf v = buf ++ coption.encode v := packOptionPubkey_eq buf v

/-- **Every encoder writes what its grammar writes.** -/
theorem Builds.data_eq {t : Target} {ix : Instruction} {op : t.Op} (h : Builds t ix op) :
    ix.data = t.grammar.encode op := by
  -- the encoders append from the left, the grammars from the right
  cases h with
  | sysCreateAccount source new lamports space owner =>
    unfold FourPrograms.sysCreateAccount
    rw [List.append_assoc, List.append_assoc]
    rfl
  | sysTransfer => rfl
  | initializeMint2 program mint authority decimals =>
    unfold FourPrograms.initializeMint2
    rw [packOptionPubkey_eq, List.append_assoc, List.append_assoc]
    rfl
  | mintTo => rfl
  | transferChecked program src mint dst authority amount decimals =>
    unfold FourPrograms.transferChecked
    rw [List.append_assoc]
    rfl
  | initializeTransferFeeConfig mint fee withdraw points maximum =>
    unfold FourPrograms.initializeTransferFeeConfig
    rw [packOptionPubkey_eq, packOptionPubkey_eq, List.append_assoc, List.append_assoc,
      List.append_assoc]
    rfl
  | splCreateAccount source new lamports space owner =>
    unfold SplToken.sysCreateAccount
    rw [List.append_assoc, List.append_assoc]
    rfl
  | splInitializeMint2 mint authority freeze =>
    unfold SplToken.initializeMint2
    rw [coptionIx_eq, List.append_assoc]
    rfl
  | splMintTo => rfl
  | splTransferChecked src mint dst authority amount =>
    unfold SplToken.transferChecked
    rw [List.append_assoc]
    rfl
  | lifecycleTransfer => rfl
  | setCuLimit => rfl
  | setCuPrice => rfl

/--
**The wire format is unambiguous.** For each target there is a parser that reads whole strings
and nothing but what the grammar writes. It reads back the operation and the arguments of every
instruction the clients build, so two instructions for one target that carry the same bytes ask
for the same operation with the same arguments.
-/
theorem wire_format :
    (∀ t ix op, Builds t ix op → t.grammar.decode ix.data = some op) ∧
    (∀ (t : Target) bs op, t.grammar.decode bs = some op ↔ bs = t.grammar.encode op) ∧
    (∀ t ix ix' op op', Builds t ix op → Builds t ix' op' → ix.data = ix'.data → op = op') := by
  refine ⟨?_, ?_, ?_⟩
  · intro t ix op h
    exact decode_eq_some.mpr h.data_eq
  · intro t bs op
    exact decode_eq_some
  · intro t ix ix' op op' h h' hdata
    rw [h.data_eq, h'.data_eq] at hdata
    exact t.grammar.encode_injective hdata

/-- One authority there and one not, the case in which the fields after them move. -/
theorem wire_format_feeConfig : Wire.token.decode
    (FourPrograms.initializeTransferFeeConfig bob none (some alice) 100 5000).data =
      some (.initializeTransferFeeConfig none (some alice) 100 5000) :=
  wire_format.1 .token _ _ (.initializeTransferFeeConfig bob none (some alice) 100 5000)

end BootcampSolana.Wire
