import BootcampSolana.Lib.Base58
import BootcampSolana.Rust

/-!
# Addresses and instructions

An address is 32 bytes, and the type says so: a shorter or longer string of bytes is not a
`Pubkey` and has to go through `Pubkey.tryFrom`.

An instruction is what a client hands to a program: an address, a list of accounts with two
flags each, and a string of bytes.
-/

namespace BootcampSolana

structure Pubkey where
  bytes : Bytes
  length_bytes : bytes.length = 32
  deriving DecidableEq

namespace Pubkey

attribute [simp] length_bytes

theorem bytes_inj {p q : Pubkey} : p.bytes = q.bytes ↔ p = q := by
  constructor
  · intro h
    cases p; cases q
    simpa using h
  · intro h; rw [h]

/-- `Pubkey::try_from(&[u8])`. -/
def tryFrom (bs : Bytes) : Option Pubkey :=
  if h : bs.length = 32 then some ⟨bs, h⟩ else none

theorem tryFrom_eq_some {bs : Bytes} (h : bs.length = 32) : tryFrom bs = some ⟨bs, h⟩ :=
  dif_pos h

/-- `Pubkey::from_str`: base 58 text of at most 44 digits that decodes to exactly 32 bytes. -/
def fromStr (s : String) : Option Pubkey :=
  if s.toList.length ≤ 44 then (Base58.decode s.toList).bind tryFrom else none

end Pubkey

/--
`Pubkey::from_str(s).expect("bad pubkey")`, for a constant. The panic is ruled out by the
proof that the constant is an address.
-/
def pk (s : String) (h : (Pubkey.fromStr s).isSome = true) : Pubkey := (Pubkey.fromStr s).get h

/-- `system_program::ID`, thirty-two zero bytes. -/
def systemProgramId : Pubkey := ⟨List.replicate 32 0, by simp⟩

/-- The `SYSTEM` constant of the clients names the same address as `system_program::ID`. -/
theorem fromStr_system :
    Pubkey.fromStr "11111111111111111111111111111111" = some systemProgramId := by decide

/-! ## Instructions -/

structure AccountMeta where
  pubkey : Pubkey
  isSigner : Bool
  isWritable : Bool
  deriving DecidableEq

/-- `AccountMeta::new`: a writable account. -/
def AccountMeta.new (pubkey : Pubkey) (isSigner : Bool) : AccountMeta :=
  { pubkey, isSigner, isWritable := true }

def AccountMeta.newReadonly (pubkey : Pubkey) (isSigner : Bool) : AccountMeta :=
  { pubkey, isSigner, isWritable := false }

structure Instruction where
  programId : Pubkey
  accounts : List AccountMeta
  data : Bytes
  deriving DecidableEq

end BootcampSolana
