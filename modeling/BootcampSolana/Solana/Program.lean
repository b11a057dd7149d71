import Mathlib.Logic.Function.Basic
import BootcampSolana.Solana.Pda

/-!
# What a program runs on

A program receives a list of account handles and works on the accounts behind them. Two
handles with the same address share one account, its data buffer and its borrow flag, so an
account list with repeated entries aliases.

`Prog` is the type of a program fragment: from a memory to an outcome **and** a memory. A
fragment that fails returns the memory as it left it, so what it wrote before failing is
still there. Undoing it is the runtime's business, not the program's.
-/

namespace BootcampSolana

/-! ## Accounts -/

structure Account where
  lamports : Nat
  data : Bytes
  owner : Pubkey
  deriving DecidableEq

/-- Every address has an account. One that was never funded is `Account.absent`. -/
abbrev Ledger := Pubkey → Account

/-- What an address that was never used holds: nothing, owned by the System Program. -/
def Account.absent : Account := { lamports := 0, data := [], owner := systemProgramId }

inductive ProgramError where
  | custom (code : Nat)
  | invalidInstructionData
  | invalidAccountData
  | missingRequiredSignature
  | incorrectProgramId
  | notEnoughAccountKeys
  | accountAlreadyInitialized
  | accountBorrowFailed
  | maxSeedLengthExceeded
  | invalidSeeds
  | illegalOwner
  | invalidAccountOwner
  | arithmeticOverflow
  /-- `InstructionError::ReadonlyDataModified`. It is the runtime's, and no program returns it. -/
  | readonlyDataModified
  deriving DecidableEq, Repr

/-- `impl From<PubkeyError> for ProgramError`, which `?` applies. -/
def ProgramError.ofPubkeyError : PubkeyError → ProgramError
  | .maxSeedLengthExceeded => .maxSeedLengthExceeded
  | .invalidSeeds => .invalidSeeds

/-! ## Memory -/

/-- The state of the `RefCell` around an account's data. -/
inductive Borrow where
  | free
  | shared
  | exclusive
  deriving DecidableEq, Repr

structure Memory where
  accounts : Ledger
  borrows : Pubkey → Borrow

namespace Memory

/-- A memory no part of which is borrowed, as the runtime hands it over. -/
def ofLedger (L : Ledger) : Memory := { accounts := L, borrows := fun _ => .free }

def Unborrowed (m : Memory) : Prop := ∀ a, m.borrows a = .free

theorem unborrowed_ofLedger (L : Ledger) : (ofLedger L).Unborrowed := fun _ => rfl

abbrev setBorrow (m : Memory) (a : Pubkey) (b : Borrow) : Memory :=
  { m with borrows := Function.update m.borrows a b }

def setData (m : Memory) (a : Pubkey) (d : Bytes) : Memory :=
  { m with accounts := Function.update m.accounts a { m.accounts a with data := d } }

@[simp] theorem setData_data (m : Memory) (a : Pubkey) (d : Bytes) :
    ((m.setData a d).accounts a).data = d := by simp [setData]

/-- Writing the same buffer twice keeps only the second. -/
@[simp] theorem setData_setData (m : Memory) (a : Pubkey) (d d' : Bytes) :
    (m.setData a d).setData a d' = m.setData a d' := by simp [setData]

/-- Taking a free buffer and giving it back changes nothing. -/
@[simp] theorem setBorrow_release {m : Memory} {a : Pubkey} (h : m.borrows a = .free) (b : Borrow) :
    (m.setBorrow a b).setBorrow a .free = m := by
  have hb : Function.update m.borrows a .free = m.borrows := by rw [← h, Function.update_eq_self]
  simp [setBorrow, hb]

end Memory

/-! ## Program fragments -/

/-- A program fragment: what it returns, and the memory it leaves. -/
def Prog (α : Type) : Type := Memory → Outcome ProgramError α × Memory

namespace Prog

variable {α β : Type}

protected def bind (x : Prog α) (f : α → Prog β) : Prog β := fun m =>
  match x m with
  | (.ok a, m') => f a m'
  | (.err e, m') => (.err e, m')
  | (.panicked, m') => (.panicked, m')

instance : Monad Prog where
  pure a := fun m => (.ok a, m)
  bind := Prog.bind

/-- A computation that does not look at the memory. -/
def lift (x : Outcome ProgramError α) : Prog α := fun m => (x, m)

/-- `if !c { return Err(e) }`. -/
def ensure (c : Bool) (e : ProgramError) : Prog Unit := fun m =>
  if c then (.ok (), m) else (.err e, m)

def fail (e : ProgramError) : Prog α := fun m => (.err e, m)

@[simp] theorem bind_apply (x : Prog α) (f : α → Prog β) (m : Memory) :
    (x >>= f) m = match x m with
      | (.ok a, m') => f a m'
      | (.err e, m') => (.err e, m')
      | (.panicked, m') => (.panicked, m') := rfl

@[simp] theorem pure_apply (a : α) (m : Memory) : (pure a : Prog α) m = (.ok a, m) := rfl

@[simp] theorem lift_apply (x : Outcome ProgramError α) (m : Memory) : lift x m = (x, m) := rfl

@[simp] theorem fail_apply (e : ProgramError) (m : Memory) :
    (fail e : Prog α) m = (.err e, m) := rfl

@[simp] theorem ensure_true (e : ProgramError) (m : Memory) : ensure true e m = (.ok (), m) := rfl

@[simp] theorem ensure_false (e : ProgramError) (m : Memory) :
    ensure false e m = (.err e, m) := rfl

end Prog

/-! ## Account handles -/

structure AccountInfo where
  key : Pubkey
  isSigner : Bool
  isWritable : Bool
  deriving DecidableEq

/-- The handle the runtime makes of an entry of an instruction's account list. -/
def AccountMeta.toInfo (a : AccountMeta) : AccountInfo :=
  { key := a.pubkey, isSigner := a.isSigner, isWritable := a.isWritable }

/-- `next_account_info`: the next handle and the rest of the iterator. -/
def nextAccountInfo (iter : List AccountInfo) : Prog (AccountInfo × List AccountInfo) :=
  match iter with
  | a :: rest => pure (a, rest)
  | [] => Prog.fail .notEnoughAccountKeys

namespace AccountInfo

def owner (a : AccountInfo) : Prog Pubkey := fun m => (.ok (m.accounts a.key).owner, m)

/-- `data_len`. It borrows the data to look at it, and panics when it cannot. -/
def dataLen (a : AccountInfo) : Prog Nat := fun m =>
  if m.borrows a.key = .exclusive then (.panicked, m)
  else (.ok (m.accounts a.key).data.length, m)

def dataIsEmpty (a : AccountInfo) : Prog Bool := fun m =>
  if m.borrows a.key = .exclusive then (.panicked, m)
  else (.ok (m.accounts a.key).data.isEmpty, m)

/--
`let d = a.try_borrow_mut_data()?; body`. The buffer is given back when `d` goes out of
scope, which is the end of `body` whether it succeeds or not.
-/
def tryBorrowMutData {α : Type} (a : AccountInfo) (body : Prog α) : Prog α := fun m =>
  if m.borrows a.key = .free then
    match body (m.setBorrow a.key .exclusive) with
    | (r, m') => (r, m'.setBorrow a.key .free)
  else (.err .accountBorrowFailed, m)

/-- The buffer, read through the guard. -/
def data (a : AccountInfo) : Prog Bytes := fun m => (.ok (m.accounts a.key).data, m)

/-- `d[i..j].copy_from_slice(src)`. -/
def copyFromSlice (a : AccountInfo) (i j : Nat) (src : Bytes) : Prog Unit := fun m =>
  let d := (m.accounts a.key).data
  if i ≤ j ∧ j ≤ d.length ∧ src.length = j - i then
    (.ok (), m.setData a.key (copied d i j src))
  else (.panicked, m)

/-- `d[i] = b`. -/
def setByte (a : AccountInfo) (i : Nat) (b : UInt8) : Prog Unit := fun m =>
  let d := (m.accounts a.key).data
  if i < d.length then (.ok (), m.setData a.key (d.set i b)) else (.panicked, m)

/-! What each of these does when nothing is in its way. -/

variable {a : AccountInfo} {m : Memory}

@[simp] theorem owner_apply : a.owner m = (.ok (m.accounts a.key).owner, m) := rfl

@[simp] theorem data_apply : a.data m = (.ok (m.accounts a.key).data, m) := rfl

theorem dataLen_apply (h : m.borrows a.key = .free) :
    a.dataLen m = (.ok (m.accounts a.key).data.length, m) := by simp [dataLen, h]

theorem dataIsEmpty_apply (h : m.borrows a.key = .free) :
    a.dataIsEmpty m = (.ok (m.accounts a.key).data.isEmpty, m) := by simp [dataIsEmpty, h]

theorem tryBorrowMutData_apply {α : Type} {body : Prog α} (h : m.borrows a.key = .free) :
    a.tryBorrowMutData body m =
      match body (m.setBorrow a.key .exclusive) with
      | (r, m') => (r, m'.setBorrow a.key .free) := if_pos h

theorem copyFromSlice_apply {i j : Nat} {src : Bytes} (hij : i ≤ j)
    (hj : j ≤ (m.accounts a.key).data.length) (hsrc : src.length = j - i) :
    a.copyFromSlice i j src m = (.ok (), m.setData a.key (copied (m.accounts a.key).data i j src)) :=
  if_pos ⟨hij, hj, hsrc⟩

theorem setByte_apply {i : Nat} {b : UInt8} (h : i < (m.accounts a.key).data.length) :
    a.setByte i b m = (.ok (), m.setData a.key ((m.accounts a.key).data.set i b)) := if_pos h

end AccountInfo

end BootcampSolana
