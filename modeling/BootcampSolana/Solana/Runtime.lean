import BootcampSolana.Solana.Program

/-!
# The runtime around a program

What a program calls and does not contain: the address derivation, the rent sysvar and the
System Program's `create_account`, reached through `invoke_signed`. They are the fields of
`Runtime`, and what is assumed of them is stated apart:

* `Runtime.Lawful` — what a `create_account` that succeeds has done
* `Runtime.Creates` — when it does succeed

`BootcampSolana.Solana.System` has one implementation, which satisfies both.

Around a whole transaction stands the bank, which takes a fee and does not let an account fall
below its rent: `Charge.settle`.
-/

namespace BootcampSolana

structure Rent where
  minimumBalance : Nat → Nat

/-- `create_account(from, to, lamports, space, owner)`. -/
structure CreateAccount where
  source : Pubkey
  target : Pubkey
  lamports : Nat
  space : Nat
  owner : Pubkey
  deriving DecidableEq

/-- A `create_account` on its way through `invoke_signed`, issued by the program `caller`. -/
structure Invocation where
  caller : Pubkey
  instruction : CreateAccount
  accountInfos : List AccountInfo
  signersSeeds : List (List Bytes)
  deriving DecidableEq

structure Runtime where
  derivation : Derivation
  /-- `Rent::get()`. -/
  rent : Except ProgramError Rent
  /-- What the System Program makes of a ledger, or why it refuses. -/
  createAccount : Invocation → Ledger → Except ProgramError Ledger

/-! ## The effect of `create_account` -/

/-- Transfer, allocate, assign. -/
def CreateAccount.apply (ix : CreateAccount) (L : Ledger) : Ledger :=
  Function.update
    (Function.update L ix.source
      { L ix.source with lamports := (L ix.source).lamports - ix.lamports })
    ix.target
    { lamports := (L ix.target).lamports + ix.lamports
      data := List.replicate ix.space 0
      owner := ix.owner }

namespace CreateAccount

variable {ix : CreateAccount} {L : Ledger}

@[simp] theorem apply_target : ix.apply L ix.target =
    { lamports := (L ix.target).lamports + ix.lamports
      data := List.replicate ix.space 0
      owner := ix.owner } := by simp [apply]

end CreateAccount

/-! ## `transfer` -/

/-- `SystemError::ResultWithNegativeLamports`. -/
def resultWithNegativeLamports : ProgramError := .custom 1

/-- `transfer`, from an account that must be System-owned and carry no data. -/
def transferLamports (source target : Pubkey) (amount : Nat) (L : Ledger) :
    Except ProgramError Ledger :=
  if (L source).data ≠ [] ∨ (L source).owner ≠ systemProgramId then .error .invalidAccountData
  else if (L source).lamports < amount then .error resultWithNegativeLamports
  else
    let L := Function.update L source
      { L source with lamports := (L source).lamports - amount }
    .ok (Function.update L target { L target with lamports := (L target).lamports + amount })

/-- What a transfer has found, and what it has done. -/
theorem transferLamports_eq_ok {source target : Pubkey} {amount : Nat} {L L' : Ledger}
    (h : transferLamports source target amount L = .ok L') :
    ((L source).data = [] ∧ (L source).owner = systemProgramId) ∧
      amount ≤ (L source).lamports ∧
      ∃ L₁, L₁ = Function.update L source
          { L source with lamports := (L source).lamports - amount } ∧
        L' = Function.update L₁ target
          { L₁ target with lamports := (L₁ target).lamports + amount } := by
  unfold transferLamports at h
  split at h
  · cases h
  · next hpayer =>
    split at h
    · cases h
    · next hfunds =>
      cases h
      simp only [not_or, not_not] at hpayer
      exact ⟨hpayer, Nat.not_lt.mp hfunds, _, rfl, rfl⟩

theorem update_lamports (L : Ledger) (x a : Pubkey) (n : Nat) :
    (Function.update L x { L x with lamports := n } a).data = (L a).data ∧
      (Function.update L x { L x with lamports := n } a).owner = (L a).owner := by
  by_cases ha : a = x
  · subst ha
    rw [Function.update_self]
    exact ⟨rfl, rfl⟩
  · rw [Function.update_of_ne ha]
    exact ⟨rfl, rfl⟩

/-- A transfer moves lamports only. -/
theorem transferLamports_data_owner {source target a : Pubkey} {amount : Nat} {L L' : Ledger}
    (h : transferLamports source target amount L = .ok L') :
    (L' a).data = (L a).data ∧ (L' a).owner = (L a).owner := by
  obtain ⟨-, -, L₁, h₁, rfl⟩ := transferLamports_eq_ok h
  have hin := update_lamports L₁ target a ((L₁ target).lamports + amount)
  have hout := update_lamports L source a ((L source).lamports - amount)
  rw [← h₁] at hout
  exact ⟨hin.1.trans hout.1, hin.2.trans hout.2⟩

/-- It adds lamports to its target only. -/
theorem transferLamports_lamports_le {source target a : Pubkey} {amount : Nat} {L L' : Ledger}
    (h : transferLamports source target amount L = .ok L') (ha : target = a → amount = 0) :
    (L' a).lamports ≤ (L a).lamports := by
  obtain ⟨-, -, L₁, h₁, rfl⟩ := transferLamports_eq_ok h
  have hout : (L₁ a).lamports ≤ (L a).lamports := by
    rw [h₁]
    by_cases hs : a = source
    · subst hs
      rw [Function.update_self]
      exact Nat.sub_le _ _
    · rw [Function.update_of_ne hs]
  by_cases ht : a = target
  · subst ht
    rw [Function.update_self, ha rfl]
    exact hout
  · rw [Function.update_of_ne ht]
    exact hout

/-! ## `invoke_signed` -/

/--
`invoke_signed` of a `create_account`. Every account it passes on must be free to borrow; the
call itself is the runtime's.
-/
def invokeSigned (R : Runtime) (call : Invocation) : Prog Unit := fun m =>
  if call.accountInfos.any (fun a => m.borrows a.key ≠ .free) then
    (.err .accountBorrowFailed, m)
  else
    match R.createAccount call m.accounts with
    | .ok accounts => (.ok (), { m with accounts })
    | .error e => (.err e, m)

theorem invokeSigned_of_unborrowed {R : Runtime} {call : Invocation} {m : Memory}
    (hm : m.Unborrowed) : invokeSigned R call m =
      match R.createAccount call m.accounts with
      | .ok accounts => (.ok (), { m with accounts })
      | .error e => (.err e, m) := by
  have hnone : call.accountInfos.any (fun a => m.borrows a.key ≠ .free) = false := by
    rw [List.any_eq_false]
    intro a _
    simp [hm a.key]
  rw [invokeSigned, hnone]
  rfl

/-! ## What is assumed of it -/

/-- Which accounts a signed invocation may use as it does. -/
structure Invocation.Authorised (D : Derivation) (call : Invocation) : Prop where
  /-- The payer signed and is writable. -/
  source : ∃ a ∈ call.accountInfos,
    a.key = call.instruction.source ∧ a.isSigner = true ∧ a.isWritable = true
  target : ∃ a ∈ call.accountInfos, a.key = call.instruction.target ∧ a.isWritable = true
  /-- The seeds presented derive the new account's address under the caller's id. -/
  seeds : ∃ seeds ∈ call.signersSeeds,
    createProgramAddress D seeds call.caller = .ok call.instruction.target
  /-- All seeds presented derive some address: the runtime stops at the first that do not. -/
  derives : ∀ seeds ∈ call.signersSeeds, ∃ a, createProgramAddress D seeds call.caller = .ok a
  system : ∃ a ∈ call.accountInfos, a.key = systemProgramId

/--
What a `create_account` that succeeds has done. The target held nothing before, so the
lamports it now has are the payer's. The System Program refuses a payer that carries data,
and looks at it after allocating, so an account that gets any data never pays for itself.
-/
structure Runtime.Lawful (R : Runtime) : Prop where
  createAccount_ok : ∀ {call L L'}, 0 < call.instruction.space →
    R.createAccount call L = .ok L' →
    call.instruction.source ≠ call.instruction.target ∧
    (L call.instruction.target).lamports = 0 ∧
    (L call.instruction.target).data = [] ∧
    (L call.instruction.target).owner = systemProgramId ∧
    call.instruction.lamports ≤ (L call.instruction.source).lamports ∧
    L' = call.instruction.apply L

/-- How much an inner call may grow an account by. -/
def maxPermittedDataIncrease : Nat := 10240

/-- When `create_account` succeeds, and that rent is never free. -/
structure Runtime.Creates (R : Runtime) : Prop where
  createAccount_succeeds : ∀ {call L}, call.Authorised R.derivation →
    call.instruction.source ≠ call.instruction.target →
    L call.instruction.target = .absent →
    (L call.instruction.source).owner = systemProgramId →
    (L call.instruction.source).data = [] →
    call.instruction.lamports ≤ (L call.instruction.source).lamports →
    call.instruction.space ≤ maxPermittedDataIncrease →
    ∃ L', R.createAccount call L = .ok L'
  rent_pos : ∀ {rent}, R.rent = .ok rent → ∀ n, 0 < rent.minimumBalance n

/-! ## The bank -/

inductive RentState where
  | uninitialized
  | rentPaying (lamports space : Nat)
  | rentExempt
  deriving DecidableEq

def Rent.state (rent : Rent) (a : Account) : RentState :=
  if a.lamports = 0 then .uninitialized
  else if rent.minimumBalance a.data.length ≤ a.lamports then .rentExempt
  else .rentPaying a.lamports a.data.length

/-- `transition_allowed`: no account begins to pay rent, or is credited without becoming exempt. -/
def RentState.allowed : RentState → RentState → Bool
  | .rentPaying lamports space, .rentPaying lamports' space' =>
    space' = space ∧ lamports' ≤ lamports
  | _, .rentPaying _ _ => false
  | _, _ => true

/-- Whether an account may become another one. -/
def Rent.allows (rent : Rent) (a a' : Account) : Bool := (rent.state a).allowed (rent.state a')

/-- What is taken for a transaction, from whom, and what the transaction may write to. -/
structure Charge where
  payer : Pubkey
  fee : Nat
  writable : List Pubkey

/-- `TransactionError`, as far as it occurs. -/
inductive Refusal (ρ : Type) where
  | invalidAccountForFee
  | insufficientFundsForFee
  | insufficientFundsForRent (account : Pubkey)
  | instructionError (refused : ρ)

namespace Charge

variable {ρ : Type} (c : Charge) (rent : Rent)

/-- The payer pays first. -/
def apply (L : Ledger) : Ledger :=
  Function.update L c.payer { L c.payer with lamports := (L c.payer).lamports - c.fee }

/-- Who cannot pay, or would have to pay rent afterwards, does not get a transaction processed. -/
def Payable (L : Ledger) : Prop :=
  (L c.payer).owner = systemProgramId ∧ c.fee ≤ (L c.payer).lamports ∧
    rent.allows (L c.payer) (c.apply L c.payer) = true

instance (L : Ledger) : Decidable (c.Payable rent L) :=
  inferInstanceAs (Decidable (_ ∧ _ ∧ _))

/-- A look at the accounts that the instructions have left. -/
def examine (L L' : Ledger) : Option (Refusal ρ) × Ledger :=
  match c.writable.find? fun a => !rent.allows (L a) (L' a) with
  | some a => (some (.insufficientFundsForRent a), L)
  | none => (none, L')

/-- The fee, then the instructions, and then the look. -/
def settle (body : Ledger → Option ρ × Ledger) (L : Ledger) : Option (Refusal ρ) × Ledger :=
  if (L c.payer).owner ≠ systemProgramId then (some .invalidAccountForFee, L)
  else if (L c.payer).lamports < c.fee then (some .insufficientFundsForFee, L)
  else if ¬ c.Payable rent L then (some (.insufficientFundsForRent c.payer), L)
  else
    match body (c.apply L) with
    | (some refused, _) => (some (.instructionError refused), c.apply L)
    | (none, L') => c.examine rent (c.apply L) L'

end Charge

/-- An account that owes no rent. -/
def Rent.Clear (rent : Rent) (a : Account) : Prop :=
  a.lamports = 0 ∨ rent.minimumBalance a.data.length ≤ a.lamports

/-- An account that owes none, or that is as large as it was and has what it had. -/
def Rent.Steady (rent : Rent) (a a' : Account) : Prop :=
  rent.Clear a' ∨ a'.lamports = a.lamports ∧ a'.data.length = a.data.length

section Bank

variable {ρ : Type} {c : Charge} {rent : Rent} {a a' : Account} {L L' : Ledger}
  {body : Ledger → Option ρ × Ledger}

theorem RentState.allowed_refl (s : RentState) : s.allowed s = true := by
  cases s <;> simp [RentState.allowed]

theorem Rent.Clear.state (h : rent.Clear a) :
    rent.state a = .uninitialized ∨ rent.state a = .rentExempt := by
  unfold Rent.state
  by_cases hzero : a.lamports = 0
  · exact Or.inl (if_pos hzero)
  · exact Or.inr (by rw [if_neg hzero, if_pos (h.resolve_left hzero)])

theorem Rent.Steady.allows (h : rent.Steady a a') : rent.allows a a' = true := by
  rw [Rent.allows]
  rcases h with h | ⟨hl, hd⟩
  · rcases h.state with hs | hs
    · rw [hs]
      cases rent.state a <;> rfl
    · rw [hs]
      cases rent.state a <;> rfl
  · have hstate : rent.state a' = rent.state a := by rw [Rent.state, Rent.state, hl, hd]
    rw [hstate]
    exact RentState.allowed_refl _

namespace Charge

theorem apply_other {x : Pubkey} (h : x ≠ c.payer) : c.apply L x = L x :=
  Function.update_of_ne h _ _

theorem apply_payer : (c.apply L c.payer).lamports = (L c.payer).lamports - c.fee := by
  rw [apply, Function.update_self]

theorem apply_data_owner (x : Pubkey) :
    (c.apply L x).data = (L x).data ∧ (c.apply L x).owner = (L x).owner :=
  update_lamports L c.payer x _

/-- A wallet that keeps the minimum can pay. -/
theorem payable_of_funds (howner : (L c.payer).owner = systemProgramId)
    (hdata : (L c.payer).data = [])
    (h : c.fee + rent.minimumBalance 0 ≤ (L c.payer).lamports) : c.Payable rent L := by
  refine ⟨howner, by omega, Rent.Steady.allows (Or.inl (Or.inr ?_))⟩
  rw [apply, Function.update_self]
  show rent.minimumBalance (L c.payer).data.length ≤ (L c.payer).lamports - c.fee
  rw [hdata]
  exact Nat.le_sub_of_add_le (by rw [Nat.add_comm]; exact h)

theorem settle_of_payable (hpay : c.Payable rent L) :
    c.settle rent body L =
      match body (c.apply L) with
      | (some refused, _) => (some (.instructionError refused), c.apply L)
      | (none, L') => c.examine rent (c.apply L) L' := by
  rw [settle, if_neg (not_not.mpr hpay.1), if_neg (Nat.not_lt.mpr hpay.2.1),
    if_neg (not_not.mpr hpay)]

theorem settle_of_not_payable (body : Ledger → Option ρ × Ledger) (hpay : ¬ c.Payable rent L) :
    ∃ e, c.settle rent body L = (some e, L) := by
  unfold settle
  split
  · exact ⟨_, rfl⟩
  · split <;> exact ⟨_, rfl⟩

theorem examine_eq_none {L₁ : Ledger} :
    (c.examine rent L L' : Option (Refusal ρ) × Ledger) = (none, L₁) ↔
      L₁ = L' ∧ ∀ x ∈ c.writable, rent.allows (L x) (L' x) = true := by
  unfold examine
  rcases hfind : c.writable.find? fun a => !rent.allows (L a) (L' a) with _ | a
  · have hall := List.find?_eq_none.mp hfind
    simp only [Bool.not_eq_true', Bool.not_eq_false] at hall
    exact ⟨fun h => ⟨(Prod.mk.inj h).2.symm, hall⟩, fun h => by rw [h.1]⟩
  · have hbad := List.find?_some hfind
    constructor
    · intro h
      cases h
    · rintro ⟨-, hall⟩
      simp [hall a (List.mem_of_find?_eq_some hfind)] at hbad

/-- **A transaction that is carried out.** -/
theorem settle_eq_none : c.settle rent body L = (none, L') ↔
    c.Payable rent L ∧ body (c.apply L) = (none, L') ∧
      ∀ x ∈ c.writable, rent.allows (c.apply L x) (L' x) = true := by
  by_cases hpay : c.Payable rent L
  · rw [settle_of_payable hpay]
    rcases body (c.apply L) with ⟨_ | refused, L₁⟩
    · have hexamined := @examine_eq_none ρ c rent (c.apply L) L₁ L'
      constructor
      · intro h
        obtain ⟨rfl, hall⟩ := hexamined.mp h
        exact ⟨hpay, rfl, hall⟩
      · rintro ⟨-, h, hall⟩
        cases h
        exact hexamined.mpr ⟨rfl, hall⟩
    · simp
  · obtain ⟨e, he⟩ := settle_of_not_payable body hpay
    simp [he, hpay]

/-- **A transaction that is refused** has paid its fee, and that is all it has done. -/
theorem settle_of_refused {refused : ρ} (hpay : c.Payable rent L)
    (h : body (c.apply L) = (some refused, L')) :
    c.settle rent body L = (some (.instructionError refused), c.apply L) := by
  rw [settle_of_payable hpay, h]

/-- What the ledger can be afterwards. -/
theorem settle_cases (c : Charge) (rent : Rent) (body : Ledger → Option ρ × Ledger) (L : Ledger) :
    (c.settle rent body L).2 = L ∨ (c.settle rent body L).2 = c.apply L ∨
      (c.settle rent body L).2 = (body (c.apply L)).2 := by
  by_cases hpay : c.Payable rent L
  · rw [settle_of_payable hpay]
    rcases body (c.apply L) with ⟨_ | refused, L'⟩
    · simp only [examine]
      split
      · exact Or.inr (Or.inl rfl)
      · exact Or.inr (Or.inr rfl)
    · exact Or.inr (Or.inl rfl)
  · obtain ⟨e, he⟩ := settle_of_not_payable body hpay
    exact Or.inl (by rw [he])

end Charge

end Bank

end BootcampSolana
