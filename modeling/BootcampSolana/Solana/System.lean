import Mathlib.Data.List.Nodup
import BootcampSolana.Solana.Runtime

/-!
# An implementation of the runtime

`create_account` step by step, in the order the System Program takes: refuse a target that
holds lamports, allocate, assign, and only then move the lamports. Nothing else in this
development depends on it. It is here to show that what is assumed of a runtime can be met,
and to run the programs on concrete ledgers.
-/

namespace BootcampSolana

/-- `SystemError::AccountAlreadyInUse`. -/
def accountAlreadyInUse : ProgramError := .custom 0

/-- `SystemError::InvalidAccountDataLength`. -/
def invalidAccountDataLength : ProgramError := .custom 3

/-- `Invocation.Authorised` as a test. -/
def Invocation.authorised (D : Derivation) (call : Invocation) : Bool :=
  (call.accountInfos.any fun a =>
    a.key == call.instruction.source && a.isSigner && a.isWritable) &&
  (call.accountInfos.any fun a => a.key == call.instruction.target && a.isWritable) &&
  (call.signersSeeds.any fun seeds =>
    (createProgramAddress D seeds call.caller).toOption == some call.instruction.target) &&
  (call.signersSeeds.all fun seeds =>
    (createProgramAddress D seeds call.caller).toOption.isSome) &&
  (call.accountInfos.any fun a => a.key == systemProgramId)

/-- `allocate` and `assign` of the new account. -/
def allocateAndAssign (ix : CreateAccount) (L : Ledger) : Except ProgramError Ledger :=
  let target := L ix.target
  if target.data ≠ [] ∨ target.owner ≠ systemProgramId then .error accountAlreadyInUse
  else if maxPermittedDataIncrease < ix.space then .error invalidAccountDataLength
  else .ok (Function.update L ix.target
    { target with data := List.replicate ix.space 0, owner := ix.owner })

def systemCreateAccount (D : Derivation) (call : Invocation) (L : Ledger) :
    Except ProgramError Ledger :=
  if call.authorised D = false then .error .missingRequiredSignature
  else if (L call.instruction.target).lamports ≠ 0 then .error accountAlreadyInUse
  else do
    let L ← allocateAndAssign call.instruction L
    transferLamports call.instruction.source call.instruction.target call.instruction.lamports L

def systemRuntime (D : Derivation) (rent : Rent) : Runtime where
  derivation := D
  rent := .ok rent
  createAccount := systemCreateAccount D

variable {D : Derivation} {call : Invocation} {L L' : Ledger} {rent : Rent}

theorem authorised_of_authorised (h : call.Authorised D) : call.authorised D = true := by
  obtain ⟨s, hs, hsk, hss, hsw⟩ := h.source
  obtain ⟨t, ht, htk, htw⟩ := h.target
  obtain ⟨seeds, hm, hd⟩ := h.seeds
  obtain ⟨p, hp, hpk⟩ := h.system
  simp only [Invocation.authorised, Bool.and_eq_true, List.any_eq_true, List.all_eq_true,
    beq_iff_eq]
  refine ⟨⟨⟨⟨⟨s, hs, ⟨hsk, hss⟩, hsw⟩, ⟨t, ht, htk, htw⟩⟩, ⟨seeds, hm, ?_⟩⟩, ?_⟩, ⟨p, hp, hpk⟩⟩
  · rw [hd]; rfl
  · intro q hq
    obtain ⟨a, ha⟩ := h.derives q hq
    rw [ha]; rfl

theorem allocateAndAssign_eq_ok {ix : CreateAccount} (h : allocateAndAssign ix L = .ok L') :
    ((L ix.target).data = [] ∧ (L ix.target).owner = systemProgramId) ∧
      L' = Function.update L ix.target
        { L ix.target with data := List.replicate ix.space 0, owner := ix.owner } := by
  unfold allocateAndAssign at h
  dsimp only at h
  split at h
  · cases h
  · next hfresh =>
    split at h
    · cases h
    · cases h
      simp only [not_or, not_not] at hfresh
      exact ⟨hfresh, rfl⟩

/-- What the two halves do together is `CreateAccount.apply`. -/
theorem transfer_allocated {ix : CreateAccount} (hne : ix.source ≠ ix.target)
    (hs : (L ix.source).data = [] ∧ (L ix.source).owner = systemProgramId)
    (hfunds : ix.lamports ≤ (L ix.source).lamports) :
    transferLamports ix.source ix.target ix.lamports
      (Function.update L ix.target
        { L ix.target with data := List.replicate ix.space 0, owner := ix.owner })
      = .ok (ix.apply L) := by
  have hsrc : ∀ v, Function.update L ix.target v ix.source = L ix.source :=
    fun v => Function.update_of_ne hne v L
  rw [transferLamports, hsrc, if_neg (by simp [hs]), if_neg (Nat.not_lt.mpr hfunds)]
  refine congrArg Except.ok ?_
  rw [Function.update_of_ne hne.symm, Function.update_self, Function.update_comm hne.symm,
    Function.update_idem]
  rfl

theorem systemRuntime_lawful : (systemRuntime D rent).Lawful where
  createAccount_ok := by
    intro call L L' hspace h
    simp only [systemRuntime, systemCreateAccount] at h
    split at h
    · cases h
    · split at h
      · cases h
      · next _ hlam =>
        rcases halloc : allocateAndAssign call.instruction L with e | L₁
        · rw [halloc] at h
          cases h
        · obtain ⟨hfresh, hL₁⟩ := allocateAndAssign_eq_ok halloc
          rw [halloc] at h
          change transferLamports _ _ _ L₁ = .ok L' at h
          rw [hL₁] at h
          by_cases hne : call.instruction.source = call.instruction.target
          · -- the payer has just been allocated, so it carries data
            exfalso
            have hrep : List.replicate call.instruction.space (0 : UInt8) ≠ [] := by
              simp only [ne_eq, List.replicate_eq_nil_iff]
              omega
            simp [transferLamports, hne, hrep] at h
          · obtain ⟨hpayer, hfunds, -⟩ := transferLamports_eq_ok h
            rw [Function.update_of_ne hne] at hpayer hfunds
            rw [transfer_allocated hne hpayer hfunds] at h
            exact ⟨hne, not_not.mp hlam, hfresh.1, hfresh.2, hfunds, (Except.ok.inj h).symm⟩

theorem systemRuntime_creates (hrent : ∀ n, 0 < rent.minimumBalance n) :
    (systemRuntime D rent).Creates where
  createAccount_succeeds := by
    intro call L hauth hne htarget howner hdata hfunds hspace
    refine ⟨call.instruction.apply L, ?_⟩
    have hauth' : call.authorised D = true := authorised_of_authorised hauth
    simp only [systemRuntime, systemCreateAccount, hauth', htarget, allocateAndAssign]
    rw [if_neg (by simp), if_neg (by simp [Account.absent]), if_neg (by simp [Account.absent]),
      if_neg (by omega)]
    have h := @transfer_allocated L call.instruction hne ⟨hdata, howner⟩ hfunds
    rw [htarget] at h
    exact h
  rent_pos := by
    intro r hr
    cases hr
    exact hrent

/-! ## A runtime to try the programs on

`sampleDerivation` gives SHA-256 and the curve test at the strings hashed for the counters of
`alice` and of `bob` under `sampleProgram`, which both take the first bump.
-/

/-- The address whose bytes are all `b`. -/
def keyOf (b : UInt8) : Pubkey := ⟨List.replicate 32 b, by simp⟩

def alice : Pubkey := keyOf 1

def bob : Pubkey := keyOf 4

def sampleProgram : Pubkey := keyOf 2

def aliceCounter : Pubkey :=
  ⟨[0xb4, 0xd6, 0xb0, 0x0c, 0x0d, 0xcb, 0x0b, 0x83, 0x86, 0x6d, 0xb4,
    0x21, 0x78, 0xeb, 0x00, 0x4f, 0x93, 0xf5, 0xfb, 0xd8, 0x74, 0x44,
    0x7c, 0x1e, 0x3e, 0xa0, 0xb2, 0xce, 0xe6, 0xe8, 0x99, 0x31], rfl⟩

def bobCounter : Pubkey :=
  ⟨[0xff, 0xa3, 0x42, 0xd0, 0x85, 0xc2, 0x3a, 0x80, 0xae, 0x59, 0x80,
    0xef, 0xfd, 0x70, 0xbf, 0x06, 0xa0, 0xca, 0x7b, 0x92, 0x12, 0x04,
    0x93, 0x3b, 0x83, 0x7f, 0x8c, 0xc0, 0x92, 0xa9, 0x35, 0x94], rfl⟩

/-- The derivation that hashes as `table` says, and every other string to a point of the curve. -/
def tableDerivation (table : List (Bytes × Pubkey)) : Derivation where
  sha256 bs := (table.lookup bs).getD (keyOf 0)
  isOnCurve a := a == keyOf 0

/--
Where strings hash as a table says, and all others to a point of the curve, a table of different
addresses has no collision, whatever is compared.
-/
theorem noCollision_table {D : Derivation} {table : List (Bytes × Pubkey)}
    (hhash : ∀ bs, D.sha256 bs = (table.lookup bs).getD (keyOf 0))
    (hcurve : D.isOnCurve (keyOf 0) = true) (h : (table.map Prod.snd).Nodup) (S : Set Bytes) :
    NoCollision D S := by
  have hlisted : ∀ bs, D.isOnCurve (D.sha256 bs) = false → (bs, D.sha256 bs) ∈ table := by
    intro bs hbs
    rcases hl : table.lookup bs with _ | a
    · rw [hhash, hl, Option.getD_none, hcurve] at hbs
      cases hbs
    · obtain ⟨l₁, l₂, htable, -⟩ := List.lookup_eq_some_iff.mp hl
      have hmem : (bs, a) ∈ table := htable ▸ List.mem_append_right l₁ List.mem_cons_self
      rw [hhash, hl]
      exact hmem
  rintro s ⟨-, hs⟩ s' ⟨-, hs'⟩ heq
  exact (Prod.mk.inj (List.inj_on_of_nodup_map h (hlisted s hs) (hlisted s' hs') heq)).1

def sampleDerivation : Derivation := tableDerivation
  [(pdaPreimage [ascii "counter", alice.bytes, [255]] sampleProgram, aliceCounter),
    (pdaPreimage [ascii "counter", bob.bytes, [255]] sampleProgram, bobCounter)]

/-- The rent of a validator's default genesis: 128 bytes of overhead, 6960 lamports a byte. -/
def sampleRent : Rent := { minimumBalance := fun space => (128 + space) * 6960 }

def sampleRuntime : Runtime := systemRuntime sampleDerivation sampleRent

theorem sampleRuntime_lawful : sampleRuntime.Lawful := systemRuntime_lawful

theorem sampleRuntime_creates : sampleRuntime.Creates :=
  systemRuntime_creates fun n => Nat.mul_pos (by omega) (by decide)

/-- `alice` and `bob` have ten million lamports each. -/
def sampleLedger : Ledger := fun a =>
  if a = alice ∨ a = bob then { Account.absent with lamports := 10000000 } else .absent

end BootcampSolana
