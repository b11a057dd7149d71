import BootcampSolana.Solana.System
import BootcampSolana.HelloSolana.Program

/-!
# An implementation of the account checks

What `#[derive(Accounts)]` makes of the two account structs. Nothing about the handlers
depends on it. It is here to show that `Anchor.Lawful` can be met, for every derivation that
finds an address at all.
-/

namespace BootcampSolana.HelloSolana

/-- The `seeds` constraint. -/
def isCounterPda (D : Derivation) (a : Pubkey) : Bool :=
  (findProgramAddress D [COUNTER_SEED] ID).map Prod.fst == some a

/--
The `init` constraint. An account that somebody has sent lamports to is topped up, allocated
and assigned, in place of `create_account`.
-/
def initCounter (rent : Rent) (payer counter : Pubkey) (L : Ledger) : Except HelloError Ledger :=
  if payer = counter then .error (.anchor .tryingToInitPayerAsProgramAccount)
  else
    let space := 8 + Counter.INIT_SPACE
    let lamports := rent.minimumBalance space - (L counter).lamports
    let ix : CreateAccount := { source := payer, target := counter, lamports, space, owner := ID }
    match allocateAndAssign ix L with
    | .error e => .error (.program e)
    | .ok L₁ =>
      match transferLamports payer counter lamports L₁ with
      | .error e => .error (.program e)
      | .ok L₂ => .ok L₂

def tryAccountsInitialize (D : Derivation) (rent : Rent) (accounts : List AccountInfo)
    (L : Ledger) : Except HelloError (Initialize × Ledger) :=
  match accounts with
  | payer :: counter :: system :: _ =>
    if payer.isSigner = false then .error (.anchor .accountNotSigner)
    else if system.key ≠ systemProgramId then .error (.anchor .invalidProgramId)
    else if isCounterPda D counter.key = false then .error (.anchor .constraintSeeds)
    else
      match initCounter rent payer.key counter.key L with
      | .error e => .error e
      | .ok L' =>
        if payer.isWritable = false ∨ counter.isWritable = false then
          .error (.anchor .constraintMut)
        else .ok ({ payer := payer.key, counter := counter.key }, L')
  | _ => .error (.anchor .accountNotEnoughKeys)

def tryAccountsIncrement (D : Derivation) (discriminator : Bytes) (accounts : List AccountInfo)
    (L : Ledger) : Except HelloError Increment :=
  match accounts with
  | counter :: authority :: _ =>
    if (L counter.key).owner ≠ ID then .error (.anchor .accountNotInitialized)
    else
      match Counter.tryDeserialize discriminator (L counter.key).data with
      | none => .error (.anchor .accountDidNotDeserialize)
      | some state =>
        if authority.isSigner = false then .error (.anchor .accountNotSigner)
        else if isCounterPda D counter.key = false then .error (.anchor .constraintSeeds)
        else if counter.isWritable = false then .error (.anchor .constraintMut)
        else .ok { counter := counter.key, state, authority := authority.key }
  | _ => .error (.anchor .accountNotEnoughKeys)

def derivedAccounts (D : Derivation) (rent : Rent) (discriminator : Bytes)
    (h : discriminator.length = 8) : Anchor where
  derivation := D
  discriminator := discriminator
  length_discriminator := h
  tryInitialize := tryAccountsInitialize D rent
  tryIncrement := tryAccountsIncrement D discriminator

variable {D : Derivation} {rent : Rent} {payer counter pda : Pubkey} {bump : UInt8} {L L' : Ledger}

theorem isCounterPda_iff (h : findProgramAddress D [COUNTER_SEED] ID = some (pda, bump)) :
    isCounterPda D counter = true ↔ counter = pda := by
  unfold isCounterPda
  rw [h, beq_iff_eq]
  constructor
  · intro heq
    exact (Option.some.inj heq).symm
  · rintro rfl
    rfl

theorem initCounter_ok (h : initCounter rent payer counter L = .ok L') :
    (L counter).owner = systemProgramId ∧ (L' counter).owner = ID ∧
      (L' counter).data = List.replicate (8 + Counter.INIT_SPACE) 0 := by
  unfold initCounter at h
  split at h
  · cases h
  · dsimp only at h
    split at h
    · cases h
    · next L₁ halloc =>
      obtain ⟨hfresh, rfl⟩ := allocateAndAssign_eq_ok halloc
      split at h
      · cases h
      · next L₂ htr =>
        cases h
        have hmoved := @transferLamports_data_owner _ _ counter _ _ _ htr
        rw [Function.update_self] at hmoved
        exact ⟨hfresh.2, hmoved.2, hmoved.1⟩

theorem systemProgramId_ne_ID : systemProgramId ≠ ID := by decide +kernel

theorem tryAccountsInitialize_ok {accounts : List AccountInfo} {ctx : Initialize}
    (hpda : findProgramAddress D [COUNTER_SEED] ID = some (pda, bump))
    (h : tryAccountsInitialize D rent accounts L = .ok (ctx, L')) :
    (∃ payer ∈ accounts.head?, payer.key = ctx.payer ∧ payer.isSigner = true) ∧
      ctx.counter = pda ∧ (L pda).owner ≠ ID ∧ (L' pda).owner = ID ∧
      (L' pda).data = List.replicate (8 + Counter.INIT_SPACE) 0 := by
  unfold tryAccountsInitialize at h
  split at h
  · next payer counter system rest =>
    split at h
    · cases h
    · next hsig =>
      split at h
      · cases h
      · split at h
        · cases h
        · next hctr =>
          split at h
          · cases h
          · next L₁ hinit =>
            split at h
            · cases h
            · cases h
              obtain rfl := (isCounterPda_iff hpda).mp (Bool.not_eq_false _ ▸ hctr)
              obtain ⟨hsystem, howner, hdata⟩ := initCounter_ok hinit
              refine ⟨⟨payer, rfl, rfl, by simpa using hsig⟩, rfl, ?_, howner, hdata⟩
              rw [hsystem]
              exact systemProgramId_ne_ID
  · cases h

theorem tryAccountsIncrement_ok {accounts : List AccountInfo} {discriminator : Bytes}
    {hd : discriminator.length = 8} {ctx : Increment}
    (hpda : findProgramAddress D [COUNTER_SEED] ID = some (pda, bump)) :
    tryAccountsIncrement D discriminator accounts L = .ok ctx ↔
      wellFormed pda ctx.authority accounts = true ∧
        (derivedAccounts D rent discriminator hd).counterOf pda L = some ctx.state ∧
        ctx.counter = pda := by
  have hiff : ∀ a, isCounterPda D a = true ↔ a = pda := fun a => isCounterPda_iff hpda
  rcases accounts with _ | ⟨counter, _ | ⟨authority, rest⟩⟩
  · exact ⟨nofun, fun h => nomatch h.1⟩
  · exact ⟨nofun, fun h => nomatch h.1⟩
  · simp only [tryAccountsIncrement, wellFormed, Anchor.counterOf, derivedAccounts,
      Bool.and_eq_true, beq_iff_eq]
    constructor
    · intro h
      split at h
      · cases h
      · next howner =>
        split at h
        · cases h
        · next state hstate =>
          split at h
          · cases h
          · next hsig =>
            split at h
            · cases h
            · next hctr =>
              split at h
              · cases h
              · next hwr =>
                cases h
                have hkey : counter.key = pda := (hiff _).mp (by simpa using hctr)
                rw [hkey, not_not] at howner
                rw [hkey] at hstate
                rw [if_pos howner]
                exact ⟨⟨⟨⟨hkey, by simpa using hwr⟩, rfl⟩, by simpa using hsig⟩, hstate, hkey⟩
    · rintro ⟨⟨⟨⟨hkey, hwr⟩, hauth⟩, hsig⟩, hstate, hctr⟩
      split at hstate
      · next howner =>
        rw [hkey, if_neg (not_not.mpr howner), hstate, (hiff pda).mpr rfl, hwr, hsig, hauth, ← hctr]
        rfl
      · cases hstate

/-- **The implementation is lawful.** -/
theorem derivedAccounts_lawful {discriminator : Bytes} {hd : discriminator.length = 8}
    (hpda : findProgramAddress D [COUNTER_SEED] ID = some (pda, bump)) :
    (derivedAccounts D rent discriminator hd).Lawful pda where
  seeds := ⟨bump, hpda⟩
  tryInitialize_ok := tryAccountsInitialize_ok hpda
  tryIncrement_ok := tryAccountsIncrement_ok hpda

/-! ## The deployed counter -/

/-- The address for the first bump that is off the curve. -/
def counterAddress : Pubkey :=
  ⟨[0xba, 0xd1, 0x1b, 0x82, 0xb3, 0x94, 0xaf, 0xcf, 0xb8, 0xc9, 0x18,
    0xb2, 0x88, 0xc9, 0x00, 0x9f, 0xe1, 0xaf, 0x4f, 0x05, 0x0d, 0xe5,
    0xe4, 0x09, 0xcc, 0x40, 0xf2, 0x7f, 0xb1, 0xa9, 0xce, 0xb5], rfl⟩

def counterBump : UInt8 := 254

/-- The first eight bytes of the hash of `account:Counter`. -/
def counterDiscriminator : Bytes := [255, 176, 4, 245, 188, 253, 124, 25]

def deployedDerivation : Derivation :=
  tableDerivation [(pdaPreimage [COUNTER_SEED, [counterBump]] ID, counterAddress)]

def deployed : Anchor := derivedAccounts deployedDerivation sampleRent counterDiscriminator rfl

theorem findProgramAddress_deployed :
    findProgramAddress deployedDerivation [COUNTER_SEED] ID = some (counterAddress, counterBump) := by
  decide +kernel

end BootcampSolana.HelloSolana
