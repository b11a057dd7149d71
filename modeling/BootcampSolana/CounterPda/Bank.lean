import BootcampSolana.CounterPda.Funding
import BootcampSolana.CounterPda.Transaction

/-!
# Transactions that are paid for

The instructions of a transaction are one thing, and what the bank makes of the whole is another:
its payer pays a fee, whatever becomes of the instructions, and no account is left that begins to
owe rent.

* `Seat.others` — whoever does not sign with the key of a user does not touch the counter, and
  does not take lamports out of the wallet
* `submit_initialize`, `submit_increments`, `submit_foreign` — what becomes of the transactions that
  the client sends
-/

namespace BootcampSolana.CounterPda

open Machine

/-! ## The bank -/

structure Submitted (R : Runtime) (program : Pubkey) where
  payer : Pubkey
  actions : Txn R program

/-- What an action may write to. -/
def Action.writable {D : Derivation} {program : Pubkey} : Action D program → List Pubkey
  | .call accounts _ => (accounts.filter AccountMeta.isWritable).map AccountMeta.pubkey
  | .transfer source target _ => [source, target]
  | .allocate address _ => [address.1]
  | .elsewhere address _ => [address]

structure Bank (R : Runtime) (program : Pubkey) where
  rent : Rent
  fee : Submitted R program → Nat

variable {R : Runtime} {program u v c a pda : Pubkey} {bump : UInt8} {rent : Rent} {L L' : Ledger}
  {B : Bank R program} {tx : Submitted R program} {n : Nat} {count : UInt64}

def Bank.taken (B : Bank R program) (tx : Submitted R program) : Charge where
  payer := tx.payer
  fee := B.fee tx
  writable := tx.payer :: tx.actions.flatMap Action.writable

/-- What becomes of a transaction, and of the ledger. -/
def Bank.submit (B : Bank R program) (L : Ledger) (tx : Submitted R program) :
    Option (Refusal (Nat × Answer)) × Ledger :=
  (B.taken tx).settle B.rent (fun L => process R program L tx.actions) L

/-- **Invariants of transactions.** -/
theorem Bank.submit_keeps {I : Ledger → Prop} (hcharge : I L → I ((B.taken tx).apply L))
    (hstep : ∀ {L act}, act ∈ tx.actions → I L → I (step R program L act).2) (h : I L) :
    I (B.submit L tx).2 := by
  have hkeeps : Keeps (step R program) (fun act => act ∈ tx.actions) I :=
    fun L act hact hL => hstep hact hL
  unfold Bank.submit
  rcases Charge.settle_cases (B.taken tx) B.rent
    (fun L => process R program L tx.actions) L with hL | hL | hL
  · rw [hL]
    exact h
  · rw [hL]
    exact hcharge h
  · rw [hL]
    exact hkeeps.batch accepted _ _ (fun _ hact => hact) (hcharge h)

/-! ## Wallets -/

/-- `n` lamports beyond what a wallet has to keep. -/
structure Purse (rent : Rent) (u : Pubkey) (n : Nat) (L : Ledger) : Prop where
  owner : (L u).owner = systemProgramId
  data : (L u).data = []
  funds : n + rent.minimumBalance 0 ≤ (L u).lamports

/--
What can be done without the signature of `u`. Other programs can send lamports to a wallet, which
is a transfer.
-/
def Action.spares (u : Pubkey) : Action R.derivation program → Bool
  | .call accounts data => !(Action.call accounts data : Action R.derivation program).signedBy u
  | .transfer source _ _ => source != u
  | .allocate address _ => address.1 != u
  | .elsewhere address _ => address != u

theorem signedBy_of_spares {act : Action R.derivation program} (h : act.spares u = true) :
    act.signedBy u = false := by
  cases act with
  | call accounts data => simpa [Action.spares] using h
  | transfer => rfl
  | allocate => rfl
  | elsewhere => rfl

/-- A transaction that `u` has not signed. -/
structure Submitted.Spares (u : Pubkey) (tx : Submitted R program) : Prop where
  payer : tx.payer ≠ u
  actions : ∀ act ∈ tx.actions, act.spares u = true

/-- An address derived for a user is not on the curve. -/
theorem isOnCurve_pda (h : counterPda R.derivation u program = .ok (pda, bump)) :
    R.derivation.isOnCurve pda = false :=
  (findProgramAddress_isPda (counterPda_eq_ok.mp h)).isOnCurve

theorem ne_pda (hu : R.derivation.isOnCurve u = true)
    (h : counterPda R.derivation v program = .ok (pda, bump)) : u ≠ pda := by
  rintro rfl
  simp [isOnCurve_pda h] at hu

theorem Purse.congr (h : Purse rent u n L) (hu : L' u = L u) : Purse rent u n L' where
  owner := by rw [hu, h.owner]
  data := by rw [hu, h.data]
  funds := by rw [hu]; exact h.funds

/-- **Nobody else debits a wallet.** -/
theorem Purse.effect {act : Action R.derivation program} {r : Answer}
    (hcurve : R.derivation.isOnCurve u = true) (h : Purse rent u n L)
    (heff : Effect R program L act r L') (hact : act.spares u = true) : Purse rent u n L' := by
  cases heff with
  | idle => exact h
  | @initialised user counter system rest data bump rent decoded ready paid =>
    have hcounter : u ≠ counter.pubkey := by
      rintro rfl
      have hoff := (findProgramAddress_isPda ready.derived).isOnCurve
      rw [show counter.toInfo.key = counter.pubkey from rfl, hcurve] at hoff
      cases hoff
    have huser : u ≠ user.pubkey := by
      rintro rfl
      have hsigned : user.isSigner = true := ready.signed
      simp [Action.spares, Action.signedBy, hsigned] at hact
    exact h.congr (created_other huser hcounter)
  | @incremented user counter rest data amount decoded accepts =>
    have hcounter : u ≠ counter.pubkey := by
      rintro rfl
      have hlength : (L counter.pubkey).data.length = 41 := accepts.length
      simp [h.data] at hlength
    exact h.congr (incremented_of_ne hcounter)
  | @moved source target amount _ moves =>
    have hsource : u ≠ source := by
      rintro rfl
      simp [Action.spares] at hact
    have hsame := transferLamports_data_owner (a := u) moves
    refine ⟨hsame.2.trans h.owner, hsame.1.trans h.data, ?_⟩
    obtain ⟨-, -, L₁, rfl, rfl⟩ := transferLamports_eq_ok moves
    refine h.funds.trans ?_
    by_cases htarget : u = target
    · subst htarget
      rw [Function.update_self, Function.update_of_ne hsource]
      exact Nat.le_add_right _ _
    · rw [Function.update_of_ne htarget, Function.update_of_ne hsource]
  | @allocated address space empty unowned =>
    have ha : u ≠ address.1 := by
      rintro rfl
      simp [Action.spares] at hact
    exact h.congr (Function.update_of_ne ha _ _)
  | @elsewhere address account before after =>
    have ha : u ≠ address := by
      rintro rfl
      simp [Action.spares] at hact
    exact h.congr (Function.update_of_ne ha _ _)

/-- Who pays the fee has the rest. -/
theorem Purse.charge (h : Purse B.rent u (n + B.fee tx) L) (htx : tx.payer = u) :
    (B.taken tx).Payable B.rent L ∧ Purse B.rent u n ((B.taken tx).apply L) := by
  subst htx
  have hfunds := h.funds
  have hsame := @Charge.apply_data_owner (B.taken tx) L tx.payer
  refine ⟨Charge.payable_of_funds h.owner h.data ?_, hsame.2.trans h.owner,
    hsame.1.trans h.data, ?_⟩
  · show B.fee tx + B.rent.minimumBalance 0 ≤ (L tx.payer).lamports
    omega
  · show n + B.rent.minimumBalance 0 ≤ ((B.taken tx).apply L (B.taken tx).payer).lamports
    rw [Charge.apply_payer]
    show n + B.rent.minimumBalance 0 ≤ (L tx.payer).lamports - B.fee tx
    omega

theorem Purse.clear (h : Purse rent u n L) : rent.Clear (L u) := by
  refine Or.inr ?_
  rw [h.data]
  exact (Nat.le_add_left _ _).trans h.funds

/-! ## Seats -/

/--
What a user has: a wallet, and the counter, or an address for one. As long as nobody interferes,
nobody has been at that address.
-/
structure Seat (B : Bank R program) (calm : Prop) (u pda : Pubkey) (bump : UInt8)
    (count : Option UInt64) (n : Nat) (L : Ledger) : Prop where
  purse : Purse B.rent u n L
  holds : ∀ m, count = some m → Holds R program L u pda bump m
  vacant : count = none → calm → L pda = .absent

section Seats

variable {calm : Prop} {count? : Option UInt64}

/-- The accounts of a user are two. -/
theorem Seat.frame (h : Seat B calm u pda bump count? n L) (hu : L' u = L u)
    (hpda : L' pda = L pda) : Seat B calm u pda bump count? n L' where
  purse := h.purse.congr hu
  holds m hm := (h.holds m hm).congr ⟨by rw [hpda], by rw [hpda]⟩
  vacant hm hc := hpda.trans (h.vacant hm hc)

theorem Purse.submit (hR : R.Lawful) (hcurve : R.derivation.isOnCurve u = true)
    (htx : tx.Spares u) (h : Purse B.rent u n L) : Purse B.rent u n (B.submit L tx).2 :=
  Bank.submit_keeps (fun h => h.congr (Charge.apply_other htx.payer.symm))
    (fun {L act} hact h => h.effect hcurve (step_effect hR L act) (htx.actions act hact)) h

/-- What is not signed by its user leaves a counter alone. -/
theorem Holds.submit (hR : R.Lawful) (htx : ∀ act ∈ tx.actions, act.signedBy u = false)
    (h : Holds R program L u pda bump count) :
    Holds R program (B.submit L tx).2 u pda bump count :=
  Bank.submit_keeps (I := fun L => Holds R program L u pda bump count)
    (fun h => h.congr (Charge.apply_data_owner pda))
    (fun {L act} hact h =>
      h.unmoved (step_effect hR L act) (ownIncrement_of_not_signedBy (htx act hact))) h

/-- A transaction of somebody else. -/
def Bank.move (B : Bank R program) (L : Ledger) (tx : Submitted R program) : Ledger :=
  (B.submit L tx).2

/-- Transactions without a signature of `u`. -/
def Without (u : Pubkey) (txs : List (Submitted R program)) : Prop := ∀ tx ∈ txs, tx.Spares u

/-- **What others do** leaves a user what the user has. -/
theorem Seat.others (hR : R.Lawful) (hcurve : R.derivation.isOnCurve u = true)
    {txs : List (Submitted R program)} (htxs : Without u txs) (hcalm : calm → txs = [])
    (h : Seat B calm u pda bump count? n L) :
    Seat B calm u pda bump count? n (txs.foldl B.move L) where
  purse := List.foldlRecOn (motive := Purse B.rent u n) txs B.move h.purse
    fun _ h tx htx => h.submit hR hcurve (htxs tx htx)
  holds m hm := List.foldlRecOn (motive := fun L => Holds R program L u pda bump m) txs B.move
    (h.holds m hm)
    fun _ h tx htx => h.submit hR fun act hact =>
      signedBy_of_spares ((htxs tx htx).actions act hact)
  vacant hm hc := by
    rw [hcalm hc]
    exact h.vacant hm hc

/-! ## Own transactions -/

theorem process_singleton (L : Ledger) (act : Action R.derivation program) :
    process R program L [act] =
      if (step R program L act).1 = .ok () then (none, (step R program L act).2)
      else (some (0, (step R program L act).1), L) := by
  unfold process batch firstRefused
  by_cases h : (step R program L act).1 = .ok ()
  · simp [h, firstRefused, run]
  · simp [h]

/-- What `ix_initialize` builds, for a user with this address. -/
def initializeIx (program u pda : Pubkey) : Instruction where
  programId := program
  accounts := [⟨u, true, true⟩, ⟨pda, false, true⟩, ⟨systemProgramId, false, false⟩]
  data := [0]

def initializeTx (R : Runtime) (program u pda : Pubkey) : Submitted R program :=
  ⟨u, [.send (initializeIx program u pda)]⟩

def incrementsTx (R : Runtime) (program u pda : Pubkey) (amounts : List UInt64) :
    Submitted R program := ⟨u, increments R program u pda amounts⟩

theorem ixInitialize_eq_ok (h : counterPda R.derivation u program = .ok (pda, bump)) :
    ixInitialize R.derivation program u = .ok (initializeIx program u pda) := by
  have hsystem : Pubkey.fromStr SYSTEM = some systemProgramId := fromStr_system
  simp only [ixInitialize, h, Outcome.bind_ok, hsystem, Outcome.unwrap, Outcome.pure_eq]
  rfl

/-- What an `ix_initialize` that succeeds has made of the ledger. -/
theorem created_of_step (hR : R.Lawful)
    (hpda : counterPda R.derivation u program = .ok (pda, bump)) (hrent : R.rent = .ok rent)
    (hstep : step R program L (.send (initializeIx program u pda)) = (.ok (), L')) :
    L' = created program u pda bump (rent.minimumBalance counterLen) L := by
  have heff := step_effect hR L (.send (initializeIx program u pda) : Action R.derivation program)
  rw [hstep] at heff
  change Effect R program L (.call [⟨u, true, true⟩, ⟨pda, false, true⟩,
    ⟨systemProgramId, false, false⟩] [0]) (.ok ()) L' at heff
  cases heff with
  | idle failed => exact absurd rfl failed
  | initialised decoded ready paid =>
    cases ready.rent.symm.trans hrent
    cases ready.derived.symm.trans (counterPda_eq_ok.mp hpda)
    rfl
  | incremented decoded => exact absurd decoded (by simp [CounterIx.decode])

/-- An `ix_initialize` that succeeds has paid for the counter, and has done nothing else. -/
theorem Purse.initialized (hR : R.Lawful) (hrent : R.rent = .ok rent)
    (hcurve : R.derivation.isOnCurve u = true)
    (hpda : counterPda R.derivation u program = .ok (pda, bump))
    (h : Purse rent u (n + rent.minimumBalance counterLen) L)
    (hstep : step R program L (.send (initializeIx program u pda)) = (.ok (), L')) :
    Purse rent u n L' ∧ Holds R program L' u pda bump 0 ∧ rent.Clear (L' pda) ∧
      ∀ a, a ≠ u → a ≠ pda → L' a = L a := by
  have hne := ne_pda hcurve hpda
  have hholds := holds_of_ixInitialize hR (ixInitialize_eq_ok hpda) hpda hstep
  have hcreated := created_of_step hR hpda hrent hstep
  have hfunds := h.funds
  have hu : L' u = { L u with lamports := (L u).lamports - rent.minimumBalance counterLen } := by
    rw [hcreated, created_user hne]
  refine ⟨⟨?_, ?_, ?_⟩, hholds, Or.inr ?_, fun a ha hp => ?_⟩
  · rw [hu]
    exact h.owner
  · rw [hu]
    exact h.data
  · rw [hu]
    show n + rent.minimumBalance 0 ≤ (L u).lamports - rent.minimumBalance counterLen
    omega
  · rw [hholds.data, length_counterBytes, hcreated, created_counter]
    exact Nat.le_add_left _ _
  · rw [hcreated, created_other ha hp]

/-- And it does succeed where nobody has been. -/
theorem Purse.initializes (hR : R.Lawful) (hC : R.Creates) (hrent : R.rent = .ok rent)
    (hpda : counterPda R.derivation u program = .ok (pda, bump))
    (h : Purse rent u (n + rent.minimumBalance counterLen) L) (habsent : L pda = .absent) :
    (step R program L (.send (initializeIx program u pda))).1 = .ok () := by
  have hfunds := h.funds
  have hcan : CanPay rent L u pda :=
    ⟨by rw [habsent]; rfl, h.owner, h.data, by omega⟩
  have hunpaid : (L pda).lamports = 0 ∧ (L pda).owner = systemProgramId := by
    rw [habsent]
    exact ⟨rfl, rfl⟩
  exact ((succeeds_iff hR hC (ixInitialize_eq_ok hpda) hpda hrent hcan).mpr hunpaid).1

/-- **The transaction with which a user initialises.** It fails only if somebody interferes. -/
theorem submit_initialize (hR : R.Lawful) (hC : R.Creates) (hrent : R.rent = .ok B.rent)
    (hcurve : R.derivation.isOnCurve u = true)
    (hpda : counterPda R.derivation u program = .ok (pda, bump))
    (h : Seat B calm u pda bump none
      (n + B.rent.minimumBalance counterLen + B.fee (initializeTx R program u pda)) L) :
    (∀ L', B.submit L (initializeTx R program u pda) = (none, L') →
      Seat B calm u pda bump (some 0) n L' ∧ ∀ a, a ≠ u → a ≠ pda → L' a = L a) ∧
    (calm → (B.submit L (initializeTx R program u pda)).1 = none) := by
  obtain ⟨hpay, hpurse⟩ := h.purse.charge
    (show (initializeTx R program u pda).payer = u from rfl)
  have hprocess := process_singleton ((B.taken (initializeTx R program u pda)).apply L)
    (.send (initializeIx program u pda) : Action R.derivation program)
  rcases hstep : step R program ((B.taken (initializeTx R program u pda)).apply L)
    (.send (initializeIx program u pda)) with ⟨r, L'⟩
  rw [hstep] at hprocess
  by_cases hok : r = .ok ()
  · subst hok
    obtain ⟨hwallet, hholds, hcounter, hother⟩ := hpurse.initialized hR hrent hcurve hpda hstep
    have hsubmit : B.submit L (initializeTx R program u pda) = (none, L') := by
      refine Charge.settle_eq_none.mpr ⟨hpay, hprocess, fun a ha => Rent.Steady.allows (Or.inl ?_)⟩
      have hmem : a = u ∨ a = pda := by
        simpa [Bank.taken, initializeTx, initializeIx, Action.send, Action.writable] using ha
      rcases hmem with rfl | rfl
      · exact hwallet.clear
      · exact hcounter
    rw [hsubmit]
    refine ⟨fun L₁ hL₁ => ?_, fun _ => rfl⟩
    cases hL₁
    refine ⟨⟨hwallet, fun m hm => ?_, fun hnone => ?_⟩, fun a ha hp => ?_⟩
    · cases hm
      exact hholds
    · cases hnone
    · exact (hother a ha hp).trans (Charge.apply_other ha)
  · rw [if_neg hok] at hprocess
    rw [show B.submit L (initializeTx R program u pda) = _ from
      Charge.settle_of_refused hpay hprocess]
    refine ⟨fun L₁ hL₁ => ?_, fun hc => ?_⟩
    · cases hL₁
    have habsent : (B.taken (initializeTx R program u pda)).apply L pda = .absent :=
      (Charge.apply_other (ne_pda hcurve hpda).symm).trans (h.vacant rfl hc)
    have hinit := hpurse.initializes hR hC hrent hpda habsent
    rw [hstep] at hinit
    exact absurd hinit hok

/-- **The increments of a user** land, as long as they fit. -/
theorem submit_increments (hcurve : R.derivation.isOnCurve u = true)
    (hpda : counterPda R.derivation u program = .ok (pda, bump)) {amounts : List UInt64}
    (hfit : count.toNat + (amounts.map UInt64.toNat).sum < 2 ^ 64)
    (h : Seat B calm u pda bump (some count)
      (n + B.fee (incrementsTx R program u pda amounts)) L) :
    ∃ L', B.submit L (incrementsTx R program u pda amounts) = (none, L') ∧
      Seat B calm u pda bump
        (some (UInt64.ofNat (count.toNat + (amounts.map UInt64.toNat).sum))) n L' ∧
      ∀ a, a ≠ u → a ≠ pda → L' a = L a := by
  have hne := ne_pda hcurve hpda
  obtain ⟨hpay, hpurse⟩ := h.purse.charge
    (show (incrementsTx R program u pda amounts).payer = u from rfl)
  have hholds : Holds R program ((B.taken (incrementsTx R program u pda amounts)).apply L)
      u pda bump count := (h.holds count rfl).congr (Charge.apply_data_owner pda)
  have hcharged : ∀ a, a ≠ u →
      (B.taken (incrementsTx R program u pda amounts)).apply L a = L a :=
    fun a ha => Charge.apply_other ha
  have hland := (process_increments hholds amounts).1 hfit
  have hcounted := holds_counted hholds (count.toNat + (amounts.map UInt64.toNat).sum)
  refine ⟨_, Charge.settle_eq_none.mpr ⟨hpay, hland, fun a ha => Rent.Steady.allows ?_⟩,
    ⟨hpurse.congr (Function.update_of_ne hne _ _), fun m hm => ?_, nofun⟩, fun a ha hp => ?_⟩
  · have hmem : a = u ∨ a = pda := by
      simp only [Bank.taken, incrementsTx, increments, List.mem_cons, List.mem_flatMap,
        List.mem_map] at ha
      rcases ha with rfl | ⟨_, ⟨amount, -, rfl⟩, ha⟩
      · exact Or.inl rfl
      · simpa [Action.send, ixIncrement, Action.writable, AccountMeta.new] using ha
    rcases hmem with rfl | rfl
    · exact Or.inr (by rw [counted, Function.update_of_ne hne]; exact ⟨rfl, rfl⟩)
    · refine Or.inr ⟨by rw [counted, Function.update_self], ?_⟩
      rw [hcounted.data, hholds.data, length_counterBytes, length_counterBytes]
  · cases hm
    exact hcounted
  · rw [counted, Function.update_of_ne hp, hcharged a ha]

/-- **An increment of somebody else's counter** is refused. -/
theorem submit_foreign (hv : Holds R program L v c bump count) (hne : u ≠ v) {amount : UInt64}
    (hpurse : Purse B.rent u (n + B.fee (incrementsTx R program u c [amount])) L)
    (hR : R.Lawful) :
    (B.submit L (incrementsTx R program u c [amount])).1
      = some (.instructionError (0, .err .invalidAccountOwner)) := by
  obtain ⟨hpay, -⟩ := hpurse.charge
    (show (incrementsTx R program u c [amount]).payer = u from rfl)
  have hholds : Holds R program ((B.taken (incrementsTx R program u c [amount])).apply L) v c bump
      count := hv.congr (Charge.apply_data_owner c)
  exact congrArg Prod.fst
    (Charge.settle_of_refused hpay ((process_foreign hR hholds).2 u amount hne))

end Seats

end BootcampSolana.CounterPda
