import Mathlib.Algebra.BigOperators.Group.Finset.Basic
import BootcampSolana.CounterPda.Transaction

/-!
# Where the lamports are

`initialize` moves the rent of an account from the user to the counter, and no instruction of the
program takes lamports out of a counter again.

* `run_rentExempt` — a counter is rent-exempt from the moment it exists, and its balance never falls
* `transactions_conserve` — calls and transfers move lamports and neither make nor lose any
-/

namespace BootcampSolana

/-- A payer is a wallet: the System Program debits what it owns, and only if it has no data. -/
structure Runtime.DebitsWallets (R : Runtime) : Prop where
  createAccount_source : ∀ {call L L'}, 0 < call.instruction.space →
    R.createAccount call L = .ok L' →
    (L call.instruction.source).data = [] ∧ (L call.instruction.source).owner = systemProgramId

theorem systemRuntime_debitsWallets {D : Derivation} {rent : Rent} :
    (systemRuntime D rent).DebitsWallets where
  createAccount_source := by
    intro call L L' hspace h
    have hne := (systemRuntime_lawful.createAccount_ok hspace h).1
    simp only [systemRuntime, systemCreateAccount] at h
    split at h
    · cases h
    · split at h
      · cases h
      · rcases halloc : allocateAndAssign call.instruction L with e | L₁
        · rw [halloc] at h
          cases h
        · obtain ⟨-, rfl⟩ := allocateAndAssign_eq_ok halloc
          rw [halloc] at h
          obtain ⟨hpayer, -⟩ := transferLamports_eq_ok h
          rw [Function.update_of_ne hne] at hpayer
          exact hpayer

namespace CounterPda

open Machine

variable {R : Runtime} {program u a : Pubkey} {L L' : Ledger} {bump : UInt8} {count : UInt64}
  {rent : Rent}

/-! ## Rent -/

/-- A call that succeeds is a run of the program that succeeds. -/
theorem execute_eq_ok {accounts : List AccountMeta} {data : Bytes}
    (h : execute R program L accounts data = (.ok (), L')) :
    ∃ m, processInstruction R program (accounts.map AccountMeta.toInfo) data (.ofLedger L)
      = (.ok (), m) := by
  unfold execute at h
  split at h
  · next m hm => exact ⟨m, hm⟩
  · next r m hne hm =>
    cases h
    exact ⟨m, hm⟩

/-- Who has paid for a counter had a wallet. -/
theorem wallet_of_initialised (hW : R.DebitsWallets) {user counter system : AccountMeta}
    {rest : List AccountMeta} {data : Bytes}
    (hdec : CounterIx.decode data = some .initializeCounter)
    (h : step R program L (.call (user :: counter :: system :: rest) data) = (.ok (), L')) :
    (L user.pubkey).data = [] := by
  obtain ⟨m, hm⟩ := execute_eq_ok h
  rw [processInstruction_eq, hdec] at hm
  change initializeCounter R program (user.toInfo :: counter.toInfo :: system.toInfo ::
    rest.map AccountMeta.toInfo) (.ofLedger L) = _ at hm
  rw [initializeCounter_eq _ (Memory.unborrowed_ofLedger L)] at hm
  -- every way out but the call to the System Program is an error
  repeat' split at hm
  all_goals try cases hm
  have hspace : 0 < counterLen := by decide
  next hc => exact (hW.createAccount_source hspace hc).1

/-- Nothing that can happen takes lamports out of an account of the program with data in it. -/
theorem Effect.lamports_le {act : Action R.derivation program} {r : Answer}
    (heff : Effect R program L act r L')
    (hwallet : ∀ user counter system rest data,
      act = .call (user :: counter :: system :: rest) data →
      CounterIx.decode data = some .initializeCounter → r = .ok () → (L user.pubkey).data = [])
    (howner : (L a).owner = program) (hdata : (L a).data ≠ []) :
    (L a).lamports ≤ (L' a).lamports := by
  cases heff with
  | idle => exact Nat.le_refl _
  | @initialised user counter system rest data bump rent decoded ready paid =>
    have hcounter : a ≠ counter.pubkey := by
      rintro rfl
      exact hdata ready.empty
    have huser : a ≠ user.pubkey := by
      rintro rfl
      exact hdata (hwallet _ _ _ _ _ rfl decoded rfl)
    exact Nat.le_of_eq (congrArg Account.lamports (created_other huser hcounter).symm)
  | @incremented user counter rest data amount decoded accepts =>
    by_cases ha : a = counter.pubkey
    · subst ha
      rw [CounterPda.incremented, Function.update_self]
    · rw [incremented_of_ne ha]
  | @moved source target amount L' moves =>
    obtain ⟨⟨hempty, -⟩, -, L₁, hL₁, rfl⟩ := transferLamports_eq_ok moves
    have hsource : a ≠ source := by
      rintro rfl
      exact hdata hempty
    have hsame : L₁ a = L a := by rw [hL₁, Function.update_of_ne hsource]
    by_cases ha : a = target
    · subst ha
      rw [Function.update_self, ← hsame]
      exact Nat.le_add_right _ _
    · rw [Function.update_of_ne ha, hsame]
  | @allocated address space empty unowned =>
    have ha : a ≠ address.1 := by
      rintro rfl
      exact hdata empty
    rw [Function.update_of_ne ha]
  | @elsewhere address account before after =>
    have ha : a ≠ address := by
      rintro rfl
      exact before howner
    rw [Function.update_of_ne ha]

theorem lamports_le_step (hR : R.Lawful) (hW : R.DebitsWallets) (act : Action R.derivation program)
    (howner : (L a).owner = program) (hdata : (L a).data ≠ []) :
    (L a).lamports ≤ ((step R program L act).2 a).lamports := by
  refine (step_effect hR L act).lamports_le ?_ howner hdata
  rintro user counter system rest data rfl hdec hok
  exact wallet_of_initialised hW hdec (Prod.ext hok rfl)

/-- A counter is new, or it was there before. -/
theorem Effect.holds_before (hK : Kept R program L) {act : Action R.derivation program} {r : Answer}
    (heff : Effect R program L act r L') (h : Holds R program L' u a bump count) :
    (∃ count₀, Holds R program L u a bump count₀) ∨
      ∃ user counter system rest data bump rent,
        act = .call (user :: counter :: system :: rest) data ∧
        a = counter.pubkey ∧ R.rent = .ok rent ∧
        Paid user.toInfo counter.toInfo (rent.minimumBalance counterLen) L ∧
        L' = created program user.pubkey counter.pubkey bump (rent.minimumBalance counterLen)
          L := by
  by_cases ht : act.target = some a
  swap
  · have hsame := heff.frame ht
    exact Or.inl ⟨count, h.congr ⟨hsame.1.symm, hsame.2.symm⟩⟩
  cases heff with
  | idle => exact Or.inl ⟨count, h⟩
  | @initialised user counter system rest data bump rent decoded ready paid =>
    cases ht
    exact Or.inr ⟨user, counter, system, rest, data, bump, rent, rfl, rfl, ready.rent, paid, rfl⟩
  | @incremented user counter rest data amount decoded accepts =>
    cases ht
    obtain ⟨bump', hh⟩ := hK.accepts accepts
    obtain ⟨-, rfl, rfl⟩ := h.unique (hh.incremented accepts).1
    exact Or.inl ⟨_, hh⟩
  | moved => cases ht
  | @allocated address space empty unowned =>
    cases ht
    exact absurd h.isPda address.2
  | elsewhere before after =>
    cases ht
    have howner := h.owner
    rw [Function.update_self] at howner
    exact absurd howner after

/-- Every counter has the rent of its 41 bytes. -/
structure Exempt (R : Runtime) (program : Pubkey) (rent : Rent) (L : Ledger) : Prop where
  kept : Kept R program L
  reserve : ∀ u a bump count, Holds R program L u a bump count →
    rent.minimumBalance counterLen ≤ (L a).lamports

theorem Exempt.step (hR : R.Lawful) (hW : R.DebitsWallets) (hrent : R.rent = .ok rent)
    (hE : Exempt R program rent L) (act : Action R.derivation program) :
    Exempt R program rent (step R program L act).2 where
  kept := hE.kept.effect (step_effect hR L act)
  reserve := by
    intro u a bump count h
    rcases (step_effect hR L act).holds_before hE.kept h with ⟨count₀, h₀⟩ |
      ⟨user, counter, system, rest, data, bump', rent', rfl, rfl, hrent', paid, hL'⟩
    · exact Nat.le_trans (hE.reserve u a bump count₀ h₀)
        (lamports_le_step hR hW act h₀.owner h₀.data_ne_nil)
    · cases hrent'.symm.trans hrent
      rw [hL', created_counter]
      exact Nat.le_add_left _ _

/--
**Rent.** In every state that can be reached from a ledger without accounts of the program, a
counter holds the minimum balance for its 41 bytes, and whatever happens next its balance does
not fall.
-/
theorem run_rentExempt (hR : R.Lawful) (hW : R.DebitsWallets) (hrent : R.rent = .ok rent)
    (hL : ∀ a, (L a).owner ≠ program) (acts : List (Action R.derivation program))
    (h : Holds R program (run (step R program) L acts) u a bump count)
    (more : List (Action R.derivation program)) :
    rent.minimumBalance counterLen ≤ (run (step R program) L acts a).lamports ∧
      (run (step R program) L acts a).lamports
        ≤ (run (step R program) L (acts ++ more) a).lamports := by
  have hstart : Exempt R program rent L :=
    ⟨kept_of_unowned hL, fun _ a _ _ h => absurd h.owner (hL a)⟩
  have hkeeps : Keeps (step R program) (fun _ => True) (Exempt R program rent) :=
    fun L act _ hE => hE.step hR hW hrent act
  have hE : Exempt R program rent (run (step R program) L acts) :=
    run_invariant hkeeps hstart fun _ _ => trivial
  refine ⟨hE.reserve u a bump count h, ?_⟩
  rw [run_append]
  generalize run (step R program) L acts = L₁ at h
  -- it stays a counter, so no step lowers it
  induction more generalizing L₁ count with
  | nil => exact Nat.le_refl _
  | cons act more ih =>
    obtain ⟨count', h'⟩ := h.run hR [act]
    exact Nat.le_trans (lamports_le_step hR hW act h.owner h.data_ne_nil) (ih _ h')

/-- `alice`'s counter, before and after `bob` sends it a lamport. -/
theorem run_rentExempt_alice :
    sampleRent.minimumBalance counterLen
        ≤ (run (step sampleRuntime sampleProgram) sampleLedger [.send aliceInitialize]
          aliceCounter).lamports ∧
      (run (step sampleRuntime sampleProgram) sampleLedger [.send aliceInitialize]
          aliceCounter).lamports
        ≤ (run (step sampleRuntime sampleProgram) sampleLedger
          ([.send aliceInitialize] ++ [.transfer bob aliceCounter 1]) aliceCounter).lamports :=
  have h : Holds sampleRuntime sampleProgram
      (run (step sampleRuntime sampleProgram) sampleLedger [.send aliceInitialize])
      alice aliceCounter 255 0 := ⟨by decide, by decide, by decide⟩
  run_rentExempt sampleRuntime_lawful systemRuntime_debitsWallets rfl sampleLedger_unowned
    [.send aliceInitialize] h [.transfer bob aliceCounter 1]

/-! ## Conservation -/

/-- The lamports of the accounts in `A`. -/
def lamportsOf (A : Finset Pubkey) (L : Ledger) : Nat := ∑ a ∈ A, (L a).lamports

/-- Everything the action can pay or charge is in `A`. -/
def Action.Within (A : Finset Pubkey) : Action R.derivation program → Prop
  | .call accounts _ => ∀ account ∈ accounts, account.pubkey ∈ A
  | .transfer source target _ => source ∈ A ∧ target ∈ A
  | .allocate _ _ => True
  | .elsewhere _ _ => False

instance (A : Finset Pubkey) (act : Action R.derivation program) : Decidable (act.Within A) :=
  match act with
  | .call accounts _ =>
    List.decidableBAll (fun account : AccountMeta => account.pubkey ∈ A) accounts
  | .transfer source target _ => inferInstanceAs (Decidable (source ∈ A ∧ target ∈ A))
  | .allocate _ _ => inferInstanceAs (Decidable True)
  | .elsewhere _ _ => inferInstanceAs (Decidable False)

variable {A : Finset Pubkey} {s t : Pubkey}

/-- Two accounts that are both counted may exchange lamports. -/
theorem lamportsOf_eq (hs : s ∈ A) (ht : t ∈ A) (hne : s ≠ t)
    (hsum : (L' s).lamports + (L' t).lamports = (L s).lamports + (L t).lamports)
    (hothers : ∀ a, a ≠ s → a ≠ t → (L' a).lamports = (L a).lamports) :
    lamportsOf A L' = lamportsOf A L := by
  have ht' : t ∈ A.erase s := Finset.mem_erase.mpr ⟨hne.symm, ht⟩
  unfold lamportsOf
  rw [← Finset.add_sum_erase A _ hs, ← Finset.add_sum_erase A _ hs,
    ← Finset.add_sum_erase _ _ ht', ← Finset.add_sum_erase _ _ ht', ← Nat.add_assoc,
    ← Nat.add_assoc, hsum]
  refine congrArg _ (Finset.sum_congr rfl fun a ha => ?_)
  have hat := Finset.mem_erase.mp ha
  exact hothers a (Finset.mem_erase.mp hat.2).1 hat.1

theorem lamportsOf_congr (h : ∀ a, (L' a).lamports = (L a).lamports) :
    lamportsOf A L' = lamportsOf A L := Finset.sum_congr rfl fun a _ => h a

theorem lamportsOf_transfer {amount : Nat} (hs : s ∈ A) (ht : t ∈ A)
    (h : transferLamports s t amount L = .ok L') : lamportsOf A L' = lamportsOf A L := by
  obtain ⟨-, hfunds, L₁, rfl, rfl⟩ := transferLamports_eq_ok h
  by_cases hne : s = t
  · subst hne
    refine lamportsOf_congr fun a => ?_
    by_cases ha : a = s
    · subst ha
      simp
      omega
    · simp [Function.update_of_ne ha]
  · refine lamportsOf_eq hs ht hne ?_ fun a has hat => ?_
    · simp [Function.update_of_ne hne, Function.update_of_ne (Ne.symm hne)]
      omega
    · simp [Function.update_of_ne has, Function.update_of_ne hat]

theorem lamportsOf_created {lamports : Nat} {c : Pubkey} (hu : u ∈ A) (hc : c ∈ A) (hne : u ≠ c)
    (hfunds : lamports ≤ (L u).lamports) :
    lamportsOf A (created program u c bump lamports L) = lamportsOf A L := by
  refine lamportsOf_eq hu hc hne ?_ fun a hau hac => ?_
  · rw [created_user hne, created_counter]
    show (L u).lamports - lamports + ((L c).lamports + lamports) = _
    omega
  · rw [created_other hau hac]

/-- One action moves lamports within `A`. -/
theorem lamportsOf_step (hR : R.Lawful) {act : Action R.derivation program} (hact : act.Within A) :
    lamportsOf A (step R program L act).2 = lamportsOf A L := by
  have heff := step_effect hR L act
  generalize (step R program L act).1 = r at heff
  generalize (step R program L act).2 = L' at heff ⊢
  cases heff with
  | idle => rfl
  | initialised decoded ready paid =>
    exact lamportsOf_created (hact _ List.mem_cons_self)
      (hact _ (List.mem_cons_of_mem _ List.mem_cons_self)) paid.distinct paid.funds
  | @incremented user counter rest data amount decoded accepts =>
    refine lamportsOf_congr fun a => ?_
    by_cases ha : a = counter.pubkey
    · subst ha
      rw [CounterPda.incremented, Function.update_self]
    · rw [incremented_of_ne ha]
  | moved moves => exact lamportsOf_transfer hact.1 hact.2 moves
  | @allocated address space empty unowned =>
    refine lamportsOf_congr fun a => ?_
    by_cases ha : a = address.1
    · subst ha
      rw [Function.update_self]
    · rw [Function.update_of_ne ha]
  | elsewhere => exact hact.elim

/--
**Conservation.** Whatever transactions do with a set of accounts, those that land and those that
fail, the accounts have together the lamports they had before. The instructions are those of the
program and of the System Program. Fees, and what other programs do, are no part of it.
-/
theorem transactions_conserve (hR : R.Lawful) (A : Finset Pubkey) (L : Ledger)
    (txs : List (Txn R program)) (htxs : ∀ tx ∈ txs, ∀ act ∈ tx, act.Within A) :
    lamportsOf A (run (process R program) L txs) = lamportsOf A L := by
  have hkeeps : Keeps (step R program) (Action.Within A)
      (fun L' => lamportsOf A L' = lamportsOf A L) :=
    fun L' act hact h => (lamportsOf_step hR hact).trans h
  exact run_invariant (hkeeps.batch accepted) rfl htxs

/-- What `alice` and `bob` had, the two and their counters have. -/
theorem transactions_conserve_alice :
    lamportsOf {alice, bob, aliceCounter, bobCounter, systemProgramId}
      (run (process sampleRuntime sampleProgram) sampleLedger sampleTxs)
        = lamportsOf {alice, bob, aliceCounter, bobCounter, systemProgramId} sampleLedger :=
  transactions_conserve sampleRuntime_lawful _ sampleLedger sampleTxs (by decide)

end CounterPda

end BootcampSolana
