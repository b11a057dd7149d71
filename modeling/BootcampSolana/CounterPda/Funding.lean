import BootcampSolana.CounterPda.Client

/-!
# Lamports at an address nobody has used

`initialize` takes an account for new when it has no data. The System Program takes one for
new when it has no lamports either, and anyone can send lamports anywhere. The two tests agree
on every state in which the counter's address has never been paid, and only there:

* `run_unblocked` — when `ix_initialize` succeeds, over runs of calls and transfers
* `run_blocked` — a transfer from anyone is enough for it not to
-/

namespace BootcampSolana.CounterPda

open Machine

variable {R : Runtime} {program u pda : Pubkey} {bump : UInt8} {rent : Rent} {L L' : Ledger}

/-- A call of the program or a transfer. -/
def Action.ordinary : Action R.derivation program → Bool
  | .call _ _ => true
  | .transfer _ _ _ => true
  | _ => false

/-- A transfer of something to `a`. -/
def Action.pays (a : Pubkey) : Action R.derivation program → Bool
  | .transfer _ target amount => target == a && amount != 0
  | _ => false

/-- `u` has no counter yet and can pay for one. -/
structure CanPay (rent : Rent) (L : Ledger) (u pda : Pubkey) : Prop where
  empty : (L pda).data = []
  owner : (L u).owner = systemProgramId
  data : (L u).data = []
  funds : rent.minimumBalance counterLen ≤ (L u).lamports

/-- The instruction returns `Ok` and leaves a fresh counter of `u`. -/
def Succeeds (R : Runtime) (program : Pubkey) (L : Ledger) (ix : Instruction) (u pda : Pubkey)
    (bump : UInt8) : Prop :=
  (step R program L (.send ix)).1 = .ok () ∧
    Holds R program (step R program L (.send ix)).2 u pda bump 0

/-! ## One state -/

theorem authorised (hfind : findProgramAddress R.derivation [seedPrefix, u.bytes] program
      = some (pda, bump)) (lamports : Nat) :
    (createCounter program ⟨u, true, true⟩ ⟨pda, false, true⟩ ⟨systemProgramId, false, false⟩ bump
      lamports).Authorised R.derivation := by
  have hcreate : createProgramAddress R.derivation [seedPrefix, u.bytes, [bump]] program
      = .ok pda := (findProgramAddress_eq_some hfind).1
  refine ⟨⟨⟨u, true, true⟩, List.mem_cons_self, rfl, rfl, rfl⟩, ⟨⟨pda, false, true⟩, ?_, rfl, rfl⟩,
    ⟨_, List.mem_singleton.mpr rfl, hcreate⟩, ?_, ⟨⟨systemProgramId, false, false⟩, ?_, rfl⟩⟩
  · exact List.mem_cons_of_mem _ List.mem_cons_self
  · intro seeds hs
    rw [List.mem_singleton.mp hs]
    exact ⟨pda, hcreate⟩
  · exact List.mem_cons_of_mem _ (List.mem_cons_of_mem _ List.mem_cons_self)

/-- An `initialize` that succeeds has found its account unpaid. -/
theorem Effect.unpaid {act : Action R.derivation program} {r : Answer}
    (h : Effect R program L act r L') {user counter : AccountMeta}
    (hreq : act.request = some (user, counter, .initializeCounter)) (hr : r = .ok ()) :
    (L counter.pubkey).lamports = 0 ∧ (L counter.pubkey).owner = systemProgramId := by
  cases h with
  | idle failed => exact absurd hr failed
  | initialised decoded _ paid =>
    simp only [Action.request, decoded, Option.map_some, Option.some.injEq, Prod.mk.injEq,
      and_true] at hreq
    obtain ⟨rfl, rfl⟩ := hreq
    exact ⟨paid.unfunded, paid.unowned⟩
  | incremented decoded => simp [Action.request, decoded] at hreq
  | moved => cases hreq
  | allocated => cases hreq
  | elsewhere => cases hreq

/-- The System Program creates the account of a user who can pay, if nobody has paid before. -/
theorem createAccount_unpaid (hC : R.Creates)
    (hfind : findProgramAddress R.derivation [seedPrefix, u.bytes] program = some (pda, bump))
    (hrent : R.rent = .ok rent) (h : CanPay rent L u pda) (hlam : (L pda).lamports = 0)
    (hown : (L pda).owner = systemProgramId) :
    ∃ L', R.createAccount (createCounter program ⟨u, true, true⟩ ⟨pda, false, true⟩
      ⟨systemProgramId, false, false⟩ bump (rent.minimumBalance counterLen)) L = .ok L' := by
  -- rent is not free, and the address is empty
  have hne : u ≠ pda := by
    rintro rfl
    have hpos := hC.rent_pos hrent counterLen
    have hfunds := h.funds
    omega
  have habsent : L pda = .absent := by
    rcases hacc : L pda with ⟨lamports, data, owner⟩
    have hdata := h.empty
    rw [hacc] at hlam hown hdata
    cases hlam
    cases hown
    cases hdata
    rfl
  have hspace : counterLen ≤ maxPermittedDataIncrease := by decide
  exact hC.createAccount_succeeds (authorised hfind _) hne habsent h.owner h.data h.funds hspace

/-- **The exact condition**: the address holds no lamports and is still the System Program's. -/
theorem succeeds_iff (hR : R.Lawful) (hC : R.Creates) {ix : Instruction}
    (hix : ixInitialize R.derivation program u = .ok ix)
    (hpda : counterPda R.derivation u program = .ok (pda, bump)) (hrent : R.rent = .ok rent)
    (h : CanPay rent L u pda) :
    Succeeds R program L ix u pda bump ↔
      (L pda).lamports = 0 ∧ (L pda).owner = systemProgramId := by
  have hfind := counterPda_eq_ok.mp hpda
  constructor
  · rintro ⟨hok, -⟩
    have heff : Effect R program L (.send ix) _ _ := step_effect hR L (.send ix)
    obtain ⟨pda', bump', hpda', rfl⟩ := ixInitialize_eq hix
    cases hpda'.symm.trans hpda
    refine heff.unpaid (?_ : _ = some (⟨u, true, true⟩, ⟨pda, false, true⟩, _)) hok
    rfl
  · rintro ⟨hlam, hown⟩
    obtain ⟨L', hcreate⟩ := createAccount_unpaid hC hfind hrent h hlam hown
    have hok : (step R program L (.send ix)).1 = .ok () := by
      obtain ⟨pda', bump', hpda', rfl⟩ := ixInitialize_eq hix
      cases hpda'.symm.trans hpda
      have hready : Ready R program ⟨u, true, true⟩ ⟨pda, false, true⟩
          ⟨systemProgramId, false, false⟩ bump rent L := ⟨rfl, rfl, hfind, h.empty, hrent⟩
      have hinit := initializeCounter_ok [] hR (Memory.unborrowed_ofLedger L) hready hcreate
      have hproc : processInstruction R program (List.map AccountMeta.toInfo
          [⟨u, true, true⟩, ⟨pda, false, true⟩, ⟨systemProgramId, false, false⟩]) [0]
          (.ofLedger L) = _ := hinit
      have hkept : ReadonlyKept
          [⟨u, true, true⟩, ⟨pda, false, true⟩, ⟨systemProgramId, false, false⟩] L
          (created program u pda bump (rent.minimumBalance counterLen) L) := by
        refine readonlyKept_of_writable fun a ha => ?_
        by_cases hu : a = u
        · exact ⟨⟨u, true, true⟩, List.mem_cons_self, hu.symm, rfl⟩
        · have hp : a = pda := by
            by_contra hp
            exact ha (created_other hu hp)
          exact ⟨⟨pda, false, true⟩, List.mem_cons_of_mem _ List.mem_cons_self, hp.symm, rfl⟩
      exact congrArg Prod.fst ((execute_of_ok hproc).trans (if_pos hkept))
    exact ⟨hok, holds_of_ixInitialize hR hix hpda (Prod.ext hok rfl)⟩

/-! ## Runs -/

/-- As long as it has no data, it has never been paid. -/
def Unpaid (pda : Pubkey) (L : Ledger) : Prop :=
  (L pda).data = [] → (L pda).lamports = 0 ∧ (L pda).owner = systemProgramId

theorem Unpaid.effect (hU : Unpaid pda L) {act : Action R.derivation program} {r : Answer}
    (heff : Effect R program L act r L') (hact : act.ordinary = true)
    (hpay : act.pays pda = false) : Unpaid pda L' := by
  intro hempty
  cases heff with
  | idle => exact hU hempty
  | @initialised user counter system rest data bump rent decoded ready paid =>
    by_cases hc : pda = counter.pubkey
    · subst hc
      rw [created_counter] at hempty
      exact absurd hempty counterBytes_ne_nil
    · have hsame := @created_data_owner program bump user.pubkey counter.pubkey pda
        (rent.minimumBalance counterLen) L hc
      rw [hsame.1] at hempty
      obtain ⟨hlam, hown⟩ := hU hempty
      refine ⟨?_, hsame.2.trans hown⟩
      by_cases hu : pda = user.pubkey
      · subst hu
        rw [created_user hc]
        show (L user.pubkey).lamports - _ = 0
        omega
      · rw [created_other hu hc]
        exact hlam
  | @incremented user counter rest data amount decoded accepts =>
    by_cases hc : pda = counter.pubkey
    · subst hc
      exfalso
      rw [CounterPda.incremented, Function.update_self] at hempty
      have hlen := congrArg List.length hempty
      simp [copied] at hlen
    · rw [incremented_of_ne hc] at hempty ⊢
      exact hU hempty
  | @moved source target amount L' moves =>
    have hsame := transferLamports_data_owner (a := pda) moves
    rw [hsame.1] at hempty
    obtain ⟨hlam, hown⟩ := hU hempty
    have hzero : target = pda → amount = 0 := by
      rintro rfl
      simpa [Action.pays] using hpay
    have hle := transferLamports_lamports_le moves hzero
    exact ⟨by omega, hsame.2.trans hown⟩
  | allocated => cases hact
  | elsewhere => cases hact

theorem unpaid_run (hR : R.Lawful) (hU : Unpaid pda L) {acts : List (Action R.derivation program)}
    (hacts : ∀ act ∈ acts, act.ordinary = true ∧ act.pays pda = false) :
    Unpaid pda (run (step R program) L acts) := by
  have hkeeps : Keeps (step R program) (fun act => act.ordinary = true ∧ act.pays pda = false)
      (Unpaid pda) := fun L act hact hU => hU.effect (step_effect hR L act) hact.1 hact.2
  exact run_invariant hkeeps hU hacts

/--
**When a user can initialise.** After any calls and transfers, for a user who has no counter
yet and can pay for one, `ix_initialize` succeeds if and only if the counter's address holds no
lamports. In particular it does in every state that is reached from an unpaid address without
a transfer of lamports to it, whatever else has happened.
-/
theorem run_unblocked (hR : R.Lawful) (hC : R.Creates) {ix : Instruction}
    (hix : ixInitialize R.derivation program u = .ok ix)
    (hpda : counterPda R.derivation u program = .ok (pda, bump)) (hrent : R.rent = .ok rent)
    (acts : List (Action R.derivation program)) (hacts : ∀ act ∈ acts, act.ordinary = true)
    (h : CanPay rent (run (step R program) L acts) u pda) :
    (Succeeds R program (run (step R program) L acts) ix u pda bump ↔
      (run (step R program) L acts pda).lamports = 0 ∧
      (run (step R program) L acts pda).owner = systemProgramId) ∧
    ((L pda).lamports = 0 → (L pda).owner = systemProgramId →
      (∀ act ∈ acts, act.pays pda = false) →
      Succeeds R program (run (step R program) L acts) ix u pda bump) := by
  have hiff := succeeds_iff hR hC hix hpda hrent h
  refine ⟨hiff, fun hlam hown hpays => hiff.mpr ?_⟩
  have hU : Unpaid pda L := fun _ => ⟨hlam, hown⟩
  exact unpaid_run hR hU (fun act hact => ⟨hacts act hact, hpays act hact⟩) h.empty

/-- `bob` initialises and counts, and `alice` can still initialise. -/
theorem run_unblocked_alice :
    Succeeds sampleRuntime sampleProgram
      (run (step sampleRuntime sampleProgram) sampleLedger
        [.transfer alice bob 5,
          .call [⟨bob, true, true⟩, ⟨bobCounter, false, true⟩, ⟨systemProgramId, false, false⟩] [0]])
      aliceInitialize alice aliceCounter 255 := by
  have hrent : sampleRuntime.rent = .ok sampleRent := rfl
  refine (run_unblocked sampleRuntime_lawful sampleRuntime_creates (by decide) (by decide) hrent _
    (by decide) ?_).2 rfl rfl (by decide)
  exact ⟨by decide, by decide, by decide, by decide⟩

/--
**Lamports in the way.** `bob` sends some to the address of `alice`'s counter: no more than what an
account without data has to keep, which is the least that a bank lets him send there.
-/
theorem run_blocked :
    sampleRent.minimumBalance 0 = 890880 ∧ CanPay sampleRent
      (run (step sampleRuntime sampleProgram) sampleLedger [.transfer bob aliceCounter 890880])
      alice aliceCounter ∧
    ixInitialize sampleRuntime.derivation sampleProgram alice = .ok aliceInitialize ∧
    (step sampleRuntime sampleProgram
      (run (step sampleRuntime sampleProgram) sampleLedger [.transfer bob aliceCounter 890880])
      (.send aliceInitialize)).1 = .err accountAlreadyInUse := by
  refine ⟨?_, ⟨?_, ?_, ?_, ?_⟩, ?_, ?_⟩
  all_goals decide

end BootcampSolana.CounterPda
