import BootcampSolana.CounterPda.Accounting

/-!
# Users do not see one another

What is done to a user's counter, and what the user is told about it, depends on that user's
own calls alone.

* `Holds.own` — an increment of one's own counter is decided by the count in it
* `Holds.unmoved` — nothing else that can happen changes the counter

These two are all that `Machine.run_eq_of_visible` asks of a relation between ledgers.
-/

namespace BootcampSolana.CounterPda

open Machine

variable {R : Runtime} {programId : Pubkey} {L L' : Ledger} {u v c d : Pubkey} {bump : UInt8}
  {count : UInt64}

/-! ## A user at the user's own counter -/

/-- It passes every check of `increment`. -/
theorem Holds.inOrder (h : Holds R programId L u c bump count) {user counter : AccountInfo}
    (hu : user.key = u) (hs : user.isSigner = true) (hc : counter.key = c) :
    InOrder R programId user counter L := by
  subst hu hc
  refine ⟨hs, h.owner, ?_, ?_, ⟨bump, ?_, (findProgramAddress_eq_some h.derived).1⟩⟩
  · rw [h.data, length_counterBytes]
  · rw [h.data, window_authority]
  · rw [h.data, getElem_bump]

/-- The ledger with another count in the counter. -/
theorem incremented_of_holds (h : Holds R programId L u c bump count) (amount : UInt64) :
    incremented c amount L =
      Function.update L c { L c with data := counterBytes (count + amount) u bump } := by
  rw [incremented, h.data, countOf_counterBytes, copied_counterBytes]

/-- The call may write to `c`. -/
def Action.writes (c : Pubkey) : Action R.derivation programId → Bool
  | .call accounts _ => Writable accounts c
  | _ => false

/-- What an own increment answers, and the count it leaves. -/
def ownAnswer (writes : Bool) (count amount : UInt64) : Answer × UInt64 :=
  if count.toNat + amount.toNat < 2 ^ 64 then
    if writes ∨ amount = 0 then (.ok (), count + amount) else (.err .readonlyDataModified, count)
  else (.err .arithmeticOverflow, count)

theorem update_counterBytes_self (h : Holds R programId L u c bump count) :
    Function.update L c { L c with data := counterBytes count u bump } = L := by
  rw [← h.data]
  exact Function.update_eq_self c L

/-- An increment changes the counter, unless it adds nothing. -/
theorem readonlyKept_incremented (h : Holds R programId L u c bump count) {amount : UInt64}
    {accounts : List AccountMeta} {m : AccountMeta} (hm : m ∈ accounts) (hc : m.pubkey = c) :
    ReadonlyKept accounts L
        (Function.update L c { L c with data := counterBytes (count + amount) u bump }) ↔
      Writable accounts c ∨ amount = 0 := by
  constructor
  · intro hkept
    by_contra hno
    rw [not_or] at hno
    have hsame := hkept m hm (hc ▸ hno.1)
    rw [hc, Function.update_self] at hsame
    have hdata := (congrArg Account.data hsame).trans h.data
    have hsum : count + amount = count + 0 := (counterBytes_inj hdata).1.trans (by simp)
    exact hno.2 ((UInt64.add_right_inj count).mp hsum)
  · rintro (hw | rfl)
    · refine readonlyKept_of_writable fun a ha => ?_
      have hac : a = c := by
        by_contra hne
        exact ha (Function.update_of_ne hne _ _)
      exact hac ▸ hw
    · rw [UInt64.add_zero, update_counterBytes_self h]
      exact fun _ _ _ => rfl

/--
**An own increment** is decided by the count and by whether it may write: it succeeds as long as
the sum fits, and is an overflow otherwise.
-/
theorem Holds.own (h : Holds R programId L u c bump count) {act : Action R.derivation programId}
    {amount : UInt64} (hact : act.ownIncrement u c = some amount) :
    step R programId L act =
      ((ownAnswer (act.writes c) count amount).1, Function.update L c
        { L c with data := counterBytes (ownAnswer (act.writes c) count amount).2 u bump }) := by
  obtain ⟨user, counter, rest, data, rfl, hdec, hu, hs, hc⟩ := ownIncrement_eq_some.mp hact
  have hm := Memory.unborrowed_ofLedger L
  have heq : processInstruction R programId ((user :: counter :: rest).map AccountMeta.toInfo) data
      (.ofLedger L) = increment R programId (user.toInfo :: counter.toInfo ::
        rest.map AccountMeta.toInfo) amount (.ofLedger L) := by
    rw [processInstruction_eq, hdec]
    rfl
  have hin : InOrder R programId user.toInfo counter.toInfo L := h.inOrder hu hs hc
  have hcount : countOf (L counter.toInfo.key).data = count := by
    show countOf (L counter.pubkey).data = count
    rw [hc, h.data, countOf_counterBytes]
  show execute R programId L (user :: counter :: rest) data = _
  by_cases hfit : count.toNat + amount.toNat < 2 ^ 64
  · have hok := heq.trans (increment_of_accepts _ hm ⟨hin, hcount.symm ▸ hfit⟩)
    rw [show counter.toInfo.key = c from hc, show (Memory.ofLedger L).accounts = L from rfl,
      incremented_of_holds h amount] at hok
    have hkept := @readonlyKept_incremented R programId L u c bump count h amount
      (user :: counter :: rest) counter (List.mem_cons_of_mem _ List.mem_cons_self) hc
    rw [execute_of_ok hok]
    have hwrites : Action.writes c (.call (user :: counter :: rest) data :
        Action R.derivation programId) = true ∨ amount = 0 ↔
          Writable (user :: counter :: rest) c ∨ amount = 0 := by
      simp [Action.writes]
    by_cases hw : Writable (user :: counter :: rest) c ∨ amount = 0
    · rw [if_pos (hkept.mpr hw), ownAnswer, if_pos hfit, if_pos (hwrites.mpr hw)]
    · rw [if_neg (hkept.not.mpr hw), ownAnswer, if_pos hfit, if_neg (hwrites.not.mpr hw),
        update_counterBytes_self h]
  · rw [ownAnswer, if_neg hfit, update_counterBytes_self h]
    rw [← hcount] at hfit
    exact execute_of_not_ok (heq.trans (increment_of_overflow _ hm hin hfit)) nofun

/-- Nothing but an own increment changes a counter. -/
theorem Holds.unmoved (h : Holds R programId L u c bump count)
    {act : Action R.derivation programId} {r : Answer} (heff : Effect R programId L act r L')
    (hact : act.ownIncrement u c = none) : Holds R programId L' u c bump count := by
  by_cases ht : act.target = some c
  swap
  · exact h.congr (heff.frame ht)
  cases heff with
  | idle => exact h
  | @initialised user counter system rest data bump rent decoded ready paid =>
    cases ht
    -- it is not empty
    exact absurd ready.empty h.data_ne_nil
  | @incremented user counter rest data amount decoded accepts =>
    cases ht
    -- it names another user
    have hauth := accepts.authority
    change window (L counter.pubkey).data 8 40 = user.pubkey.bytes at hauth
    rw [h.data, window_authority] at hauth
    have hown : (Action.call (user :: counter :: rest) data : Action R.derivation programId).ownIncrement
        u counter.pubkey = some amount :=
      ownIncrement_eq_some.mpr ⟨user, counter, rest, data, rfl, decoded,
        (Pubkey.bytes_inj.mp hauth).symm, accepts.signed, rfl⟩
    rw [hact] at hown
    cases hown
  | moved => cases ht
  | @allocated address space =>
    cases ht
    exact absurd h.isPda address.2
  | elsewhere before =>
    cases ht
    exact absurd h.owner before

theorem ownIncrement_of_not_signedBy {act : Action R.derivation programId}
    (h : act.signedBy u = false) : act.ownIncrement u c = none := by
  rcases hown : act.ownIncrement u c with _ | amount
  · rfl
  · rw [signedBy_of_ownIncrement hown] at h
    cases h

/-! ## Two runs -/

/-- Both ledgers hold the same counter of `u`. -/
def SameCounter (R : Runtime) (programId u c : Pubkey) (bump : UInt8) (L L' : Ledger) : Prop :=
  ∃ count, Holds R programId L u c bump count ∧ Holds R programId L' u c bump count

/-- An own increment that succeeds leaves the counter with the sum. -/
theorem Holds.update (h : Holds R programId L u c bump count) (count' : UInt64) :
    Holds R programId
      (Function.update L c { L c with data := counterBytes count' u bump }) u c bump count' where
  derived := h.derived
  owner := by
    rw [Function.update_self]
    exact h.owner
  data := by rw [Function.update_self]

theorem unwinding (hR : R.Lawful) (programId u c : Pubkey) (bump : UInt8) :
    Unwinding (step R programId) (SameCounter R programId u c bump) (Action.signedBy u)
      (fun act => (act.ownIncrement u c).isSome) where
  seen_visible := by
    intro act hact
    obtain ⟨amount, hown⟩ := Option.isSome_iff_exists.mp hact
    exact signedBy_of_ownIncrement hown
  invisible := by
    rintro L L' act ⟨count, h, h'⟩ hact
    exact ⟨count, h.unmoved (step_effect hR L act) (ownIncrement_of_not_signedBy hact), h'⟩
  both := by
    rintro L L' act ⟨count, h, h'⟩ -
    rcases hown : act.ownIncrement u c with _ | amount
    · exact ⟨count, h.unmoved (step_effect hR L act) hown, h'.unmoved (step_effect hR L' act) hown⟩
    · -- both have the same count, so both take it or neither does
      rw [h.own hown, h'.own hown]
      exact ⟨_, h.update _, h'.update _⟩
  output := by
    rintro L L' act ⟨count, h, h'⟩ hact
    obtain ⟨amount, hown⟩ := Option.isSome_iff_exists.mp hact
    rw [h.own hown, h'.own hown]

/-! ## Two users -/

/-- A call of `u` with `u`'s own counter as the second account. -/
structure OwnCall (u c : Pubkey) (act : Action R.derivation programId) : Prop where
  accounts : ∃ user counter rest data, act = .call (user :: counter :: rest) data ∧
    user.pubkey = u ∧ user.isSigner = true ∧ counter.pubkey = c

/-- On an initialised counter, a call that is not an increment answers the same on every ledger. -/
theorem OwnCall.answer {act : Action R.derivation programId} (hact : OwnCall u c act)
    (hno : act.ownIncrement u c = none) (bump : UInt8) (count : UInt64) :
    ∃ r, ∀ L, Holds R programId L u c bump count → step R programId L act = (r, L) := by
  obtain ⟨user, counter, rest, data, rfl, hu, hs, hc⟩ := hact.accounts
  have hexec : ∀ (e : ProgramError) (L : Ledger),
      processInstruction R programId ((user :: counter :: rest).map AccountMeta.toInfo) data
        (.ofLedger L) = (.err e, .ofLedger L) →
      step R programId L (.call (user :: counter :: rest) data) = (.err e, L) :=
    fun e L h => execute_of_not_ok h nofun
  rcases hdec : CounterIx.decode data with _ | _ | amount
  · refine ⟨.err .invalidInstructionData, fun L hL => hexec _ L ?_⟩
    rw [processInstruction_eq, hdec]
    rfl
  · rcases rest with _ | ⟨system, tail⟩
    · refine ⟨.err .notEnoughAccountKeys, fun L hL => hexec _ L ?_⟩
      rw [processInstruction_eq, hdec]
      rfl
    · by_cases hsys : system.pubkey = systemProgramId
      · refine ⟨.err .accountAlreadyInitialized, fun L hL => hexec _ L ?_⟩
        subst hu hc
        have hfind : findProgramAddress R.derivation [seedPrefix, user.toInfo.key.bytes] programId
            = some (counter.toInfo.key, bump) := hL.derived
        rw [processInstruction_eq, hdec]
        refine (initializeCounter_eq _ (Memory.unborrowed_ofLedger L)).trans ?_
        rw [if_pos (show user.toInfo.isSigner = true from hs),
          if_pos (show system.toInfo.key = _ from hsys), hfind]
        exact (if_pos rfl).trans (if_neg hL.data_ne_nil)
      · refine ⟨.err .incorrectProgramId, fun L hL => hexec _ L ?_⟩
        rw [processInstruction_eq, hdec]
        refine (initializeCounter_eq _ (Memory.unborrowed_ofLedger L)).trans ?_
        rw [if_pos (show user.toInfo.isSigner = true from hs)]
        exact if_neg hsys
  · exfalso
    rw [ownIncrement_eq_some.mpr ⟨user, counter, rest, data, rfl, hdec, hu, hs, hc⟩] at hno
    cases hno

/-- An own call is a function of the count: its answer, and the count it leaves. -/
theorem OwnCall.effect {act : Action R.derivation programId} (hact : OwnCall u c act)
    (bump : UInt8) (count : UInt64) :
    ∃ r count', ∀ L, Holds R programId L u c bump count → step R programId L act =
      (r, Function.update L c { L c with data := counterBytes count' u bump }) := by
  rcases hown : act.ownIncrement u c with _ | amount
  · obtain ⟨r, hr⟩ := hact.answer hown bump count
    refine ⟨r, count, ?_⟩
    intro L h
    rw [update_counterBytes_self h]
    exact hr L h
  · exact ⟨_, _, fun L h => h.own hown⟩

/-- Two users have two counters. -/
theorem Holds.ne {bump' : UInt8} {count' : UInt64} (h : Holds R programId L u c bump count)
    (h' : Holds R programId L v d bump' count') (hne : u ≠ v) : c ≠ d := by
  rintro rfl
  exact hne (h.unique h').2.1

/-- **Own calls of different users commute**, and neither sees whether the other came first. -/
theorem OwnCall.commute {bump' : UInt8} {count' : UInt64}
    {act act' : Action R.derivation programId} (hact : OwnCall u c act) (hact' : OwnCall v d act')
    (h : Holds R programId L u c bump count) (h' : Holds R programId L v d bump' count')
    (hne : u ≠ v) :
    (step R programId (step R programId L act').2 act).1 = (step R programId L act).1 ∧
    (step R programId (step R programId L act).2 act').1 = (step R programId L act').1 ∧
    (step R programId (step R programId L act).2 act').2
      = (step R programId (step R programId L act').2 act).2 := by
  have hcd : c ≠ d := h.ne h' hne
  obtain ⟨r, n, hr⟩ := hact.effect bump count
  obtain ⟨r', n', hr'⟩ := hact'.effect bump' count'
  rw [hr L h, hr' L h']
  -- each call leaves the other's counter as the other call expects it
  have hafter : Holds R programId
      (Function.update L d { L d with data := counterBytes n' v bump' }) u c bump count :=
    h.congr (by rw [Function.update_of_ne hcd]; exact ⟨rfl, rfl⟩)
  have hafter' : Holds R programId
      (Function.update L c { L c with data := counterBytes n u bump }) v d bump' count' :=
    h'.congr (by rw [Function.update_of_ne hcd.symm]; exact ⟨rfl, rfl⟩)
  rw [hr _ hafter, hr' _ hafter', Function.update_of_ne hcd, Function.update_of_ne hcd.symm]
  exact ⟨rfl, rfl, Function.update_comm hcd _ _ _⟩

/-! ## Isolation -/

/--
**Isolation.** On a ledger that holds a counter of `u`:

* two runs with the same calls by `u` leave the same bytes in it and give the same answers to
  `u`'s increments of it, whatever else they contain
* an action that is not a call by `u` leaves its bytes and its owner alone
* a call by `u` on it commutes with a call by another user on that user's own counter
-/
theorem run_isolated (hR : R.Lawful) (h : Holds R programId L u c bump count) :
    (∀ acts acts', acts.filter (Action.signedBy u) = acts'.filter (Action.signedBy u) →
      (run (step R programId) L acts c).data = (run (step R programId) L acts' c).data ∧
      observe (fun act => (act.ownIncrement u c).isSome) (trace (step R programId) L acts)
        = observe (fun act => (act.ownIncrement u c).isSome) (trace (step R programId) L acts')) ∧
    (∀ act : Action R.derivation programId, act.signedBy u = false →
      ((step R programId L act).2 c).data = (L c).data ∧
      ((step R programId L act).2 c).owner = (L c).owner) ∧
    (∀ v d bump' count', u ≠ v → Holds R programId L v d bump' count' →
      ∀ act act' : Action R.derivation programId, OwnCall u c act → OwnCall v d act' →
      (step R programId (step R programId L act').2 act).1 = (step R programId L act).1 ∧
      (step R programId (step R programId L act).2 act').1 = (step R programId L act').1 ∧
      (step R programId (step R programId L act).2 act').2
        = (step R programId (step R programId L act').2 act).2) := by
  refine ⟨?_, ?_, ?_⟩
  · intro acts acts' hvis
    have hdata : ∀ s t : Ledger, SameCounter R programId u c bump s t → (s c).data = (t c).data := by
      rintro s t ⟨n, hs, ht⟩
      rw [hs.data, ht.data]
    exact run_eq_of_visible (fun L : Ledger => (L c).data) (unwinding hR programId u c bump) hdata
      ⟨count, h, h⟩ hvis
  · intro act hact
    have h' := h.unmoved (step_effect hR L act) (ownIncrement_of_not_signedBy hact)
    rw [h.data, h.owner, h'.data, h'.owner]
    exact ⟨rfl, rfl⟩
  · intro v d bump' count' hne h' act act' hact hact'
    exact hact.commute hact' h h' hne

theorem fiveLedger_holds : Holds sampleRuntime sampleProgram fiveLedger alice aliceCounter 255 5 where
  derived := by decide
  owner := by decide
  data := by decide

/-- `bob` on `alice`'s counter, and a lamport sent to it, do not change what `alice` makes of it. -/
theorem run_isolated_alice :
    ((run (step sampleRuntime sampleProgram) fiveLedger
      [.call [⟨bob, true, true⟩, ⟨aliceCounter, false, true⟩] (1 :: U64.toLeBytes 9),
        .transfer bob aliceCounter 1,
        .call [⟨alice, true, true⟩, ⟨aliceCounter, false, true⟩] (1 :: U64.toLeBytes 37)])
      aliceCounter).data = counterBytes 42 alice 255 := by
  obtain ⟨h, -, -⟩ := run_isolated sampleRuntime_lawful fiveLedger_holds
  have hsame := (h
    [.call [⟨bob, true, true⟩, ⟨aliceCounter, false, true⟩] (1 :: U64.toLeBytes 9),
      .transfer bob aliceCounter 1,
      .call [⟨alice, true, true⟩, ⟨aliceCounter, false, true⟩] (1 :: U64.toLeBytes 37)]
    [.call [⟨alice, true, true⟩, ⟨aliceCounter, false, true⟩] (1 :: U64.toLeBytes 37)] rfl).1
  rw [hsame]
  decide

end BootcampSolana.CounterPda
