import BootcampSolana.CounterPda.Increment

/-!
# What `initialize` does

The instruction crosses a call into the System Program. Before it, five checks and two
lookups can stop it; after it, nothing can: the account it comes back to has exactly 41
bytes, no one holds its buffer, and the three writes cover all of them.

So the memory is either the one it was given, or the one in which the counter has been
created, paid for and written (`initializeCounter_cases`).
-/

namespace BootcampSolana.CounterPda

variable {R : Runtime} {programId : Pubkey} {user counter system : AccountInfo} {bump : UInt8}
  {rent : Rent} {m : Memory}

/-! ## The writes -/

/-- Three writes that meet end to end leave none of the old bytes. -/
theorem writes_cover {d z k : Bytes} (hd : d.length = counterLen) (hz : z.length = 8)
    (hk : k.length = 32) :
    (copied (copied d 0 8 z) 8 40 k).set 40 bump = z ++ k ++ [bump] := by
  have hlen : d.length = 41 := hd
  obtain ⟨last, hlast⟩ : ∃ b, d.drop 40 = [b] :=
    List.length_eq_one_iff.mp (by rw [List.length_drop]; omega)
  have h1 : copied d 0 8 z = z ++ d.drop 8 := by simp [copied]
  have h2 : (z ++ d.drop 8).take 8 = z := by rw [← hz, List.take_left']; rfl
  have h3 : (z ++ d.drop 8).drop 40 = [last] := by
    rw [List.drop_append, hz, List.drop_eq_nil_of_le (by omega), List.nil_append, List.drop_drop,
      ← hlast]
  rw [h1, copied, h2, h3, List.set_append_right _ _ (by simp [hz, hk])]
  simp [hz, hk]

theorem writeCounter_apply (hlen : (m.accounts counter.key).data.length = counterLen) :
    writeCounter user counter bump m =
      (.ok (), m.setData counter.key (counterBytes 0 user.key bump)) := by
  have hlen' : (m.accounts counter.key).data.length = 41 := hlen
  have hl1 : (copied (m.accounts counter.key).data 0 8 (U64.toLeBytes 0)).length = 41 := by
    simp [copied]; omega
  have hl2 : (copied (copied (m.accounts counter.key).data 0 8 (U64.toLeBytes 0)) 8 40
      user.key.bytes).length = 41 := by
    rw [copied, List.length_append, List.length_append, List.length_take, List.length_drop, hl1,
      user.key.length_bytes]
    omega
  simp only [writeCounter, Prog.bind_apply]
  rw [AccountInfo.copyFromSlice_apply (by omega) (by omega) (by simp)]
  simp only
  rw [AccountInfo.copyFromSlice_apply (by omega) (by rw [Memory.setData_data]; omega) (by simp)]
  simp only [Memory.setData_data]
  rw [AccountInfo.setByte_apply (by rw [Memory.setData_data]; omega)]
  simp only [Memory.setData_data, Memory.setData_setData]
  rw [writes_cover hlen (U64.length_toLeBytes 0) user.key.length_bytes, counterBytes]

/-! ## The condition and the effect -/

/-- What `initialize` asks before it calls the System Program. -/
structure Ready (R : Runtime) (programId : Pubkey) (user counter system : AccountInfo)
    (bump : UInt8) (rent : Rent) (L : Ledger) : Prop where
  signed : user.isSigner = true
  system : system.key = systemProgramId
  derived : findProgramAddress R.derivation [seedPrefix, user.key.bytes] programId
    = some (counter.key, bump)
  empty : (L counter.key).data = []
  rent : R.rent = .ok rent

/-- The ledger in which `user` has paid for a fresh counter. -/
def created (programId user counter : Pubkey) (bump : UInt8) (lamports : Nat) (L : Ledger) :
    Ledger :=
  Function.update
    (Function.update L user { L user with lamports := (L user).lamports - lamports })
    counter
    { lamports := (L counter).lamports + lamports
      data := counterBytes 0 user bump
      owner := programId }

section Created

variable {u c a : Pubkey} {lamports : Nat} {L : Ledger}

@[simp] theorem created_counter : created programId u c bump lamports L c =
    { lamports := (L c).lamports + lamports
      data := counterBytes 0 u bump
      owner := programId } := Function.update_self _ _ _

theorem created_user (h : u ≠ c) : created programId u c bump lamports L u =
    { L u with lamports := (L u).lamports - lamports } := by
  rw [created, Function.update_of_ne h, Function.update_self]

theorem created_other (hu : a ≠ u) (hc : a ≠ c) : created programId u c bump lamports L a = L a := by
  rw [created, Function.update_of_ne hc, Function.update_of_ne hu]

/-- Only the new account gets other data or another owner. -/
theorem created_data_owner (hc : a ≠ c) :
    (created programId u c bump lamports L a).data = (L a).data ∧
      (created programId u c bump lamports L a).owner = (L a).owner := by
  by_cases hu : a = u
  · subst hu
    rw [created_user hc]
    exact ⟨rfl, rfl⟩
  · rw [created_other hu hc]
    exact ⟨rfl, rfl⟩

end Created

/-- Writing the layout into the account the System Program made gives the fresh counter. -/
theorem setData_apply {L : Ledger} {lamports : Nat} :
    Function.update ((createCounter programId user counter system bump lamports).instruction.apply L)
      counter.key
      { (createCounter programId user counter system bump lamports).instruction.apply L counter.key
        with data := counterBytes 0 user.key bump }
      = created programId user.key counter.key bump lamports L := by
  have ht : (createCounter programId user counter system bump lamports).instruction.apply L
      counter.key = { lamports := (L counter.key).lamports + lamports
                      data := List.replicate counterLen 0
                      owner := programId } :=
    CreateAccount.apply_target
  rw [ht, CreateAccount.apply, created]
  exact Function.update_idem _ _ _

/-! ## The whole of `initialize` -/

variable (rest : List AccountInfo)

/-- With three handles, the checks in the order of the source. -/
theorem initializeCounter_eq (hm : m.Unborrowed) :
    initializeCounter R programId (user :: counter :: system :: rest) m =
      if user.isSigner = true then
        if system.key = systemProgramId then
          match findProgramAddress R.derivation [seedPrefix, user.key.bytes] programId with
          | none => (.panicked, m)
          | some (expected, bump) =>
            if expected = counter.key then
              if (m.accounts counter.key).data = [] then
                match R.rent with
                | .error e => (.err e, m)
                | .ok rent =>
                  match R.createAccount (createCounter programId user counter system bump
                    (rent.minimumBalance counterLen)) m.accounts with
                  | .error e => (.err e, m)
                  | .ok L =>
                    counter.tryBorrowMutData (writeCounter user counter bump) { m with accounts := L }
              else (.err .accountAlreadyInitialized, m)
            else (.err .invalidSeeds, m)
        else (.err .incorrectProgramId, m)
      else (.err .missingRequiredSignature, m) := by
  have hfree := hm counter.key
  simp only [initializeCounter, nextAccountInfo, Prog.bind_apply, Prog.pure_apply]
  by_cases hs : user.isSigner = true
  swap
  · have hs' : user.isSigner = false := by simpa using hs
    rw [if_neg hs]
    simp only [hs', Prog.ensure_false]
  rw [if_pos hs]
  simp only [hs, Prog.ensure_true]
  by_cases hsys : system.key = systemProgramId
  swap
  · have hsys' : (system.key == systemProgramId) = false := by simpa using hsys
    rw [if_neg hsys]
    simp only [hsys', Prog.ensure_false]
  have hsys' : (system.key == systemProgramId) = true := by simpa using hsys
  rw [if_pos hsys]
  simp only [hsys', Prog.ensure_true, Prog.lift_apply, Outcome.unwrap]
  cases findProgramAddress R.derivation [seedPrefix, user.key.bytes] programId with
  | none => rfl
  | some hit =>
    obtain ⟨expected, bump⟩ := hit
    simp only
    by_cases hx : expected = counter.key
    swap
    · have hx' : (expected == counter.key) = false := by simpa using hx
      rw [if_neg hx]
      simp only [hx', Prog.ensure_false]
    have hx' : (expected == counter.key) = true := by simpa using hx
    rw [if_pos hx]
    simp only [hx', Prog.ensure_true, AccountInfo.dataIsEmpty_apply hfree]
    by_cases hempty : (m.accounts counter.key).data = []
    swap
    · have hempty' : (m.accounts counter.key).data.isEmpty = false := by
        simpa [List.isEmpty_eq_false_iff] using hempty
      rw [if_neg hempty]
      simp only [hempty', Prog.ensure_false]
    have hempty' : (m.accounts counter.key).data.isEmpty = true := by simp [hempty]
    rw [if_pos hempty]
    simp only [hempty', Prog.ensure_true]
    cases R.rent with
    | error e => rfl
    | ok rent =>
      simp only [invokeSigned_of_unborrowed hm]
      cases R.createAccount (createCounter programId user counter system bump
        (rent.minimumBalance counterLen)) m.accounts with
      | error e => rfl
      | ok L => rfl

/-- **Nothing fails after the call.** Once the account exists, it is written and `Ok` returned. -/
theorem initializeCounter_ok {L : Ledger} (hR : R.Lawful) (hm : m.Unborrowed)
    (h : Ready R programId user counter system bump rent m.accounts)
    (hc : R.createAccount (createCounter programId user counter system bump
      (rent.minimumBalance counterLen)) m.accounts = .ok L) :
    initializeCounter R programId (user :: counter :: system :: rest) m =
      (.ok (), { m with
        accounts := created programId user.key counter.key bump
          (rent.minimumBalance counterLen) m.accounts }) := by
  have hspace : 0 < counterLen := by decide
  obtain ⟨-, -, -, -, -, rfl⟩ := hR.createAccount_ok hspace hc
  have hfree := hm counter.key
  -- what comes back from the call has 41 bytes, so the writes are in bounds
  have ht := @CreateAccount.apply_target (createCounter programId user counter system bump
    (rent.minimumBalance counterLen)).instruction m.accounts
  have hlen := (congrArg (fun a => a.data.length) ht).trans (List.length_replicate)
  rw [initializeCounter_eq rest hm, if_pos h.signed, if_pos h.system, h.derived]
  simp only [h.rent, hc, if_true]
  rw [if_pos h.empty]
  unfold AccountInfo.tryBorrowMutData
  rw [if_pos hfree, writeCounter_apply hlen]
  simp only [Memory.setData]
  rw [setData_apply]
  exact congrArg (fun b => (Outcome.ok (), Memory.mk _ b))
    (congrArg Memory.borrows (Memory.setBorrow_release hfree .exclusive))

/-- What the call to the System Program found, once it has succeeded. -/
structure Paid (user counter : AccountInfo) (lamports : Nat) (L : Ledger) : Prop where
  distinct : user.key ≠ counter.key
  unfunded : (L counter.key).lamports = 0
  unowned : (L counter.key).owner = systemProgramId
  funds : lamports ≤ (L user.key).lamports

/-- With three handles, either everything is done or nothing is. -/
theorem initializeCounter_cases_cons (hR : R.Lawful) (hm : m.Unborrowed) :
    (∃ bump rent, Ready R programId user counter system bump rent m.accounts ∧
      Paid user counter (rent.minimumBalance counterLen) m.accounts ∧
      initializeCounter R programId (user :: counter :: system :: rest) m =
        (.ok (), { m with
          accounts := created programId user.key counter.key bump
            (rent.minimumBalance counterLen) m.accounts })) ∨
    ∃ r, initializeCounter R programId (user :: counter :: system :: rest) m = (r, m) ∧
      r ≠ .ok () := by
  have heq := @initializeCounter_eq R programId user counter system m rest hm
  -- every way out before the call leaves `m`
  by_cases hs : user.isSigner = true
  swap
  · exact Or.inr ⟨_, heq.trans (if_neg hs), nofun⟩
  by_cases hsys : system.key = systemProgramId
  swap
  · exact Or.inr ⟨_, heq.trans ((if_pos hs).trans (if_neg hsys)), nofun⟩
  rw [if_pos hs, if_pos hsys] at heq
  rcases hfind : findProgramAddress R.derivation [seedPrefix, user.key.bytes] programId
    with _ | ⟨expected, bump⟩
  · rw [hfind] at heq
    exact Or.inr ⟨_, heq, nofun⟩
  rw [hfind] at heq
  by_cases hx : expected = counter.key
  swap
  · exact Or.inr ⟨_, heq.trans (if_neg hx), nofun⟩
  by_cases hempty : (m.accounts counter.key).data = []
  swap
  · exact Or.inr ⟨_, heq.trans ((if_pos hx).trans (if_neg hempty)), nofun⟩
  have heq := heq.trans ((if_pos hx).trans (if_pos hempty))
  rcases hrent : R.rent with e | rent
  · rw [hrent] at heq
    exact Or.inr ⟨_, heq, nofun⟩
  have hready : Ready R programId user counter system bump rent m.accounts :=
    ⟨hs, hsys, hx ▸ hfind, hempty, hrent⟩
  rw [hrent] at heq
  rcases hc : R.createAccount (createCounter programId user counter system bump
    (rent.minimumBalance counterLen)) m.accounts with e | L
  · simp only [hc] at heq
    exact Or.inr ⟨_, heq, nofun⟩
  have hspace : 0 < counterLen := by decide
  obtain ⟨hne, hlam, -, hown, hfunds, -⟩ := hR.createAccount_ok hspace hc
  exact Or.inl ⟨bump, rent, hready, ⟨hne, hlam, hown, hfunds⟩,
    initializeCounter_ok rest hR hm hready hc⟩

/--
**What `initialize` can do.** Either the ledger is the one in which the counter has been
created, or the memory is the one it was given, and then the result is not `Ok`.
-/
theorem initializeCounter_cases (hR : R.Lawful) (programId : Pubkey) (accounts : List AccountInfo)
    (hm : m.Unborrowed) :
    (∃ user counter system tail bump rent, accounts = user :: counter :: system :: tail ∧
      Ready R programId user counter system bump rent m.accounts ∧
      Paid user counter (rent.minimumBalance counterLen) m.accounts ∧
      initializeCounter R programId accounts m =
        (.ok (), { m with
          accounts := created programId user.key counter.key bump
            (rent.minimumBalance counterLen) m.accounts })) ∨
    ∃ r, initializeCounter R programId accounts m = (r, m) ∧ r ≠ .ok () := by
  rcases accounts with _ | ⟨user, _ | ⟨counter, _ | ⟨system, tail⟩⟩⟩
  · exact Or.inr ⟨_, rfl, nofun⟩
  · exact Or.inr ⟨_, rfl, nofun⟩
  · exact Or.inr ⟨_, rfl, nofun⟩
  · rcases initializeCounter_cases_cons tail hR hm with ⟨bump, rent, h⟩ | h
    · exact Or.inl ⟨user, counter, system, tail, bump, rent, rfl, h⟩
    · exact Or.inr h

/-! ## Through `process_instruction` -/

/-- A fresh counter of `user`, paid for by `user`, and nothing else. -/
structure FreshCounter (R : Runtime) (programId : Pubkey) (user counter : AccountInfo)
    (bump : UInt8) (rent : Rent) (m m' : Memory) : Prop where
  owner : (m'.accounts counter.key).owner = programId
  data : (m'.accounts counter.key).data = LittleEndian.encode 8 0 ++ user.key.bytes ++ [bump]
  /-- The byte that is now stored derives the address without a search. -/
  derives : ∃ stored, (m'.accounts counter.key).data[40]? = some stored ∧
    createProgramAddress R.derivation [seedPrefix, user.key.bytes, [stored]] programId
      = .ok counter.key
  paid : (m'.accounts user.key).lamports + rent.minimumBalance counterLen
    = (m.accounts user.key).lamports
  received : (m'.accounts counter.key).lamports
    = (m.accounts counter.key).lamports + rent.minimumBalance counterLen
  payer : (m'.accounts user.key).data = (m.accounts user.key).data ∧
    (m'.accounts user.key).owner = (m.accounts user.key).owner
  others : ∀ a, a ≠ user.key → a ≠ counter.key → m'.accounts a = m.accounts a
  borrows : m'.borrows = m.borrows

theorem freshCounter_created (h : Ready R programId user counter system bump rent m.accounts)
    (hp : Paid user counter (rent.minimumBalance counterLen) m.accounts) :
    FreshCounter R programId user counter bump rent m
      { m with
        accounts := created programId user.key counter.key bump
          (rent.minimumBalance counterLen) m.accounts } where
  owner := congrArg Account.owner created_counter
  data := congrArg Account.data created_counter
  derives := by
    refine ⟨bump, ?_, (findProgramAddress_eq_some h.derived).1⟩
    show (created _ _ _ _ _ _ _).data[40]? = _
    rw [created_counter, getElem_bump]
  paid := by
    show (created _ _ _ _ _ _ _).lamports + _ = _
    rw [created_user hp.distinct]
    exact Nat.sub_add_cancel hp.funds
  received := congrArg Account.lamports created_counter
  payer := created_data_owner hp.distinct
  others := fun _ hu hc => created_other hu hc
  borrows := rfl

/--
**The initialize path.** An instruction whose data starts with 0 and that succeeds leaves a
fresh counter, and one that does not succeed leaves every account as it was. There is no
third case: once the System Program has created the account, the instruction succeeds.
-/
theorem processInstruction_initializeCounter (hR : R.Lawful) (programId : Pubkey)
    (accounts : List AccountInfo) (data : Bytes) (hm : m.Unborrowed)
    (hdata : data.head? = some 0) :
    ((processInstruction R programId accounts data m).1 = .ok () →
      ∃ user counter system tail bump rent, accounts = user :: counter :: system :: tail ∧
        Ready R programId user counter system bump rent m.accounts ∧
        user.key ≠ counter.key ∧
        FreshCounter R programId user counter bump rent m
          (processInstruction R programId accounts data m).2) ∧
    ((processInstruction R programId accounts data m).1 ≠ .ok () →
      (processInstruction R programId accounts data m).2 = m) ∧
    (∀ user counter system tail bump rent L, accounts = user :: counter :: system :: tail →
      Ready R programId user counter system bump rent m.accounts →
      R.createAccount (createCounter programId user counter system bump
        (rent.minimumBalance counterLen)) m.accounts = .ok L →
      (processInstruction R programId accounts data m).1 = .ok ()) := by
  have hdec : CounterIx.decode data = some .initializeCounter := if_pos hdata
  have heq : processInstruction R programId accounts data m
      = initializeCounter R programId accounts m := by
    rw [processInstruction_eq, hdec]
  rw [heq]
  refine ⟨?_, ?_, ?_⟩
  · intro hok
    rcases initializeCounter_cases hR programId accounts hm
      with ⟨user, counter, system, tail, bump, rent, hacc, hready, hpaid, hr⟩ | ⟨r, hr, hne⟩
    · rw [hr]
      exact ⟨user, counter, system, tail, bump, rent, hacc, hready, hpaid.distinct,
        freshCounter_created hready hpaid⟩
    · rw [hr] at hok
      exact absurd hok hne
  · intro hne
    rcases initializeCounter_cases hR programId accounts hm
      with ⟨_, _, _, _, _, _, _, _, _, hr⟩ | ⟨_, hr, _⟩
    · rw [hr] at hne
      exact absurd rfl hne
    · rw [hr]
  · intro user counter system tail bump rent L hacc hready hc
    rw [hacc, initializeCounter_ok tail hR hm hready hc]

/-- `alice` initialises her counter. -/
theorem processInstruction_initializeCounter_alice :
    ∃ m', (processInstruction sampleRuntime sampleProgram
        [⟨alice, true, true⟩, ⟨aliceCounter, false, true⟩, ⟨systemProgramId, false, false⟩] [0]
        (.ofLedger sampleLedger)) = (.ok (), m') ∧
      (m'.accounts aliceCounter).data = counterBytes 0 alice 255 := by
  have hok : (processInstruction sampleRuntime sampleProgram
      [⟨alice, true, true⟩, ⟨aliceCounter, false, true⟩, ⟨systemProgramId, false, false⟩] [0]
      (.ofLedger sampleLedger)).1 = .ok () := by decide
  obtain ⟨user, counter, system, tail, bump, rent, hacc, hready, -, hfresh⟩ :=
    (processInstruction_initializeCounter sampleRuntime_lawful sampleProgram
      [⟨alice, true, true⟩, ⟨aliceCounter, false, true⟩, ⟨systemProgramId, false, false⟩]
      [0] (Memory.unborrowed_ofLedger sampleLedger) rfl).1 hok
  cases hacc
  have hbump : findProgramAddress sampleRuntime.derivation [seedPrefix, alice.bytes] sampleProgram
      = some (aliceCounter, 255) := by decide
  cases hready.derived.symm.trans hbump
  exact ⟨_, Prod.ext hok rfl, hfresh.data⟩

end BootcampSolana.CounterPda
