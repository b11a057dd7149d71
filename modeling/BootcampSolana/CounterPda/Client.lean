import BootcampSolana.CounterPda.History
import BootcampSolana.CounterPda.Isolation

/-!
# The client

`05-counter-pda/client/src/main.rs`. It derives the address that the program re-derives,
writes the instructions that the program decodes, and reads the layout that the program
writes. Nothing is shared between the two crates, so each of these is a pair of definitions
to compare.
-/

namespace BootcampSolana.CounterPda

open Machine

/-! ## The source -/

inductive ClientError where
  | accountNotFound
  | tryFromSlice
  deriving DecidableEq, Repr

def SYSTEM : String := "11111111111111111111111111111111"

def SEED_PREFIX : Bytes := ascii "counter"

def counterPda (D : Derivation) (user program : Pubkey) : Outcome ClientError (Pubkey × UInt8) :=
  .unwrap (findProgramAddress D [SEED_PREFIX, user.bytes] program)

def ixInitialize (D : Derivation) (program user : Pubkey) : Outcome ClientError Instruction := do
  let (pda, _) ← counterPda D user program
  let system ← .unwrap (Pubkey.fromStr SYSTEM)
  pure
    { programId := program
      accounts :=
        [AccountMeta.new user true, AccountMeta.new pda false, AccountMeta.newReadonly system false]
      data := [0] }

def ixIncrement (program user pda : Pubkey) (amount : UInt64) : Instruction where
  programId := program
  accounts := [AccountMeta.new user true, AccountMeta.new pda false]
  data := [1] ++ U64.toLeBytes amount

/-- `rpc.get_account`, as far as it is used. -/
structure RpcClient where
  getAccount : Pubkey → Except ClientError Account

/-- What a client relies on: an account that exists is returned as it stands. -/
def RpcClient.Serves (rpc : RpcClient) (L : Ledger) : Prop :=
  ∀ a, L a ≠ .absent → rpc.getAccount a = .ok (L a)

/-- A node that shows the ledger `L`. -/
def RpcClient.ofLedger (L : Ledger) : RpcClient where
  getAccount a := if L a = .absent then .error .accountNotFound else .ok (L a)

theorem RpcClient.serves_ofLedger (L : Ledger) : (ofLedger L).Serves L := fun _ h => if_neg h

def readCounter (rpc : RpcClient) (pda : Pubkey) : Outcome ClientError (UInt64 × Pubkey × UInt8) := do
  let d ← match rpc.getAccount pda with
    | .ok account => .ok account.data
    | .error e => .err e
  let word ← slice d 0 8
  let word ← .okOr (tryIntoArray 8 word) .tryFromSlice
  let key ← slice d 8 40
  let authority ← .okOr (Pubkey.tryFrom key) .tryFromSlice
  let bump ← index d 40
  pure (U64.fromLeBytes word, authority, bump)

variable {R : Runtime} {program u pda : Pubkey} {bump : UInt8} {count amount : UInt64} {L : Ledger}

/-! ## The two sides meet -/

theorem counterPda_eq_ok {D : Derivation} : counterPda D u program = .ok (pda, bump) ↔
    findProgramAddress D [seedPrefix, u.bytes] program = some (pda, bump) := by
  show Outcome.unwrap (findProgramAddress D [seedPrefix, u.bytes] program) = _ ↔ _
  cases findProgramAddress D [seedPrefix, u.bytes] program with
  | none => simp [Outcome.unwrap]
  | some hit => simp [Outcome.unwrap]

/-- What `ix_initialize` builds, once the address is known. -/
theorem ixInitialize_eq {D : Derivation} {ix : Instruction} (h : ixInitialize D program u = .ok ix) :
    ∃ pda bump, counterPda D u program = .ok (pda, bump) ∧
      ix = { programId := program
             accounts := [⟨u, true, true⟩, ⟨pda, false, true⟩, ⟨systemProgramId, false, false⟩]
             data := [0] } := by
  unfold ixInitialize at h
  rcases hpda : counterPda D u program with ⟨pda, bump⟩ | e | _
  · have hsystem : Pubkey.fromStr SYSTEM = some systemProgramId := fromStr_system
    simp only [hpda, Outcome.bind_ok, hsystem, Outcome.unwrap, Outcome.pure_eq] at h
    cases h
    exact ⟨pda, bump, rfl, rfl⟩
  · rw [hpda] at h
    cases h
  · rw [hpda] at h
    cases h

theorem decode_ixIncrement : CounterIx.decode (ixIncrement program u pda amount).data
    = some (.increment amount) := by
  have hlen : 9 ≤ (ixIncrement program u pda amount).data.length := by
    simp [ixIncrement]
  have hword : window (ixIncrement program u pda amount).data 1 9 = U64.toLeBytes amount := by
    show (U64.toLeBytes amount).take 8 = _
    rw [← U64.length_toLeBytes amount, List.take_length]
  rw [CounterIx.decode, if_neg (by simp [ixIncrement]), if_pos ⟨rfl, hlen⟩, hword,
    U64.fromLeBytes_toLeBytes]

/-- What `read_counter` returns on data that is long enough. -/
theorem readCounter_eq {rpc : RpcClient} {a : Account}
    (h : rpc.getAccount pda = .ok a) (hlen : 41 ≤ a.data.length) :
    readCounter rpc pda =
      .ok (countOf a.data, ⟨window a.data 8 40, length_window (by omega)⟩, a.data.getD 40 0) := by
  have hword : tryIntoArray 8 (window a.data 0 8) = some (window a.data 0 8) :=
    tryIntoArray_window (by omega) rfl
  have hkey : (window a.data 8 40).length = 32 := length_window (by omega)
  have hbump := (@index_eq ClientError a.data 40).trans (if_pos (by omega))
  have h1 : (slice a.data 0 8 : Outcome ClientError Bytes) = .ok (window a.data 0 8) :=
    slice_eq_ok (by omega) (by omega)
  have h2 : (slice a.data 8 40 : Outcome ClientError Bytes) = .ok (window a.data 8 40) :=
    slice_eq_ok (by omega) (by omega)
  simp only [readCounter, h, Outcome.bind_ok, h1, h2, hword, Outcome.okOr,
    Pubkey.tryFrom_eq_some hkey, hbump, Outcome.pure_eq, countOf]

/-- The reader finds the fields where the writer puts them. -/
theorem readCounter_of_holds (h : Holds R program L u pda bump count) {rpc : RpcClient}
    (hrpc : rpc.Serves L) : readCounter rpc pda = .ok (count, u, bump) := by
  have hexists : L pda ≠ .absent := by
    intro hc
    exact h.data_ne_nil (congrArg Account.data hc)
  have hlen : 41 ≤ (L pda).data.length := by
    rw [h.data, length_counterBytes]
    exact Nat.le_refl 41
  have hkey : (⟨window (L pda).data 8 40, length_window (by omega)⟩ : Pubkey) = u := by
    refine Pubkey.bytes_inj.mp ?_
    show window (L pda).data 8 40 = u.bytes
    rw [h.data, window_authority]
  rw [readCounter_eq (hrpc pda hexists) hlen, hkey, h.data, countOf_counterBytes,
    List.getD_eq_getElem?_getD, getElem_bump]
  rfl

/-! ## What is sent -/

/-- What a user other than `u` builds with the two functions, for any account whatsoever. -/
def FromOther (D : Derivation) (program u : Pubkey) (ix : Instruction) : Prop :=
  ∃ v, v ≠ u ∧ (ixInitialize D program v = .ok ix ∨
    ∃ pda amount, ix = ixIncrement program v pda amount)

/-- An increment that `u` sends, or an instruction of another user. -/
inductive Sent (D : Derivation) (program u : Pubkey) where
  | own (amount : UInt64)
  | other (ix : Instruction) (sender : FromOther D program u ix)

/-- What the runtime is given. -/
def Action.send (ix : Instruction) : Action R.derivation program := .call ix.accounts ix.data

def Sent.action (pda : Pubkey) : Sent R.derivation program u → Action R.derivation program
  | .own amount => .send (ixIncrement program u pda amount)
  | .other ix _ => .send ix

/-- What `u`'s increments have added so far, those that were accepted. -/
def received (R : Runtime) (program u pda : Pubkey) (L : Ledger)
    (sent : List (Sent R.derivation program u)) : Nat :=
  ((trace (step R program) L (sent.map (Sent.action pda))).map (Event.added u pda)).sum

theorem ownIncrement_own (amount : UInt64) :
    (Sent.action pda (.own amount : Sent R.derivation program u)).ownIncrement u pda
      = some amount :=
  ownIncrement_eq_some.mpr ⟨⟨u, true, true⟩, ⟨pda, false, true⟩, [],
    (ixIncrement program u pda amount).data, rfl, decode_ixIncrement, rfl, rfl, rfl⟩

/-- The client asks to write, so what it sends is decided by the count alone. -/
theorem Holds.send (h : Holds R program L u pda bump count) (amount : UInt64) :
    step R program L (.send (ixIncrement program u pda amount)) =
      if count.toNat + amount.toNat < 2 ^ 64 then
        (.ok (), Function.update L pda { L pda with data := counterBytes (count + amount) u bump })
      else (.err .arithmeticOverflow, L) := by
  have hown : (Action.send (ixIncrement program u pda amount) :
      Action R.derivation program).ownIncrement u pda = some amount := ownIncrement_own amount
  have hwrites : (Action.send (ixIncrement program u pda amount) :
      Action R.derivation program).writes pda = true := by
    simp [Action.send, Action.writes, Writable, ixIncrement, AccountMeta.new]
  rw [h.own hown, hwrites]
  by_cases hfit : count.toNat + amount.toNat < 2 ^ 64
  · rw [ownAnswer, if_pos hfit, if_pos hfit, if_pos (Or.inl rfl)]
  · rw [ownAnswer, if_neg hfit, if_neg hfit, update_counterBytes_self h]

theorem ownIncrement_other {ix : Instruction} (hix : FromOther R.derivation program u ix) :
    (Action.send ix : Action R.derivation program).ownIncrement u pda = none := by
  refine ownIncrement_of_not_signedBy ?_
  obtain ⟨v, hne, hinit | ⟨a, n, rfl⟩⟩ := hix
  · obtain ⟨a, b, -, rfl⟩ := ixInitialize_eq hinit
    show (v == u && true) = false
    rw [beq_false_of_ne hne]
    rfl
  · show (v == u && true) = false
    rw [beq_false_of_ne hne]
    rfl

/-- However the sends are interleaved, the counter keeps up with them. -/
theorem holds_sent (hR : R.Lawful) (h : Holds R program L u pda bump count)
    (sent : List (Sent R.derivation program u)) :
    ∃ count', Holds R program (run (step R program) L (sent.map (Sent.action pda))) u pda bump
        count' ∧ count'.toNat = count.toNat + received R program u pda L sent := by
  induction sent generalizing L count with
  | nil => exact ⟨count, h, rfl⟩
  | cons s sent ih =>
    have hsum : received R program u pda L (s :: sent)
        = Event.added u pda (s.action pda, (step R program L (s.action pda)).1)
          + received R program u pda (step R program L (s.action pda)).2 sent := rfl
    -- one send first, then the rest by induction
    suffices hstep : ∃ n, Holds R program (step R program L (s.action pda)).2 u pda bump n ∧
        n.toNat = count.toNat
          + Event.added u pda (s.action pda, (step R program L (s.action pda)).1) by
      obtain ⟨n, hn, hadd⟩ := hstep
      obtain ⟨count', hc, hrest⟩ := ih hn
      exact ⟨count', hc, by omega⟩
    cases s with
    | own amount =>
      have hown := @ownIncrement_own R program u pda amount
      have hsend : step R program L (Sent.action pda (.own amount)) = _ := h.send amount
      rw [added_of_some hown, hsend]
      by_cases hfit : count.toNat + amount.toNat < 2 ^ 64
      · rw [if_pos hfit, if_pos rfl]
        refine ⟨count + amount, h.update _, ?_⟩
        rw [UInt64.toNat_add, Nat.mod_eq_of_lt hfit]
      · rw [if_neg hfit, if_neg nofun]
        exact ⟨count, h, rfl⟩
    | other ix hix =>
      have hnone : (Sent.action pda (.other ix hix)).ownIncrement u pda = none :=
        ownIncrement_other hix
      refine ⟨count, h.unmoved (step_effect hR L _) hnone, ?_⟩
      rw [added_of_none hnone]
      rfl

/-- What an `ix_initialize` that returns `Ok` leaves. -/
theorem holds_of_ixInitialize (hR : R.Lawful) {ix : Instruction} {L₀ : Ledger}
    (hix : ixInitialize R.derivation program u = .ok ix)
    (hpda : counterPda R.derivation u program = .ok (pda, bump))
    (hstep : step R program L (.send ix) = (.ok (), L₀)) : Holds R program L₀ u pda bump 0 := by
  have heff : Effect R program L (.send ix) (step R program L (.send ix)).1
      (step R program L (.send ix)).2 := step_effect hR L (.send ix)
  rw [hstep] at heff
  have hinit : Event.initialises u ((.send ix, .ok ()) : Event R program) = true := by
    obtain ⟨_, _, -, rfl⟩ := ixInitialize_eq hix
    exact Bool.and_eq_true_iff.mpr ⟨beq_self_eq_true u, rfl⟩
  obtain ⟨c, b, hh, -⟩ := heff.of_initialises hinit
  have hfind := hh.derived.symm.trans (counterPda_eq_ok.mp hpda)
  cases hfind
  exact hh

/--
**Client and program agree.** The instructions the client builds are dispatched to the
functions they are meant for, with the amount they were built with. Once `ix_initialize` has
returned `Ok` for `u`, whatever `u` and others send, an increment of `u` is accepted exactly as
long as the total stays within `u64::MAX`, and `read_counter` returns the total.
-/
theorem client_agrees (hR : R.Lawful) (program u : Pubkey) :
    (∀ ix, ixInitialize R.derivation program u = .ok ix →
      ix.programId = program ∧
      processInstruction R program (ix.accounts.map AccountMeta.toInfo) ix.data
        = initializeCounter R program (ix.accounts.map AccountMeta.toInfo)) ∧
    (∀ pda amount,
      (ixIncrement program u pda amount).programId = program ∧
      processInstruction R program
          ((ixIncrement program u pda amount).accounts.map AccountMeta.toInfo)
          (ixIncrement program u pda amount).data
        = increment R program
          ((ixIncrement program u pda amount).accounts.map AccountMeta.toInfo) amount) ∧
    ∀ ix pda bump L L₀, ixInitialize R.derivation program u = .ok ix →
      counterPda R.derivation u program = .ok (pda, bump) →
      step R program L (.send ix) = (.ok (), L₀) →
      createProgramAddress R.derivation [seedPrefix, u.bytes, [bump]] program = .ok pda ∧
      ∀ sent : List (Sent R.derivation program u),
        (∀ amount, (step R program (run (step R program) L₀ (sent.map (Sent.action pda)))
            (.send (ixIncrement program u pda amount))).1 =
          if received R program u pda L₀ sent + amount.toNat ≤ 2 ^ 64 - 1 then .ok ()
          else .err .arithmeticOverflow) ∧
        ∀ rpc : RpcClient,
          rpc.Serves (run (step R program) L₀ (sent.map (Sent.action pda))) →
          ∃ count, count.toNat = received R program u pda L₀ sent ∧
            readCounter rpc pda = .ok (count, u, bump) := by
  refine ⟨?_, ?_, ?_⟩
  · intro ix hix
    obtain ⟨pda, bump, -, rfl⟩ := ixInitialize_eq hix
    refine ⟨rfl, ?_⟩
    rw [processInstruction_eq]
    rfl
  · intro pda amount
    refine ⟨rfl, ?_⟩
    rw [processInstruction_eq, decode_ixIncrement]
  · intro ix pda bump L L₀ hix hpda hstep
    have h₀ := holds_of_ixInitialize hR hix hpda hstep
    refine ⟨(findProgramAddress_eq_some h₀.derived).1, ?_⟩
    intro sent
    obtain ⟨count, hh, hcount⟩ := holds_sent hR h₀ sent
    have hcount' : count.toNat = received R program u pda L₀ sent := hcount.trans (Nat.zero_add _)
    refine ⟨?_, fun rpc hrpc => ⟨count, hcount', readCounter_of_holds hh hrpc⟩⟩
    intro amount
    rw [hh.send amount, ← hcount']
    -- `u64::MAX` is `2 ^ 64 - 1`
    by_cases hfit : count.toNat + amount.toNat < 2 ^ 64
    · rw [if_pos hfit, if_pos (by omega)]
    · rw [if_neg hfit, if_neg (by omega)]

def aliceInitialize : Instruction where
  programId := sampleProgram
  accounts := [⟨alice, true, true⟩, ⟨aliceCounter, false, true⟩, ⟨systemProgramId, false, false⟩]
  data := [0]

/-- `alice` sends 5 and 37, and `bob` tries his luck in between. -/
def sampleSent : List (Sent sampleRuntime.derivation sampleProgram alice) :=
  [.own 5,
    .other (ixIncrement sampleProgram bob aliceCounter 9)
      ⟨bob, by decide, Or.inr ⟨aliceCounter, 9, rfl⟩⟩,
    .own 37]

theorem client_agrees_alice :
    readCounter (.ofLedger (run (step sampleRuntime sampleProgram)
        (step sampleRuntime sampleProgram sampleLedger (.send aliceInitialize)).2
        (sampleSent.map (Sent.action aliceCounter)))) aliceCounter
      = .ok (42, alice, 255) := by
  have hix : ixInitialize sampleRuntime.derivation sampleProgram alice = .ok aliceInitialize := by
    decide
  have hok : (step sampleRuntime sampleProgram sampleLedger (.send aliceInitialize)).1 = .ok () := by
    decide
  have hstep : step sampleRuntime sampleProgram sampleLedger (.send aliceInitialize)
      = (.ok (), (step sampleRuntime sampleProgram sampleLedger (.send aliceInitialize)).2) :=
    Prod.ext hok rfl
  obtain ⟨-, -, h⟩ := client_agrees sampleRuntime_lawful sampleProgram alice
  obtain ⟨-, hsent⟩ := h aliceInitialize aliceCounter 255 sampleLedger _ hix (by decide) hstep
  obtain ⟨count, hcount, hread⟩ := (hsent sampleSent).2 _ (RpcClient.serves_ofLedger _)
  have hsum : received sampleRuntime sampleProgram alice aliceCounter
      (step sampleRuntime sampleProgram sampleLedger (.send aliceInitialize)).2 sampleSent = 42 := by
    decide
  have hcount' : count = 42 := UInt64.toNat_inj.mp (hcount.trans hsum)
  rw [hcount'] at hread
  exact hread

end BootcampSolana.CounterPda
