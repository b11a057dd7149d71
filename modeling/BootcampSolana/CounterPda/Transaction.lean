import BootcampSolana.CounterPda.Client
import BootcampSolana.Lib.Batch

/-!
# Transactions

A transaction is a list of instructions that the cluster carries out together or not at all.
The ledger of the transactions is the machine of `BootcampSolana.CounterPda.World` with its
actions in atomic batches, so what holds of every run of actions holds of every run of
transactions, with the sums taken over the transactions that landed.

A transaction's fee is no part of it. It is paid whatever becomes of the instructions, which
makes it one of the other steps of a run: a batch of its own, with a transfer in it. The fee is in
`BootcampSolana.CounterPda.Bank`.

* `transactions_accounting` — what a counter counts
* `process_increments` — several increments of one user
* `process_foreign` — an increment of somebody else's counter, anywhere in a transaction
* `transactions_isolated` — the order in which the cluster takes them
-/

namespace BootcampSolana.CounterPda

open Machine Tally

/-- The instructions of a transaction, in order. -/
abbrev Txn (R : Runtime) (program : Pubkey) := List (Action R.derivation program)

/-- `Ok(())`. -/
def accepted (r : Answer) : Bool := r == .ok ()

/-- All of a transaction, or the index of the instruction that failed and its error. -/
def process (R : Runtime) (program : Pubkey) :
    Ledger → Txn R program → Option (Nat × Answer) × Ledger :=
  batch (step R program) accepted

variable {R : Runtime} {program u v c pda : Pubkey} {L L' : Ledger} {bump : UInt8}
  {count amount : UInt64}

@[simp] theorem accepted_iff {r : Answer} : accepted r = true ↔ r = .ok () := by simp [accepted]

/-! ## What a counter counts -/

/-- What an action would add to `u`'s counter at `c`. -/
def requested (u c : Pubkey) (act : Action R.derivation program) : Nat :=
  match act.ownIncrement u c with
  | some amount => amount.toNat
  | none => 0

/-- What a transaction would add. -/
def Txn.requested (u c : Pubkey) (tx : Txn R program) : Nat :=
  (tx.map (CounterPda.requested u c)).sum

theorem added_of_ok (u c : Pubkey) (act : Action R.derivation program) :
    Event.added u c (act, .ok ()) = requested u c act := by
  unfold Event.added requested
  split <;> simp_all

/-- When nothing is refused, what was asked for was added. -/
theorem sum_added (u c : Pubkey) (tr : List (Event R program)) (h : ∀ e ∈ tr, e.2 = .ok ()) :
    (tr.map (Event.added u c)).sum = ((tr.map Prod.fst).map (requested u c)).sum := by
  rw [List.map_map]
  refine congrArg List.sum (List.map_congr_left ?_)
  rintro ⟨act, r⟩ he
  cases h _ he
  exact added_of_ok u c act

theorem sum_flatten_requested (u c : Pubkey) (txs : List (Txn R program)) :
    ((txs.flatten).map (requested u c)).sum = (txs.map (Txn.requested u c)).sum := by
  rw [List.map_flatten, List.sum_flatten, List.map_map]
  rfl

/-- The transactions of a run that landed. -/
def landedFrom (R : Runtime) (program : Pubkey) (L : Ledger) (txs : List (Txn R program)) :
    List (Txn R program) :=
  landed (trace (process R program) L txs)

/--
**Accounting over transactions.** The ledger that a run of transactions leads to is the one the
instructions of those that landed lead to, every one of which returned `Ok`. On a ledger that
had no account of the program, a counter counts what its user has asked for in all of them, and
its user has initialised exactly once. What a transaction did before it failed leaves no trace.
-/
theorem transactions_accounting (hR : R.Lawful) (hL : ∀ a, (L a).owner ≠ program)
    (txs : List (Txn R program)) :
    run (process R program) L txs
        = run (step R program) L (landedFrom R program L txs).flatten ∧
      (∀ e ∈ trace (step R program) L (landedFrom R program L txs).flatten, e.2 = .ok ()) ∧
      ∀ u c bump count, Holds R program (run (process R program) L txs) u c bump count →
        count.toNat = ((landedFrom R program L txs).map (Txn.requested u c)).sum ∧
        (trace (step R program) L (landedFrom R program L txs).flatten).countP
          (Event.initialises u) = 1 := by
  obtain ⟨heq, hgood⟩ : run (process R program) L txs = _ ∧ _ :=
    run_batch (step R program) accepted L txs
  have hok : ∀ e ∈ trace (step R program) L (landedFrom R program L txs).flatten, e.2 = .ok () :=
    fun e he => accepted_iff.mp (hgood e he)
  refine ⟨heq, hok, ?_⟩
  intro u c bump count hh
  have hK := kept_of_unowned (R := R) hL
  have hops := run_refines (refinement hR program) (landedFrom R program L txs).flatten hK
  have hnone : view R program L (u, c) = none := view_eq_none fun _ _ hh => hL c hh.owner
  have hsome : view R program (run (step R program) L (landedFrom R program L txs).flatten) (u, c)
      = some count.toNat := by
    rw [heq] at hh
    exact view_of_holds hh
  obtain ⟨hcount, hone⟩ := total_of_closed hops hnone hsome
  refine ⟨?_, ?_⟩
  · rw [hcount, total_filterMap, sum_added u c _ hok, map_fst_trace, sum_flatten_requested]
  · refine Nat.le_antisymm (count_initialises_le hR _ hK) ?_
    rw [← hone, List.count_filterMap]
    refine List.countP_mono_left ?_
    rintro e he hop
    obtain ⟨hok, user, counter, hreq, rfl, -⟩ := opened_of_op (eq_of_beq hop)
    -- what opens a counter is signed
    have hs : user.isSigner = true := by
      by_contra hs
      simp [Event.op, hreq, hs] at hop
    simp [Event.initialises, hreq, hok, hs]

/--
`alice` initialises. Her 5 is in one transaction with an increment of `bob`'s on her counter, and
her 37 is alone.
-/
def sampleTxs : List (Txn sampleRuntime sampleProgram) :=
  [[.send aliceInitialize],
    [.send (ixIncrement sampleProgram alice aliceCounter 5),
      .send (ixIncrement sampleProgram bob aliceCounter 9)],
    [.send (ixIncrement sampleProgram alice aliceCounter 37)]]

/-- The 5 was accepted, and has not been counted. -/
theorem transactions_accounting_alice :
    (37 : UInt64).toNat = ((landedFrom sampleRuntime sampleProgram sampleLedger sampleTxs).map
        (Txn.requested alice aliceCounter)).sum ∧
      (trace (step sampleRuntime sampleProgram) sampleLedger
        (landedFrom sampleRuntime sampleProgram sampleLedger sampleTxs).flatten).countP
          (Event.initialises alice) = 1 :=
  (transactions_accounting sampleRuntime_lawful sampleLedger_unowned sampleTxs).2.2
    alice aliceCounter 255 37 ⟨by decide, by decide, by decide⟩

/-! ## Several increments of one user -/

/-- `ix_increment` for every amount, all of them by `u` on the counter at `pda`. -/
def increments (R : Runtime) (program u pda : Pubkey) (amounts : List UInt64) : Txn R program :=
  amounts.map fun amount => .send (ixIncrement program u pda amount)

/-- The ledger whose counter of `u` at `pda` has counted to `n`. -/
def counted (u pda : Pubkey) (bump : UInt8) (n : Nat) (L : Ledger) : Ledger :=
  Function.update L pda { L pda with data := counterBytes (UInt64.ofNat n) u bump }

theorem counted_self (h : Holds R program L u pda bump count) :
    counted u pda bump count.toNat L = L := by
  have hofNat : UInt64.ofNat count.toNat = count := by simp
  rw [counted, hofNat, ← h.data, Function.update_eq_self]

/-- One increment that fits, in these terms. -/
theorem step_increment (h : Holds R program L u pda bump count)
    (hfit : count.toNat + amount.toNat < 2 ^ 64) :
    step R program L (.send (ixIncrement program u pda amount)) =
      (.ok (), counted u pda bump (count.toNat + amount.toNat) L) := by
  have hsum : UInt64.ofNat (count.toNat + amount.toNat) = count + amount := by
    simp [UInt64.ofNat_add]
  rw [h.send amount, if_pos hfit, counted, hsum]

theorem holds_counted (h : Holds R program L u pda bump count) (n : Nat) :
    Holds R program (counted u pda bump n L) u pda bump (UInt64.ofNat n) := h.update _

/-- As long as the total fits, increments are accepted one after the other. -/
theorem run_increments (h : Holds R program L u pda bump count) {amounts : List UInt64}
    (hfit : count.toNat + (amounts.map UInt64.toNat).sum < 2 ^ 64) :
    (∀ e ∈ trace (step R program) L (increments R program u pda amounts), e.2 = .ok ()) ∧
      run (step R program) L (increments R program u pda amounts)
        = counted u pda bump (count.toNat + (amounts.map UInt64.toNat).sum) L := by
  induction amounts generalizing L count with
  | nil => exact ⟨nofun, (counted_self h).symm⟩
  | cons amount amounts ih =>
    simp only [List.map_cons, List.sum_cons] at hfit ⊢
    have hstep := step_increment h (show count.toNat + amount.toNat < 2 ^ 64 by omega)
    have hh := holds_counted h (count.toNat + amount.toNat)
    have hn : (UInt64.ofNat (count.toNat + amount.toNat)).toNat = count.toNat + amount.toNat :=
      UInt64.toNat_ofNat_of_lt (by simp [UInt64.size]; omega)
    obtain ⟨hok, hrun⟩ := ih hh (by omega)
    simp only [increments, List.map_cons, trace, run, hstep]
    refine ⟨?_, ?_⟩
    · intro e he
      rcases List.mem_cons.mp he with rfl | he
      · rfl
      · exact hok e he
    · refine hrun.trans ?_
      rw [hn, Nat.add_assoc]
      simp [counted]

/-- A list whose sum is too much has a first entry with which it is. -/
theorem exists_first_overflow {bound : Nat} : ∀ {n : Nat} {amounts : List UInt64}, n < bound →
    ¬ n + (amounts.map UInt64.toNat).sum < bound →
      ∃ before amount after, amounts = before ++ amount :: after ∧
        n + (before.map UInt64.toNat).sum < bound ∧
        ¬ n + (before.map UInt64.toNat).sum + amount.toNat < bound
  | n, [], hn, h => absurd hn h
  | n, amount :: amounts, hn, h => by
    by_cases hfit : n + amount.toNat < bound
    · have hrest : ¬ n + amount.toNat + (amounts.map UInt64.toNat).sum < bound := by
        simpa [Nat.add_assoc] using h
      obtain ⟨before, last, after, rfl, hlt, hge⟩ := exists_first_overflow hfit hrest
      refine ⟨amount :: before, last, after, rfl, ?_, ?_⟩
      · simpa [Nat.add_assoc] using hlt
      · simpa [Nat.add_assoc] using hge
    · exact ⟨[], amount, amounts, rfl, hn, hfit⟩

/--
**Several increments in one transaction.** They land if and only if their total fits, and then
they have counted the total. Otherwise the transaction fails with an overflow at the first
increment that is too much, and those before it have not been counted either. The fee is paid in
both cases, and not by the counter.
-/
theorem process_increments (h : Holds R program L u pda bump count) (amounts : List UInt64) :
    (count.toNat + (amounts.map UInt64.toNat).sum < 2 ^ 64 →
      process R program L (increments R program u pda amounts)
        = (none, counted u pda bump (count.toNat + (amounts.map UInt64.toNat).sum) L)) ∧
    (¬ count.toNat + (amounts.map UInt64.toNat).sum < 2 ^ 64 →
      ∃ before amount after, amounts = before ++ amount :: after ∧
        count.toNat + (before.map UInt64.toNat).sum < 2 ^ 64 ∧
        ¬ count.toNat + (before.map UInt64.toNat).sum + amount.toNat < 2 ^ 64 ∧
        process R program L (increments R program u pda amounts)
          = (some (before.length, .err .arithmeticOverflow), L)) := by
  refine ⟨fun hfit => ?_, fun hfit => ?_⟩
  · obtain ⟨hok, hrun⟩ := run_increments h hfit
    exact batch_eq_none.mpr ⟨fun e he => accepted_iff.mpr (hok e he), hrun.symm⟩
  · obtain ⟨before, amount, after, rfl, hlt, hge⟩ :=
      exists_first_overflow (UInt64.toNat_lt count) hfit
    refine ⟨before, amount, after, rfl, hlt, hge, ?_⟩
    obtain ⟨hok, hrun⟩ := run_increments h hlt
    have hh := holds_counted h (count.toNat + (before.map UInt64.toNat).sum)
    have hn : (UInt64.ofNat (count.toNat + (before.map UInt64.toNat).sum)).toNat
        = count.toNat + (before.map UInt64.toNat).sum :=
      UInt64.toNat_ofNat_of_lt (by simpa [UInt64.size] using hlt)
    have hover : (step R program (run (step R program) L (increments R program u pda before))
        (.send (ixIncrement program u pda amount))).1 = .err .arithmeticOverflow := by
      rw [hrun, hh.send amount, hn, if_neg hge]
    refine batch_eq_some.mpr ⟨rfl, increments R program u pda before, _,
      increments R program u pda after, List.map_append, ?_, ?_, hover.symm, rfl⟩
    · simp [increments]
    · exact fun e he => accepted_iff.mpr (hok e he)

/-- `1 + 41`, on top of 5. -/
theorem process_increments_alice :
    process sampleRuntime sampleProgram fiveLedger
        (increments sampleRuntime sampleProgram alice aliceCounter [1, 41])
      = (none, counted alice aliceCounter 255 47 fiveLedger) :=
  (process_increments fiveLedger_holds [1, 41]).1 (by decide)

/-! ## Somebody else's counter -/

/-- A counter stays one, whatever happens. -/
theorem Holds.run (hR : R.Lawful) (h : Holds R program L u c bump count)
    (acts : List (Action R.derivation program)) :
    ∃ count', Holds R program (Machine.run (step R program) L acts) u c bump count' := by
  have hkeeps : Keeps (step R program) (fun _ => True)
      (fun L => ∃ count, Holds R program L u c bump count) := by
    rintro L act - ⟨count, h⟩
    rcases hown : act.ownIncrement u c with _ | amount
    · exact ⟨count, h.unmoved (step_effect hR L act) hown⟩
    · rw [h.own hown]
      exact ⟨_, h.update _⟩
  exact run_invariant hkeeps ⟨count, h⟩ fun _ _ => trivial

/-- Nothing is accepted on a counter but increments that its user has signed. -/
theorem Effect.refused (h : Holds R program L u c bump count) {user counter : AccountMeta}
    {rest : List AccountMeta} {data : Bytes} {r : Answer}
    (heff : Effect R program L (.call (user :: counter :: rest) data) r L')
    (hc : counter.pubkey = c)
    (hown : (Action.call (user :: counter :: rest) data :
      Action R.derivation program).ownIncrement u c = none) : r ≠ .ok () := by
  subst hc
  cases heff with
  | idle failed => exact failed
  | initialised decoded ready paid =>
    -- it is not empty
    exact absurd ready.empty h.data_ne_nil
  | @incremented _ _ _ _ amount decoded accepts =>
    -- it names another user
    have hauth : window (L counter.pubkey).data 8 40 = user.pubkey.bytes := accepts.authority
    rw [h.data, window_authority] at hauth
    have hsome : (Action.call (user :: counter :: rest) data :
        Action R.derivation program).ownIncrement u counter.pubkey = some amount :=
      ownIncrement_eq_some.mpr ⟨user, counter, rest, data, rfl, decoded,
        (Pubkey.bytes_inj.mp hauth).symm, accepts.signed, rfl⟩
    rw [hown] at hsome
    cases hsome

/-- The error of `increment` on a counter of another user. -/
theorem step_foreign (h : Holds R program L u pda bump count) (hv : v ≠ u) :
    step R program L (.send (ixIncrement program v pda amount))
      = (.err .invalidAccountOwner, L) := by
  have hm := Memory.unborrowed_ofLedger L
  have hl : (L pda).data.length = counterLen := by rw [h.data, length_counterBytes]
  have hbump : (L pda).data[40]? = some bump := by rw [h.data, getElem_bump]
  have hother : window (L pda).data 8 40 ≠ v.bytes := by
    rw [h.data, window_authority]
    exact fun hc => hv (Pubkey.bytes_inj.mp hc).symm
  have hdata : incrementData R program ⟨v, true, true⟩ ⟨pda, false, true⟩ amount
      ((Memory.ofLedger L).setBorrow pda .exclusive) =
        (.err .invalidAccountOwner, (Memory.ofLedger L).setBorrow pda .exclusive) := by
    rw [incrementData_eq hl hbump]
    exact if_neg hother
  have hix : processInstruction R program
      ((ixIncrement program v pda amount).accounts.map AccountMeta.toInfo)
      (ixIncrement program v pda amount).data (.ofLedger L)
        = (.err .invalidAccountOwner, .ofLedger L) := by
    rw [processInstruction_eq, decode_ixIncrement]
    exact increment_held [] (L := L) hm rfl h.owner hl hdata
  exact execute_of_not_ok hix nofun

/--
**Somebody else's counter.** A transaction with a call on `u`'s counter that is no increment signed
by `u` is refused as a whole, whatever the data of the call is, and whatever else the transaction
contains. An increment that another user sends fails with `InvalidAccountOwner`.
-/
theorem process_foreign (hR : R.Lawful) (h : Holds R program L u pda bump count) :
    (∀ (tx : Txn R program) user counter rest data, .call (user :: counter :: rest) data ∈ tx →
      counter.pubkey = pda →
      (Action.call (user :: counter :: rest) data : Action R.derivation program).ownIncrement u pda
        = none → ∃ refused, process R program L tx = (some refused, L)) ∧
    ∀ v amount, v ≠ u →
      process R program L [.send (ixIncrement program v pda amount)]
        = (some (0, .err .invalidAccountOwner), L) := by
  refine ⟨?_, ?_⟩
  · intro tx user counter rest data hmem hc hown
    rcases batch_cases (step R program) accepted L tx with ⟨-, hgood⟩ | hrefused
    · -- the instruction would have been accepted in the state that those before it lead to
      obtain ⟨before, after, rfl⟩ := List.append_of_mem hmem
      obtain ⟨n, hn⟩ := h.run hR before
      have heff := step_effect hR (Machine.run (step R program) L before)
        (.call (user :: counter :: rest) data : Action R.derivation program)
      refine absurd ?_ (heff.refused hn hc hown)
      refine accepted_iff.mp (hgood (.call (user :: counter :: rest) data, _) ?_)
      rw [trace_append]
      exact List.mem_append_right _ List.mem_cons_self
    · exact hrefused
  · intro v amount hv
    have hstep := @step_foreign R program u v pda L bump count amount h hv
    refine batch_eq_some.mpr ⟨rfl, [], _, [], rfl, rfl, nofun, ?_, rfl⟩
    exact (congrArg Prod.fst hstep).symm

/-- `bob` signs, and passes the address of `alice`'s counter. -/
theorem process_foreign_bob :
    process sampleRuntime sampleProgram fiveLedger
        [.send (ixIncrement sampleProgram bob aliceCounter 1000000)]
      = (some (0, .err .invalidAccountOwner), fiveLedger) :=
  (process_foreign sampleRuntime_lawful fiveLedger_holds).2 bob 1000000 (by decide)

/-! ## In whatever order -/

/-- A transaction of `u` that consists of increments of `u`'s counter, or one without `u`. -/
abbrev SidedTxn (R : Runtime) (program u c : Pubkey) :=
  SidedBatch (A := Action R.derivation program) (Action.signedBy u)
    (fun act => (act.ownIncrement u c).isSome)

/-- `process`, for these. -/
def processSided (R : Runtime) (program u c : Pubkey) (L : Ledger) (tx : SidedTxn R program u c) :
    Option (Nat × Answer) × Ledger := process R program L tx.1

/--
**Scheduling.** Two runs of transactions in which `u` sends the same transactions in the same
order leave the same bytes in `u`'s counter, and each of `u`'s transactions lands in both or
fails in both, at the same instruction. Where the cluster puts the transactions of others, what
they contain and which of them fail makes no difference.
-/
theorem transactions_isolated (hR : R.Lawful) (h : Holds R program L u c bump count)
    (txs txs' : List (SidedTxn R program u c))
    (hsame : txs.filter SidedBatch.touches = txs'.filter SidedBatch.touches) :
    (run (processSided R program u c) L txs c).data
        = (run (processSided R program u c) L txs' c).data ∧
      observe SidedBatch.touches (trace (processSided R program u c) L txs)
        = observe SidedBatch.touches (trace (processSided R program u c) L txs') := by
  have hdata : ∀ s t : Ledger, SameCounter R program u c bump s t → (s c).data = (t c).data := by
    rintro s t ⟨n, hs, ht⟩
    rw [hs.data, ht.data]
  exact run_eq_of_visible (fun L : Ledger => (L c).data)
    ((unwinding hR program u c bump).batch accepted) hdata ⟨count, h, h⟩ hsame

/-- `alice`'s transaction, and what `bob` sends around it. -/
def aliceThirtySeven : SidedTxn sampleRuntime sampleProgram alice aliceCounter :=
  ⟨[.send (ixIncrement sampleProgram alice aliceCounter 37)], Or.inl (by decide)⟩

def bobNine : SidedTxn sampleRuntime sampleProgram alice aliceCounter :=
  ⟨[.transfer bob aliceCounter 1, .send (ixIncrement sampleProgram bob aliceCounter 9)],
    Or.inr (by decide)⟩

theorem transactions_isolated_alice :
    (run (processSided sampleRuntime sampleProgram alice aliceCounter) fiveLedger
        [bobNine, aliceThirtySeven, bobNine] aliceCounter).data
      = (run (processSided sampleRuntime sampleProgram alice aliceCounter) fiveLedger
        [aliceThirtySeven] aliceCounter).data :=
  (transactions_isolated sampleRuntime_lawful fiveLedger_holds
    [bobNine, aliceThirtySeven, bobNine] [aliceThirtySeven] rfl).1

end BootcampSolana.CounterPda
