import BootcampSolana.Clients.Addresses
import BootcampSolana.CounterPda.Bank
import BootcampSolana.Session

/-!
# The exercise as a whole

`main` of `05-counter-pda/client/src/main.rs`, from the two funded keys on: every request it
makes of the node, in order, and every line with a value in it. The node serves others at the
same time. They can do anything that is not signed by one of the two keys, which nobody else
has. Every transaction costs its payer a fee.

`main_reports` is what the exercise teaches. Alice's counter reads `1 + 41 = 42` and bob's 7,
alice's attempt on bob's counter fails with `InvalidAccountOwner`, and bob's still reads 7.
-/

namespace BootcampSolana.CounterPda

open Machine

/-! ## The source -/

inductive SessionError where
  /-- The node did not answer. -/
  | transport
  | client (e : ClientError)
  | transaction (refused : Refusal (Nat × Answer))

/-- The lines of `main` with a value in them. -/
inductive Line where
  | alice (key : Pubkey) (bump : UInt8)
  | alicePda (pda : Pubkey)
  | bob (key : Pubkey) (bump : UInt8)
  | bobPda (pda : Pubkey)
  | onCurve (alicePda bobPda : Bool)
  | created (pda : Pubkey)
  | lamports (n : Nat)
  | owner (key : Pubkey)
  | dataLen (n : Nat)
  | decoded (count : UInt64) (authority : Pubkey) (bump : UInt8)
  | aliceCount (count : UInt64)
  | bobCount (count : UInt64)
  | simErr (err : Option (Refusal (Nat × Answer)))
  | bobStill (count : UInt64)

/-- A client of a node that runs the program. -/
abbrev Client (R : Runtime) (program : Pubkey) (α : Type) :=
  Session Ledger (Submitted R program) Line SessionError α

section Source

variable {R : Runtime} {program : Pubkey} (B : Bank R program)

/-- A request. -/
def request {α : Type} (f : Ledger → Outcome SessionError α × Ledger) : Client R program α :=
  Session.call B.move .transport f

def getLatestBlockhash : Client R program Unit := request B fun L => (.ok (), L)

def getAccount (a : Pubkey) : Client R program Account := request B fun L =>
  ((Outcome.ofExcept ((RpcClient.ofLedger L).getAccount a)).mapErr .client, L)

def readCounterOf (pda : Pubkey) : Client R program (UInt64 × Pubkey × UInt8) :=
  request B fun L => ((readCounter (.ofLedger L) pda).mapErr .client, L)

/--
`Transaction::new_signed_with_payer(ixs, Some(&payer), &[payer], bh)`. With one key to sign, an
instruction that asks for another signature cannot be signed, and that panics.
-/
def newSignedWithPayer (payer : Pubkey) (ixs : List Instruction) :
    Outcome SessionError (Submitted R program) :=
  if ixs.all fun ix => ix.accounts.all fun a => !a.isSigner || a.pubkey == payer then
    .ok ⟨payer, ixs.map Action.send⟩
  else .panicked

def sendAndConfirmTransaction (tx : Submitted R program) : Client R program Unit :=
  request B fun L =>
    match B.submit L tx with
    | (none, L') => (.ok (), L')
    | (some refused, L') => (.err (.transaction refused), L')

/-- `simulate_transaction(&tx)?.value.err`. What a simulation does is not kept. -/
def simulateTransaction (tx : Submitted R program) :
    Client R program (Option (Refusal (Nat × Answer))) :=
  request B fun L => (.ok (B.submit L tx).1, L)

def send (payer : Pubkey) (ixs : List Instruction) : Client R program Unit := do
  getLatestBlockhash B
  let tx ← Session.lift (newSignedWithPayer payer ixs)
  sendAndConfirmTransaction B tx

/-- `main`, for the keys that `fund` has returned. -/
def main (alice bob : Pubkey) : Client R program Unit := do
  -- 1. DERIVE
  let (alicePda, aliceBump) ← Session.lift ((counterPda R.derivation alice program).mapErr .client)
  let (bobPda, bobBump) ← Session.lift ((counterPda R.derivation bob program).mapErr .client)
  Session.print (.alice alice aliceBump)
  Session.print (.alicePda alicePda)
  Session.print (.bob bob bobBump)
  Session.print (.bobPda bobPda)
  Session.print (.onCurve (R.derivation.isOnCurve alicePda) (R.derivation.isOnCurve bobPda))
  -- 2. INITIALIZE
  let ix ← Session.lift ((ixInitialize R.derivation program alice).mapErr .client)
  send B alice [ix]
  let acct ← getAccount B alicePda
  Session.print (.created alicePda)
  Session.print (.lamports acct.lamports)
  Session.print (.owner acct.owner)
  Session.print (.dataLen acct.data.length)
  let (count, authority, bump) ← readCounterOf B alicePda
  Session.print (.decoded count authority bump)
  -- 3. INCREMENT
  let ix ← Session.lift ((ixInitialize R.derivation program bob).mapErr .client)
  send B bob [ix]
  send B alice
    [ixIncrement program alice alicePda 1, ixIncrement program alice alicePda 41]
  send B bob [ixIncrement program bob bobPda 7]
  let (count, _, _) ← readCounterOf B alicePda
  Session.print (.aliceCount count)
  let (count, _, _) ← readCounterOf B bobPda
  Session.print (.bobCount count)
  -- 4. THE CHECK THAT MATTERS
  getLatestBlockhash B
  let bad ← Session.lift
    (newSignedWithPayer alice [ixIncrement program alice bobPda 1000000])
  let err ← simulateTransaction B bad
  Session.print (.simErr err)
  let (count, _, _) ← readCounterOf B bobPda
  Session.print (.bobStill count)

end Source

variable {R : Runtime} {program u v c pda : Pubkey} {L L' : Ledger} {bump : UInt8}
  {count : UInt64} {B : Bank R program}

/-! ## Single requests -/

theorem newSignedWithPayer_initializeIx (u pda : Pubkey) :
    newSignedWithPayer u [initializeIx program u pda] = .ok (initializeTx R program u pda) := by
  simp [newSignedWithPayer, initializeIx, initializeTx]

theorem newSignedWithPayer_increments (u pda : Pubkey) (amounts : List UInt64) :
    newSignedWithPayer u (amounts.map (ixIncrement program u pda))
      = .ok (incrementsTx R program u pda amounts) := by
  have hsigned : ∀ amount, ((ixIncrement program u pda amount).accounts.all
      fun a => !a.isSigner || a.pubkey == u) = true := by
    intro amount
    simp [ixIncrement, AccountMeta.new]
  simp [newSignedWithPayer, incrementsTx, increments, hsigned]

section Rules

variable {allowed : Option (List (Submitted R program)) → Prop} {P Q : Ledger → Prop}
  {E : SessionError → Prop}

/-- A transaction, when it is signed by those it has to be. -/
theorem ensures_send {payer : Pubkey} {ixs : List Instruction} {tx : Submitted R program}
    (hstable : ∀ L txs, allowed (some txs) → P L → P (txs.foldl B.move L))
    (hlost : allowed none → E .transport) (hsigned : newSignedWithPayer payer ixs = .ok tx)
    (htx : ∀ L, P L → match B.submit L tx with
      | (none, L') => Q L'
      | (some refused, _) => E (.transaction refused)) :
    Session.Ensures allowed P (send B payer ixs) E fun _ lines L => lines = [] ∧ Q L := by
  have hlook : Session.Ensures allowed P (getLatestBlockhash B) E
      fun _ lines L => lines = [] ∧ P L :=
    .call hstable hlost fun _ hP => hP
  refine hlook.silent fun _ => .lift hsigned ?_
  refine .call hstable hlost fun L hP => ?_
  have h := htx L hP
  rcases hp : B.submit L tx with ⟨_ | refused, L'⟩
  · rw [hp] at h
    exact h
  · rw [hp] at h
    exact h

end Rules

/-! ## The exercise -/

section Exercise

variable {alice bob alicePda bobPda : Pubkey} {aliceBump bobBump : UInt8}

/-- Two users with a key pair each, and their addresses, which are different. -/
structure Setting (R : Runtime) (program alice bob alicePda bobPda : Pubkey)
    (aliceBump bobBump : UInt8) : Prop where
  users : alice ≠ bob
  aliceKey : R.derivation.isOnCurve alice = true
  bobKey : R.derivation.isOnCurve bob = true
  aliceDerived : counterPda R.derivation alice program = .ok (alicePda, aliceBump)
  bobDerived : counterPda R.derivation bob program = .ok (bobPda, bobBump)
  noCollision : NoCollision R.derivation
    (candidates [seedPrefix, alice.bytes] program ∪ candidates [seedPrefix, bob.bytes] program)

theorem Setting.pdas (hS : Setting R program alice bob alicePda bobPda aliceBump bobBump) :
    alicePda ≠ bobPda := by
  rintro rfl
  exact hS.users (prefixed_key_inj (preimage_eq_of_address_eq hS.noCollision
    (counterPda_eq_ok.mp hS.aliceDerived) (counterPda_eq_ok.mp hS.bobDerived)))

/-! ### What it costs -/

section Costs

variable (B : Bank R program) (alice bob alicePda bobPda : Pubkey)

/-! What a user needs for the last transaction, for the last two, and so on. -/

def simulateCost : Nat := 0 + B.fee (incrementsTx R program alice bobPda [1000000])

def aliceCountCost : Nat :=
  simulateCost B alice bobPda + B.fee (incrementsTx R program alice alicePda [1, 41])

/-- What alice needs. -/
def aliceCost : Nat :=
  aliceCountCost B alice alicePda bobPda + B.rent.minimumBalance counterLen +
    B.fee (initializeTx R program alice alicePda)

def bobCountCost : Nat := 0 + B.fee (incrementsTx R program bob bobPda [7])

/-- What bob needs. -/
def bobCost : Nat :=
  bobCountCost B bob bobPda + B.rent.minimumBalance counterLen +
    B.fee (initializeTx R program bob bobPda)

end Costs

/-! ### Stages -/

/-- What may happen before a call. When it is `calm`, nothing does. -/
def Allowed (R : Runtime) (program alice bob : Pubkey) (calm : Prop) :
    Option (List (Submitted R program)) → Prop
  | none => ¬ calm
  | some txs => (calm → txs = []) ∧ Without alice txs ∧ Without bob txs

/-- What both have: counters that have counted to `x` and `y`, and `m` and `n` lamports to spend. -/
structure Both (B : Bank R program) (calm : Prop) (alice bob alicePda bobPda : Pubkey)
    (aliceBump bobBump : UInt8) (x y : Option UInt64) (m n : Nat) (L : Ledger) : Prop where
  alice : Seat B calm alice alicePda aliceBump x m L
  bob : Seat B calm bob bobPda bobBump y n L

variable {calm : Prop} {x y : Option UInt64} {m n : Nat}

theorem Both.stable (hR : R.Lawful)
    (hS : Setting R program alice bob alicePda bobPda aliceBump bobBump) :
    ∀ L txs, Allowed R program alice bob calm (some txs) →
      Both B calm alice bob alicePda bobPda aliceBump bobBump x y m n L →
      Both B calm alice bob alicePda bobPda aliceBump bobBump x y m n (txs.foldl B.move L) :=
  fun _ _ h hB =>
    ⟨hB.alice.others hR hS.aliceKey h.2.1 h.1, hB.bob.others hR hS.bobKey h.2.2 h.1⟩

/-- Alice's own transactions are none of bob's. -/
theorem Seat.besideAlice (hS : Setting R program alice bob alicePda bobPda aliceBump bobBump)
    (hother : ∀ a, a ≠ alice → a ≠ alicePda → L' a = L a)
    (h : Seat B calm bob bobPda bobBump y n L) : Seat B calm bob bobPda bobBump y n L' :=
  h.frame (hother _ hS.users.symm (ne_pda hS.bobKey hS.aliceDerived))
    (hother _ (ne_pda hS.aliceKey hS.bobDerived).symm hS.pdas.symm)

/-- And bob's are none of hers. -/
theorem Seat.besideBob (hS : Setting R program alice bob alicePda bobPda aliceBump bobBump)
    (hother : ∀ a, a ≠ bob → a ≠ bobPda → L' a = L a)
    (h : Seat B calm alice alicePda aliceBump x m L) :
    Seat B calm alice alicePda aliceBump x m L' :=
  h.frame (hother _ hS.users (ne_pda hS.aliceKey hS.bobDerived))
    (hother _ (ne_pda hS.bobKey hS.aliceDerived).symm hS.pdas)

theorem getAccount_of_holds (h : Holds R program L u pda bump count) :
    (RpcClient.ofLedger L).getAccount pda = .ok (L pda) := by
  refine RpcClient.serves_ofLedger L pda ?_
  intro hc
  exact h.data_ne_nil (congrArg Account.data hc)

/-- What `main` prints. The lamports are those of alice's counter when it is looked at. -/
def report (program alice bob alicePda bobPda : Pubkey) (aliceBump bobBump : UInt8)
    (lamports : Nat) : List Line :=
  [.alice alice aliceBump, .alicePda alicePda, .bob bob bobBump, .bobPda bobPda,
    .onCurve false false,
    .created alicePda, .lamports lamports, .owner program, .dataLen 41, .decoded 0 alice aliceBump,
    .aliceCount 42, .bobCount 7,
    .simErr (some (.instructionError (0, .err .invalidAccountOwner))), .bobStill 7]

/-- In a calm an error is impossible, and no error ever is one of the client's own. -/
def Excused (calm : Prop) (e : SessionError) : Prop := ¬ calm ∧ ∀ c, e ≠ .client c

/-! ### The transactions -/

section Transactions

variable (hR : R.Lawful) (hS : Setting R program alice bob alicePda bobPda aliceBump bobBump)

include hR hS

theorem ensures_aliceInitializes (hC : R.Creates) (hrent : R.rent = .ok B.rent) :
    Session.Ensures (Allowed R program alice bob calm)
      (Both B calm alice bob alicePda bobPda aliceBump bobBump none y
        (m + B.rent.minimumBalance counterLen + B.fee (initializeTx R program alice alicePda)) n)
      (send B alice [initializeIx program alice alicePda]) (Excused calm)
      fun _ lines L => lines = [] ∧
        Both B calm alice bob alicePda bobPda aliceBump bobBump (some 0) y m n L := by
  refine ensures_send (Both.stable hR hS) (fun h => ⟨h, nofun⟩)
    (newSignedWithPayer_initializeIx alice alicePda) fun L hB => ?_
  have h := submit_initialize hR hC hrent hS.aliceKey hS.aliceDerived hB.alice
  rcases hp : B.submit L (initializeTx R program alice alicePda) with ⟨_ | refused, L'⟩
  · obtain ⟨halice, hother⟩ := h.1 L' hp
    exact ⟨halice, hB.bob.besideAlice hS hother⟩
  · rw [hp] at h
    exact ⟨fun hc => absurd (h.2 hc) nofun, nofun⟩

theorem ensures_bobInitializes (hC : R.Creates) (hrent : R.rent = .ok B.rent) :
    Session.Ensures (Allowed R program alice bob calm)
      (Both B calm alice bob alicePda bobPda aliceBump bobBump x none m
        (n + B.rent.minimumBalance counterLen + B.fee (initializeTx R program bob bobPda)))
      (send B bob [initializeIx program bob bobPda]) (Excused calm)
      fun _ lines L => lines = [] ∧
        Both B calm alice bob alicePda bobPda aliceBump bobBump x (some 0) m n L := by
  refine ensures_send (Both.stable hR hS) (fun h => ⟨h, nofun⟩)
    (newSignedWithPayer_initializeIx bob bobPda) fun L hB => ?_
  have h := submit_initialize hR hC hrent hS.bobKey hS.bobDerived hB.bob
  rcases hp : B.submit L (initializeTx R program bob bobPda) with ⟨_ | refused, L'⟩
  · obtain ⟨hbob, hother⟩ := h.1 L' hp
    exact ⟨hB.alice.besideBob hS hother, hbob⟩
  · rw [hp] at h
    exact ⟨fun hc => absurd (h.2 hc) nofun, nofun⟩

theorem ensures_aliceCounts (amounts : List UInt64)
    (hfit : count.toNat + (amounts.map UInt64.toNat).sum < 2 ^ 64) :
    Session.Ensures (Allowed R program alice bob calm)
      (Both B calm alice bob alicePda bobPda aliceBump bobBump (some count) y
        (m + B.fee (incrementsTx R program alice alicePda amounts)) n)
      (send B alice (amounts.map (ixIncrement program alice alicePda))) (Excused calm)
      fun _ lines L => lines = [] ∧ Both B calm alice bob alicePda bobPda aliceBump bobBump
        (some (UInt64.ofNat (count.toNat + (amounts.map UInt64.toNat).sum))) y m n L := by
  refine ensures_send (Both.stable hR hS) (fun h => ⟨h, nofun⟩)
    (newSignedWithPayer_increments alice alicePda amounts) fun L hB => ?_
  obtain ⟨L', hp, halice, hother⟩ :=
    submit_increments hS.aliceKey hS.aliceDerived hfit hB.alice
  rw [hp]
  exact ⟨halice, hB.bob.besideAlice hS hother⟩

theorem ensures_bobCounts (amounts : List UInt64)
    (hfit : count.toNat + (amounts.map UInt64.toNat).sum < 2 ^ 64) :
    Session.Ensures (Allowed R program alice bob calm)
      (Both B calm alice bob alicePda bobPda aliceBump bobBump x (some count) m
        (n + B.fee (incrementsTx R program bob bobPda amounts)))
      (send B bob (amounts.map (ixIncrement program bob bobPda))) (Excused calm)
      fun _ lines L => lines = [] ∧ Both B calm alice bob alicePda bobPda aliceBump bobBump
        x (some (UInt64.ofNat (count.toNat + (amounts.map UInt64.toNat).sum))) m n L := by
  refine ensures_send (Both.stable hR hS) (fun h => ⟨h, nofun⟩)
    (newSignedWithPayer_increments bob bobPda amounts) fun L hB => ?_
  obtain ⟨L', hp, hbob, hother⟩ := submit_increments hS.bobKey hS.bobDerived hfit hB.bob
  rw [hp]
  exact ⟨hB.alice.besideBob hS hother, hbob⟩

/-- The check that matters. -/
theorem ensures_aliceOnBobs (amount : UInt64) :
    Session.Ensures (Allowed R program alice bob calm)
      (Both B calm alice bob alicePda bobPda aliceBump bobBump x (some count)
        (m + B.fee (incrementsTx R program alice bobPda [amount])) n)
      (simulateTransaction B (incrementsTx R program alice bobPda [amount])) (Excused calm)
      fun err lines L => lines = [] ∧
        err = some (.instructionError (0, .err .invalidAccountOwner)) ∧
        Both B calm alice bob alicePda bobPda aliceBump bobBump x (some count)
          (m + B.fee (incrementsTx R program alice bobPda [amount])) n L :=
  .look (g := fun L => .ok (B.submit L (incrementsTx R program alice bobPda [amount])).1)
    (Both.stable hR hS) (fun h => ⟨h, nofun⟩) fun L hB => by
      rw [submit_foreign (hB.bob.holds count rfl) hS.users hB.alice.purse hR]

end Transactions

/-! ### The looks -/

section Looks

variable {allowed : Option (List (Submitted R program)) → Prop} {P : Ledger → Prop}
  {E : SessionError → Prop}
  (hstable : ∀ L txs, allowed (some txs) → P L → P (txs.foldl B.move L))
  (hlost : allowed none → E .transport) (hP : ∀ L, P L → Holds R program L u pda bump count)

include hstable hlost hP

/-- Where a counter is, the client reads it. -/
theorem ensures_readCounterOf : Session.Ensures allowed P (readCounterOf B pda) E
    fun d lines L => lines = [] ∧ d = (count, u, bump) ∧ P L := by
  refine .look hstable hlost fun L h => ?_
  rw [readCounter_of_holds (hP L h) (RpcClient.serves_ofLedger L)]
  rfl

theorem ensures_getAccount : Session.Ensures allowed P (getAccount B pda) E
    fun acct lines L => lines = [] ∧ (acct.owner = program ∧ acct.data.length = 41) ∧ P L := by
  refine .call (Q := fun (acct : Account) L =>
    (acct.owner = program ∧ acct.data.length = 41) ∧ P L) hstable hlost fun L h => ?_
  have hh := hP L h
  rw [getAccount_of_holds hh]
  refine ⟨⟨hh.owner, ?_⟩, h⟩
  rw [hh.data, length_counterBytes]
  rfl

end Looks

/-! ### Together -/

/-- `main`, request by request. What each leaves is what the next relies on. -/
theorem ensures_main (hR : R.Lawful) (hC : R.Creates) (hrent : R.rent = .ok B.rent)
    (hS : Setting R program alice bob alicePda bobPda aliceBump bobBump) (calm : Prop) :
    Session.Ensures (Allowed R program alice bob calm)
      (Both B calm alice bob alicePda bobPda aliceBump bobBump none none
        (aliceCost B alice alicePda bobPda) (bobCost B bob bobPda))
      (main B alice bob) (Excused calm)
      fun _ lines _ => ∃ lamports,
        lines = report program alice bob alicePda bobPda aliceBump bobBump lamports := by
  have hlost : Allowed R program alice bob calm none → Excused calm .transport :=
    fun h => ⟨h, nofun⟩
  unfold main
  refine .lift (a := (alicePda, aliceBump)) (by rw [hS.aliceDerived]; rfl) ?_
  refine .lift (a := (bobPda, bobBump)) (by rw [hS.bobDerived]; rfl) ?_
  refine .print <| .print <| .print <| .print <| .print ?_
  -- alice initialises
  refine .lift (a := initializeIx program alice alicePda)
    (by rw [ixInitialize_eq_ok hS.aliceDerived]; rfl) ?_
  refine .silent (ensures_aliceInitializes (m := aliceCountCost B alice alicePda bobPda) hR hS hC
    hrent) fun _ => ?_
  -- and looks at what has been created
  refine .silent (ensures_getAccount (Both.stable hR hS) hlost fun L hB => hB.alice.holds 0 rfl)
    fun acct => .known ?_
  rintro ⟨howner, hlen⟩
  refine .print <| .print <| .print <| .print ?_
  refine .silent (ensures_readCounterOf (Both.stable hR hS) hlost
    fun L hB => hB.alice.holds 0 rfl) fun d => .known ?_
  rintro rfl
  refine .print ?_
  -- bob initialises
  refine .lift (a := initializeIx program bob bobPda)
    (by rw [ixInitialize_eq_ok hS.bobDerived]; rfl) ?_
  refine .silent (ensures_bobInitializes (n := bobCountCost B bob bobPda) hR hS hC hrent)
    fun _ => ?_
  -- and both count
  refine .silent (ensures_aliceCounts (m := simulateCost B alice bobPda) hR hS [1, 41]
    (by decide)) fun _ => ?_
  refine .silent (ensures_bobCounts (n := 0) hR hS [7] (by decide)) fun _ => ?_
  refine .silent (ensures_readCounterOf (Both.stable hR hS) hlost
    fun L hB => hB.alice.holds _ rfl) fun d => .known ?_
  rintro rfl
  refine .print ?_
  refine .silent (ensures_readCounterOf (Both.stable hR hS) hlost
    fun L hB => hB.bob.holds _ rfl) fun d => .known ?_
  rintro rfl
  refine .print ?_
  -- alice on bob's counter
  refine .silent (.call
    (Q := fun _ => Both B calm alice bob alicePda bobPda aliceBump bobBump _ _ _ _)
    (Both.stable hR hS) hlost fun L hB => hB) fun _ => ?_
  refine .lift (newSignedWithPayer_increments alice bobPda [1000000]) ?_
  refine .silent (ensures_aliceOnBobs (m := 0) hR hS 1000000) fun err => .known ?_
  rintro rfl
  refine .print ?_
  refine .silent (ensures_readCounterOf (Both.stable hR hS) hlost
    fun L hB => hB.bob.holds _ rfl) fun d => .known ?_
  rintro rfl
  intro w hw hB
  refine ⟨hw, acct.lamports, ?_⟩
  simp [report, howner, hlen, isOnCurve_pda hS.aliceDerived, isOnCurve_pda hS.bobDerived]
  rfl

/--
**The exercise.** Both users have been funded. However others use the node meanwhile, as long as
they do not sign with the two keys, `main` does not panic, and where it returns `Ok` it has printed
the report. It returns `Ok` when nobody interferes, the node answers, and nobody has been at the
addresses of the counters before. No error is one of the client's own.
-/
theorem main_reports (hR : R.Lawful) (hC : R.Creates) (hrent : R.rent = .ok B.rent)
    (hS : Setting R program alice bob alicePda bobPda aliceBump bobBump)
    (w : World Ledger (Submitted R program))
    (hothers : ∀ n txs, w.turns n = some txs → Without alice txs ∧ Without bob txs)
    (halice : Purse B.rent alice (aliceCost B alice alicePda bobPda) w.state)
    (hbob : Purse B.rent bob (bobCost B bob bobPda) w.state) :
    (main B alice bob w).1.result.Meets
      (fun _ => ∃ lamports, (main B alice bob w).1.lines
        = report program alice bob alicePda bobPda aliceBump bobBump lamports)
      (fun e => ¬ ((∀ n, w.turns n = some []) ∧ w.state alicePda = .absent ∧
          w.state bobPda = .absent) ∧ ∀ c, e ≠ .client c) := by
  refine (ensures_main hR hC hrent hS _ w ?_
    ⟨⟨halice, nofun, fun _ hc => hc.2.1⟩, ⟨hbob, nofun, fun _ hc => hc.2.2⟩⟩).2
  intro n
  rcases hturn : w.turns n with _ | txs
  · intro hc
    have := hc.1 n
    simp [hturn] at this
  · refine ⟨fun hc => ?_, hothers n txs hturn⟩
    have := hc.1 n
    simpa [hturn] using this

end Exercise

/-! ## Two users on an idle node

`carol` and her counter's address, for which the search takes the first bump. Of the addresses
that occur, the two counters' are off the curve.
-/

def carol : Pubkey := keyOf 6

def carolCounter : Pubkey :=
  ⟨[0x47, 0x90, 0x00, 0x84, 0x19, 0x28, 0x88, 0x8a, 0x69, 0xdb, 0xdd,
    0x37, 0x64, 0xa1, 0x95, 0x4e, 0xb4, 0xcd, 0xdd, 0x4b, 0x74, 0x42,
    0x53, 0x0a, 0x8f, 0x06, 0x9a, 0xa7, 0x6a, 0x74, 0x2b, 0x76], rfl⟩

def exerciseTable : List (Bytes × Pubkey) :=
  [(pdaPreimage [ascii "counter", alice.bytes, [255]] sampleProgram, aliceCounter),
    (pdaPreimage [ascii "counter", carol.bytes, [255]] sampleProgram, carolCounter)]

def exerciseDerivation : Derivation where
  sha256 bs := (exerciseTable.lookup bs).getD (keyOf 0)
  isOnCurve a := a != aliceCounter && a != carolCounter

def exerciseRuntime : Runtime := systemRuntime exerciseDerivation sampleRent

/-- Every transaction of the exercise has one signature. -/
def exerciseBank : Bank exerciseRuntime sampleProgram := ⟨sampleRent, fun _ => 5000⟩

def exerciseWorld : World Ledger (Submitted exerciseRuntime sampleProgram) where
  state a :=
    if a = alice ∨ a = carol then { Account.absent with lamports := 2000000000 } else .absent
  turns _ := some []

theorem exerciseSetting :
    Setting exerciseRuntime sampleProgram alice carol aliceCounter carolCounter 255 255 where
  users := by decide
  aliceKey := by decide
  bobKey := by decide
  aliceDerived := by decide
  bobDerived := by decide
  noCollision :=
    @noCollision_table exerciseDerivation exerciseTable (fun _ => rfl) (by decide) (by decide) _

theorem main_reports_carol : ∃ lamports,
    (main exerciseBank alice carol exerciseWorld).1.lines
      = report sampleProgram alice carol aliceCounter carolCounter 255 255 lamports := by
  have hC : exerciseRuntime.Creates :=
    systemRuntime_creates fun n => Nat.mul_pos (by omega) (by decide)
  have hR : exerciseRuntime.Lawful := systemRuntime_lawful
  have hrent : exerciseRuntime.rent = .ok exerciseBank.rent := rfl
  have halice : Purse exerciseBank.rent alice
      (aliceCost exerciseBank alice aliceCounter carolCounter) exerciseWorld.state :=
    ⟨by decide, by decide, by decide⟩
  have hbob : Purse exerciseBank.rent carol
      (bobCost exerciseBank carol carolCounter) exerciseWorld.state :=
    ⟨by decide, by decide, by decide⟩
  have habsent : exerciseWorld.state aliceCounter = .absent ∧
      exerciseWorld.state carolCounter = .absent := by decide
  have hturns : ∀ n, exerciseWorld.turns n = some [] := fun _ => rfl
  -- the world is named, so that nothing is evaluated
  generalize exerciseWorld = w at halice hbob habsent hturns ⊢
  have hothers : ∀ n txs, w.turns n = some txs → Without alice txs ∧ Without carol txs := by
    intro n txs htxs
    cases (hturns n).symm.trans htxs
    exact ⟨nofun, nofun⟩
  have h := main_reports hR hC hrent exerciseSetting w hothers halice hbob
  generalize (main exerciseBank alice carol w).1 = run at h ⊢
  rcases hr : run.result with a | e | _
  · rw [hr] at h
    exact h
  · rw [hr] at h
    exact absurd ⟨hturns, habsent⟩ h.1
  · rw [hr] at h
    exact h.elim

end BootcampSolana.CounterPda
