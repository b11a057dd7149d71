import BootcampSolana.TransactionLifecycle.Chain
import Mathlib.Data.List.ReduceOption

/-!
# A transaction that fails

Section 5 of `main` in `04-transaction-lifecycle/src/main.rs`. It asks for fewer compute units than
a transfer takes, skips the preflight that would notice, and submits the transaction all the same.

* `Billed.move` — nothing that happens meanwhile makes the payer pay more than the fee, or twice
* `exceed_bill` — what the section prints
-/

namespace BootcampSolana.TransactionLifecycle

/-! ## The source -/

inductive ExceedLine (E : Type) where
  | simulationErr (err : Option (TransactionError E))
  | submitted (sig : Signature)
  | watched (line : WatchLine)
  | landedInSlot (slot : UInt64)
  | err (err : Option String)
  | payerPaid (paid : UInt64)
  | explorer (link : String)

def showLanded {E : Type} (st : Option TransactionStatus) :
    Session (Chain E) Event (ExceedLine E) (ClusterError E) Unit :=
  match st with
  | some st => do
    Session.print (.landedInSlot st.slot)
    Session.print (.err st.err)
  | none => pure ()

def exceed {E : Type} (N : Network E) (url : String) (payer recipient : Pubkey) (polls : ℕ) :
    Session (Chain E) Event (ExceedLine E) (ClusterError E) Unit := do
  N.getLatestBlockhash
  let ixs := [setCuLimit 10, sysTransfer payer recipient 1000000]
  let bad ← Session.lift (Cluster.newSignedWithPayer ixs payer [payer])
  let err ← N.simulateTransaction bad
  Session.print (.simulationErr err)
  let before ← N.getBalance payer
  let sig ← N.sendTransactionWithConfig bad
  Session.print (.submitted sig)
  N.watch .watched sig polls
  let st ← N.signatureStatus sig
  let after ← N.getBalance payer
  showLanded st
  let paid ← Session.lift (minus before after)
  Session.print (.payerPaid paid)
  Session.print (.explorer (explorer url sig))

section Exceed

variable {E : Type} {N : Network E} {payer recipient : Pubkey} {tx : SignedTx} {b : ℕ}
  {c : Chain E} {calm : Prop} {url : String} {polls : ℕ}

/-! ## What happens meanwhile -/

/-- A transaction that leaves the account alone, and sends no lamports to it either. -/
def Leaves (N : Network E) (payer : Pubkey) (tx : SignedTx) : Prop :=
  ∀ L, N.toCluster.move L tx payer = L payer

/-- Others leave the payer alone. -/
def Quiet (N : Network E) (payer : Pubkey) : Event → Prop
  | .other tx => Leaves N payer tx
  | _ => True

/-- The cluster never carries the transaction out. -/
def Doomed (N : Network E) (tx : SignedTx) : Prop :=
  ∀ L L', ¬ N.Executes tx.signers tx.instructions L L'

/-- Nothing that costs the payer anything is on its way, and the payer has `b` lamports. -/
structure Settled (N : Network E) (tx : SignedTx) (b : ℕ) (c : Chain E) : Prop where
  pending : ∀ sig tx', c.pending sig = some tx' →
    sig ≠ N.signature tx ∧ Leaves N tx.payer tx'
  landed : c.landed (N.signature tx) = none
  balance : (c.ledger tx.payer).lamports = b

/-- `tx` is on its way, or lost, or it has landed and failed, and then the fee is paid. -/
structure Billed (N : Network E) (tx : SignedTx) (b : ℕ) (c : Chain E) : Prop where
  pending : ∀ sig tx', c.pending sig = some tx' →
    sig = N.signature tx ∧ tx' = tx ∧ c.landed (N.signature tx) = none ∨
      sig ≠ N.signature tx ∧ Leaves N tx.payer tx'
  bill : c.landed (N.signature tx) = none ∧ (c.ledger tx.payer).lamports = b ∨
    ∃ e, c.landed (N.signature tx) = some (some e) ∧ (c.ledger tx.payer).lamports + N.fee tx = b

/-- What is no longer pending is one less. -/
theorem pending_of_update {sig sig' : Signature} {tx' : SignedTx}
    (h : Function.update c.pending sig none sig' = some tx') :
    sig' ≠ sig ∧ c.pending sig' = some tx' := by
  by_cases hsig : sig' = sig
  · rw [hsig, Function.update_self] at h
    cases h
  · rw [Function.update_of_ne hsig] at h
    exact ⟨hsig, h⟩

theorem Settled.move {e : Event} (he : Quiet N tx.payer e) (h : Settled N tx b c) :
    Settled N tx b (N.move c e) := by
  cases e with
  | other tx' =>
    refine ⟨h.pending, h.landed, ?_⟩
    show (N.toCluster.move c.ledger tx' tx.payer).lamports = b
    rw [he c.ledger]
    exact h.balance
  | land sig =>
    rcases hp : c.pending sig with _ | tx'
    · rw [Network.land_of_none hp]
      exact h
    · obtain ⟨hsig, hleaves⟩ := h.pending sig tx' hp
      by_cases hpay : N.Payable c.ledger tx'
      · rw [Network.land_of_payable hp hpay]
        refine ⟨fun sig' tx'' hp' => h.pending sig' tx'' (pending_of_update hp').2,
          (Function.update_of_ne hsig.symm _ _).trans h.landed, ?_⟩
        show (N.toCluster.move c.ledger tx' tx.payer).lamports = b
        rw [hleaves c.ledger]
        exact h.balance
      · rw [Network.land_of_not_payable hp hpay]
        exact h
  | expire sig =>
    exact ⟨fun sig' tx' hp => h.pending sig' tx' (pending_of_update hp).2, h.landed, h.balance⟩
  | vote sig status => exact ⟨h.pending, h.landed, h.balance⟩

theorem Settled.submit (h : Settled N tx b c) : Billed N tx b
    { c with pending := Function.update c.pending (N.signature tx) (some tx) } := by
  refine ⟨fun sig tx' hp => ?_, Or.inl ⟨h.landed, h.balance⟩⟩
  dsimp only at hp
  by_cases hsig : sig = N.signature tx
  · subst hsig
    rw [Function.update_self] at hp
    exact Or.inl ⟨rfl, (Option.some.inj hp).symm, h.landed⟩
  · rw [Function.update_of_ne hsig] at hp
    exact Or.inr (h.pending sig tx' hp)

/-- Another transaction lands. -/
theorem Billed.land_other {sig : Signature} {tx' : SignedTx} (hsig : sig ≠ N.signature tx)
    (hleaves : Leaves N tx.payer tx') (h : Billed N tx b c) : Billed N tx b
      { c with
        ledger := (N.process c.ledger tx').2
        pending := Function.update c.pending sig none
        landed := Function.update c.landed sig (some (N.process c.ledger tx').1) } := by
  have hlanded : Function.update c.landed sig (some (N.process c.ledger tx').1) (N.signature tx) =
      c.landed (N.signature tx) := Function.update_of_ne hsig.symm _ _
  have hbalance : (N.process c.ledger tx').2 tx.payer = c.ledger tx.payer := hleaves c.ledger
  constructor
  · intro sig' tx'' hp'
    dsimp only at hp' ⊢
    rw [hlanded]
    exact h.pending sig' tx'' (pending_of_update hp').2
  · dsimp only
    rw [hlanded, hbalance]
    exact h.bill

/-- It lands itself, for the first time. -/
theorem Billed.land_self (hdoomed : Doomed N tx) (hpay : N.Payable c.ledger tx)
    (hlanded : c.landed (N.signature tx) = none) (h : Billed N tx b c) : Billed N tx b
      { c with
        ledger := (N.process c.ledger tx).2
        pending := Function.update c.pending (N.signature tx) none
        landed := Function.update c.landed (N.signature tx) (some (N.process c.ledger tx).1) } := by
  obtain ⟨e, hprocess⟩ := Cluster.process_refused hpay (hdoomed _)
  have hbalance : (c.ledger tx.payer).lamports = b := by
    rcases h.bill with ⟨-, hb⟩ | ⟨e', he', -⟩
    · exact hb
    · rw [hlanded] at he'
      cases he'
  have hfee : N.fee tx ≤ (c.ledger tx.payer).lamports := hpay.2.1
  rw [hprocess]
  refine ⟨fun sig tx' hp' => ?_, Or.inr ⟨e, Function.update_self _ _ _, ?_⟩⟩
  · obtain ⟨hsig, hp⟩ := pending_of_update hp'
    exact Or.inr ((h.pending sig tx' hp).resolve_left fun hself => hsig hself.1)
  · show (N.charge c.ledger tx tx.payer).lamports + N.fee tx = b
    rw [Cluster.charge_payer]
    omega

/-- **The fee is paid once**, and nothing else. -/
theorem Billed.move {e : Event} (hdoomed : Doomed N tx) (he : Quiet N tx.payer e)
    (h : Billed N tx b c) : Billed N tx b (N.move c e) := by
  cases e with
  | other tx' =>
    refine ⟨h.pending, ?_⟩
    show c.landed (N.signature tx) = none ∧
        (N.toCluster.move c.ledger tx' tx.payer).lamports = b ∨
      ∃ e, c.landed (N.signature tx) = some (some e) ∧
        (N.toCluster.move c.ledger tx' tx.payer).lamports + N.fee tx = b
    rw [he c.ledger]
    exact h.bill
  | land sig =>
    rcases hp : c.pending sig with _ | tx'
    · rw [Network.land_of_none hp]
      exact h
    · by_cases hpay : N.Payable c.ledger tx'
      · rw [Network.land_of_payable hp hpay]
        rcases h.pending sig tx' hp with ⟨rfl, rfl, hlanded⟩ | ⟨hsig, hleaves⟩
        · exact h.land_self hdoomed hpay hlanded
        · exact h.land_other hsig hleaves
      · rw [Network.land_of_not_payable hp hpay]
        exact h
  | expire sig =>
    exact ⟨fun sig' tx' hp => h.pending sig' tx' (pending_of_update hp).2, h.bill⟩
  | vote sig status => exact ⟨h.pending, h.bill⟩

/-! Any number of events. -/

theorem Settled.moves {es : List Event} (hes : ∀ e ∈ es, Quiet N tx.payer e)
    (h : Settled N tx b c) : Settled N tx b (es.foldl N.move c) :=
  List.foldlRecOn es N.move h fun _ hc e he => hc.move (hes e he)

theorem Billed.moves {es : List Event} (hdoomed : Doomed N tx)
    (hes : ∀ e ∈ es, Quiet N tx.payer e) (h : Billed N tx b c) :
    Billed N tx b (es.foldl N.move c) :=
  List.foldlRecOn es N.move h fun _ hc e he => hc.move hdoomed (hes e he)

/-- What has landed stays. -/
theorem landed_move {e : Event} {sig : Signature} (h : (c.landed sig).isSome) :
    ((N.move c e).landed sig).isSome := by
  cases e with
  | land sig' =>
    simp only [Network.move, Network.land]
    split
    · exact h
    · split
      · by_cases hsig : sig = sig'
        · simp [hsig]
        · simpa [hsig] using h
      · exact h
  | other tx' => exact h
  | expire sig' => exact h
  | vote sig' status => exact h

theorem landed_moves {es : List Event} {sig : Signature} (h : (c.landed sig).isSome) :
    ((es.foldl N.move c).landed sig).isSome :=
  List.foldlRecOn (motive := fun c : Chain E => (c.landed sig).isSome) es N.move h
    fun _ hc _ _ => landed_move hc

/-! ## What it prints -/

def exceedTx (payer recipient : Pubkey) : SignedTx where
  payer := payer
  instructions := [setCuLimit 10, sysTransfer payer recipient 1000000]

def landedLines : Option TransactionStatus → List (ExceedLine E)
  | some st => [.landedInSlot st.slot, .err st.err]
  | none => []

/-- What `watch` prints of these statuses. -/
def watchLines (statuses : List (Option TransactionStatus)) : List WatchLine :=
  (watch (answered statuses) : Printed WatchLine Empty (List (Poll Empty))).lines

/-- The lines of the section. -/
def exceedReport (url : String) (sig : Signature) (err : Option (TransactionError E))
    (statuses : List (Option TransactionStatus)) (st : Option TransactionStatus) (paid : UInt64) :
    List (ExceedLine E) :=
  [.simulationErr err, .submitted sig] ++ (watchLines statuses).map .watched ++
    landedLines st ++ [.payerPaid paid, .explorer (explorer url sig)]

/--
The lines of a transaction that has not been carried out, and that has cost its fee at most. It has
cost the fee when `watch` has seen it finalized, and then the error is shown as well.
-/
def ShowsFailure (N : Network E) (url : String) (tx : SignedTx) (lines : List (ExceedLine E))
    (c : Chain E) : Prop :=
  ∃ err statuses st paid,
    lines = exceedReport url (N.signature tx) err statuses st paid ∧
    err ≠ none ∧
    (paid.toNat = 0 ∨ paid.toNat = N.fee tx) ∧
    (.gaveUp ∉ watchLines statuses → paid.toNat = N.fee tx) ∧
    (∀ s, st = some s → s.isFinalized → s.err ≠ none) ∧
    c.landed (N.signature tx) ≠ some none

/-- `watch` has given up, unless it was given a finalized status. -/
theorem finalized_of_watchLines {statuses : List (Option TransactionStatus)}
    (h : .gaveUp ∉ watchLines statuses) : ∃ st, some st ∈ statuses ∧ st.isFinalized := by
  rw [watchLines, watch_eq] at h
  by_contra hnone
  push Not at hnone
  have hclosing : closing (present statuses) = [.gaveUp] := by
    unfold closing
    rw [if_neg]
    simp only [List.any_eq_true, not_exists, not_and]
    intro st hst
    exact hnone st (List.reduceOption_mem_iff.mp hst)
  simp [hclosing] at h

/-- What the balance after the fact says. -/
structure Paid (N : Network E) (tx : SignedTx) (b : ℕ) (seen : Prop) (c : Chain E) : Prop where
  billed : Billed N tx b c
  landed : seen → (c.landed (N.signature tx)).isSome

/-- Between two requests others act, or the node does not answer. -/
def Turn (N : Network E) (payer : Pubkey) (calm : Prop) : Option (List Event) → Prop
  | some es => ∀ e ∈ es, Quiet N payer e
  | none => ¬ calm

theorem signed_exceed : (Cluster.newSignedWithPayer (exceedTx payer recipient).instructions payer
    [payer] : Outcome (ClusterError E) SignedTx) = .ok (exceedTx payer recipient) := by
  refine Cluster.newSignedWithPayer_alone ?_
  simp [exceedTx, setCuLimit, sysTransfer, AccountMeta.new]

/-- It fails in a simulation as well. -/
theorem Doomed.process (hdoomed : Doomed N tx) (L : Ledger) : (N.process L tx).1 ≠ none := by
  rcases hp : N.process L tx with ⟨_ | e, L'⟩
  · exact (hdoomed _ _ (Cluster.executes_of_process hp)).elim
  · nofun

/-- The difference of two balances of the payer. -/
theorem Paid.minus {seen : Prop} {ε : Type} (hb : b < 2 ^ 64) (h : Paid N tx b seen c) :
    ∃ paid : UInt64, (minus (UInt64.ofNat b) (UInt64.ofNat (c.ledger tx.payer).lamports) :
        Outcome ε UInt64) = .ok paid ∧
      (paid.toNat = 0 ∨ paid.toNat = N.fee tx) ∧ (seen → paid.toNat = N.fee tx) := by
  have hle : (c.ledger tx.payer).lamports ≤ b := by
    rcases h.billed.bill with ⟨-, hb⟩ | ⟨-, -, hb⟩
    · exact Nat.le_of_eq hb
    · omega
  have hbefore : (UInt64.ofNat b).toNat = b := UInt64.toNat_ofNat_of_lt' hb
  have hafter : (UInt64.ofNat (c.ledger tx.payer).lamports).toNat =
      (c.ledger tx.payer).lamports := UInt64.toNat_ofNat_of_lt' (Nat.lt_of_le_of_lt hle hb)
  have hle' : UInt64.ofNat (c.ledger tx.payer).lamports ≤ UInt64.ofNat b := by
    rw [UInt64.le_iff_toNat_le, hbefore, hafter]
    exact hle
  have hpaid := UInt64.toNat_sub_of_le _ _ hle'
  rw [hbefore, hafter] at hpaid
  refine ⟨_, minus_eq_ok hle', ?_, fun hseen => ?_⟩
  · rcases h.billed.bill with ⟨-, hb⟩ | ⟨-, -, hb⟩
    · left
      omega
    · right
      omega
  · rcases h.billed.bill with ⟨hnone, -⟩ | ⟨-, -, hb⟩
    · have hlanded := h.landed hseen
      simp [hnone] at hlanded
    · omega

theorem Paid.stable {seen : Prop} {es : List Event} (hdoomed : Doomed N tx)
    (hes : Turn N tx.payer calm (some es)) (h : Paid N tx b seen c) :
    Paid N tx b seen (es.foldl N.move c) where
  billed := h.billed.moves hdoomed hes
  landed := fun hseen => landed_moves (h.landed hseen)

theorem ensures_showLanded {P : Chain E → Prop} {st : Option TransactionStatus} :
    Session.Ensures (Turn N payer calm) P (showLanded st) (Cluster.Excused calm)
      fun _ lines c => lines = landedLines st ∧ P c := by
  cases st with
  | none => exact .pure fun _ h => ⟨rfl, h⟩
  | some st =>
    refine .print ?_
    intro w hw hP
    exact ⟨hw, rfl, hP⟩

/-- What is shown as finalized has failed. -/
theorem Billed.status {s : TransactionStatus} (h : Billed N tx b c)
    (hs : N.status c (N.signature tx) = some s) (hfinal : s.isFinalized) : s.err ≠ none := by
  obtain ⟨r, hr, herr⟩ := Network.landed_of_status hs hfinal
  rcases h.bill with ⟨hnone, -⟩ | ⟨e, he, -⟩
  · rw [hnone] at hr
    cases hr
  · rw [he] at hr
    cases hr
    simp [herr]

theorem Billed.not_done (h : Billed N tx b c) : c.landed (N.signature tx) ≠ some none := by
  rcases h.bill with ⟨hnone, -⟩ | ⟨e, he, -⟩
  · rw [hnone]
    nofun
  · rw [he]
    nofun

theorem ensures_exceed (hdoomed : Doomed N (exceedTx payer recipient)) (hb : b < 2 ^ 64) :
    Session.Ensures (Turn N payer calm) (Settled N (exceedTx payer recipient) b)
      (exceed N url payer recipient polls) (Cluster.Excused calm)
      fun _ lines c => ShowsFailure N url (exceedTx payer recipient) lines c := by
  have hsettled : ∀ (c : Chain E) (es : List Event), Turn N payer calm (some es) →
      Settled N (exceedTx payer recipient) b c →
      Settled N (exceedTx payer recipient) b (es.foldl N.move c) := fun _ _ hes h => h.moves hes
  have hbilled : ∀ (c : Chain E) (es : List Event), Turn N payer calm (some es) →
      Billed N (exceedTx payer recipient) b c →
      Billed N (exceedTx payer recipient) b (es.foldl N.move c) :=
    fun _ _ hes h => h.moves hdoomed hes
  unfold exceed
  refine .silent (Network.ensures_getLatestBlockhash hsettled id) fun _ => ?_
  refine .lift signed_exceed ?_
  refine .silent (Network.ensures_simulateTransaction hsettled id _) fun err => .known ?_
  rintro ⟨L, rfl⟩
  have herr := hdoomed.process L
  refine .print ?_
  refine .silent (Network.ensures_getBalance hsettled id _) fun before => ?_
  refine .strengthen (P := fun c => before = UInt64.ofNat b ∧
    Settled N (exceedTx payer recipient) b c) (.known ?_) fun c h => ⟨?_, h.2⟩
  · rintro rfl
    refine .silent (Network.ensures_sendTransactionWithConfig hsettled id fun _ h => h.submit)
      fun sig => .known ?_
    rintro rfl
    refine .print ?_
    refine .bind (Network.ensures_watchLoop hbilled id) fun _ lines => .exists fun statuses =>
      .known ?_
    rintro rfl
    have hpaid : ∀ (c : Chain E) (es : List Event), Turn N payer calm (some es) →
        Paid N (exceedTx payer recipient) b
          (∃ st, some st ∈ statuses ∧ st.isFinalized) c →
        Paid N (exceedTx payer recipient) b
          (∃ st, some st ∈ statuses ∧ st.isFinalized) (es.foldl N.move c) :=
      fun _ _ hes h => h.stable hdoomed hes
    refine .strengthen (P := Paid N (exceedTx payer recipient) b
      (∃ st, some st ∈ statuses ∧ st.isFinalized)) ?_ fun c h => ⟨h.2, h.1⟩
    refine .silent (Network.ensures_signatureStatus hpaid id _) fun st => ?_
    refine .strengthen (P := fun c => (∀ s, st = some s → s.isFinalized → s.err ≠ none) ∧
      Paid N (exceedTx payer recipient) b (∃ st, some st ∈ statuses ∧ st.isFinalized) c)
      (.known fun hst => ?_) ?_
    · refine .silent (Network.ensures_getBalance hpaid id _) fun after => ?_
      refine .strengthen (P := fun c => (∃ paid : UInt64,
          (minus (UInt64.ofNat b) after : Outcome (ClusterError E) UInt64) = .ok paid ∧
          (paid.toNat = 0 ∨ paid.toNat = N.fee (exceedTx payer recipient)) ∧
          ((∃ st, some st ∈ statuses ∧ st.isFinalized) →
            paid.toNat = N.fee (exceedTx payer recipient))) ∧
        c.landed (N.signature (exceedTx payer recipient)) ≠ some none) (.known ?_) ?_
      · rintro ⟨paid, hminus, hpaid, hseen⟩
        refine .bind ensures_showLanded fun _ lines => .known ?_
        rintro rfl
        refine .lift hminus <| .print ?_
        intro w hw hdone
        refine ⟨hw, _, statuses, st, paid, ?_, herr, hpaid,
          fun hlines => hseen (finalized_of_watchLines hlines), hst, hdone⟩
        simp [exceedReport, Session.print, Printed.print, watchLines, watch]
      · rintro c ⟨rfl, hc⟩
        exact ⟨hc.minus hb, hc.billed.not_done⟩
    · rintro c ⟨rfl, hc⟩
      exact ⟨fun s hs hfinal => hc.billed.status hs hfinal, hc⟩
  · rw [h.1, ← h.2.balance]
    rfl

/--
**Failure is a state, not an absence.** Whenever the transaction lands, if it does, and whatever
`watch` is told of it meanwhile, the section does not panic, and where it ends well it shows the
failure. It ends well as long as the node answers, and no error is one of the client's own. What
else is on its way, or happens meanwhile, leaves the payer's account alone.
-/
theorem exceed_bill (hdoomed : Doomed N (exceedTx payer recipient)) (w : World (Chain E) Event)
    (hothers : ∀ n es, w.turns n = some es → ∀ e ∈ es, Quiet N payer e)
    (hpending : ∀ sig tx, w.state.pending sig = some tx →
      sig ≠ N.signature (exceedTx payer recipient) ∧ Leaves N payer tx)
    (hnew : w.state.landed (N.signature (exceedTx payer recipient)) = none)
    (hfits : (w.state.ledger payer).lamports < 2 ^ 64) :
    (exceed N url payer recipient polls w).1.result.Meets
      (fun _ => ShowsFailure N url (exceedTx payer recipient)
        (exceed N url payer recipient polls w).1.lines
        (exceed N url payer recipient polls w).2.state)
      (fun e => ¬ (∀ n, w.turns n ≠ none) ∧ ∀ c, e ≠ .client c) := by
  refine (ensures_exceed hdoomed hfits w ?_ ⟨hpending, hnew, rfl⟩).2
  intro n
  rcases hturn : w.turns n with _ | es
  · exact fun hcalm => hcalm n hturn
  · exact hothers n es hturn

end Exceed

/-! ## A strict cluster -/

/-- Every instruction takes 150 units, and nothing else is done. -/
def strictNetwork : Network ProgramError where
  derivation := tableDerivation []
  rent := sampleRent
  executable _ := false
  reserved _ := false
  fee _ := 5000
  execute _ ix L :=
    if ix.programId = pk COMPUTE_BUDGET isSome_computeBudget ∧ ix.data.head? = some 2 ∧
        U32.fromLeBytes ix.data.tail < 150 then .error (.custom 0)
    else .ok L
  signature _ := ⟨List.replicate 64 1, rfl⟩
  debug _ := "InstructionError(0, ComputationalBudgetExceeded)"

/-- The transaction lands before the first poll, and is finalized. -/
def strictWorld : World (Chain ProgramError) Event where
  state :=
    { ledger := fun a => if a = alice then ⟨2000000000, [], systemProgramId⟩ else .absent
      pending := fun _ => none
      landed := fun _ => none
      vote := fun _ => none }
  turns n :=
    if n = 4 then some [.land (strictNetwork.signature (exceedTx alice bob)),
      .vote (strictNetwork.signature (exceedTx alice bob)) (some ⟨7, none, none, some .finalized⟩)]
    else some []

theorem strictNetwork_doomed : Doomed strictNetwork (exceedTx alice bob) := by
  rintro L L' ⟨L₁, hx, -⟩
  have hrefused : ∀ S, strictNetwork.execute S (setCuLimit 10) L = .error (.custom 0) := by
    intro S
    have hlimit : U32.fromLeBytes (setCuLimit 10).data.tail < 150 := by decide
    simp only [strictNetwork]
    rw [if_pos ⟨rfl, rfl, hlimit⟩]
  rw [hrefused] at hx
  cases hx

theorem exceed_bill_strict : ∃ err statuses st paid,
    (exceed strictNetwork "http://127.0.0.1:8899" alice bob 3 strictWorld).1.lines =
      exceedReport "http://127.0.0.1:8899" (strictNetwork.signature (exceedTx alice bob)) err
        statuses st paid ∧
    (paid.toNat = 0 ∨ paid.toNat = 5000) := by
  have hturns : ∀ n, strictWorld.turns n ≠ none := by
    intro n
    simp only [strictWorld]
    split <;> simp
  have hothers : ∀ n es, strictWorld.turns n = some es →
      ∀ e ∈ es, Quiet strictNetwork alice e := by
    intro n es hes e he
    simp only [strictWorld] at hes
    split at hes
    · cases hes
      simp only [List.mem_cons, List.not_mem_nil, or_false] at he
      rcases he with rfl | rfl
      · trivial
      · trivial
    · cases hes
      cases he
  have h := @exceed_bill ProgramError strictNetwork alice bob "http://127.0.0.1:8899" 3
    strictNetwork_doomed strictWorld hothers nofun rfl (by decide)
  rcases hr : (exceed strictNetwork "http://127.0.0.1:8899" alice bob 3 strictWorld).1.result with
    a | e | _
  · rw [hr] at h
    obtain ⟨err, statuses, st, paid, hlines, -, hpaid, -⟩ := h
    exact ⟨err, statuses, st, paid, hlines, hpaid⟩
  · rw [hr] at h
    exact (h.1 hturns).elim
  · rw [hr] at h
    exact h.elim

end BootcampSolana.TransactionLifecycle
