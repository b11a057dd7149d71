import BootcampSolana.Solana.Cluster
import BootcampSolana.TransactionLifecycle.Explorer
import BootcampSolana.TransactionLifecycle.Watch

/-!
# Transactions on their way

`send_transaction` only submits. Whether a transaction lands, and when, is not for the client to
say, and it learns of it from statuses that come and go. A `Chain` is a ledger together with what
is on its way to it.

* `Network.move` — what can happen between two requests of a client
* `ensures_watch` — what `watch` prints of a chain, and what it has seen then
-/

namespace BootcampSolana.TransactionLifecycle

/-- A cluster, with the signatures of transactions and the texts of errors. -/
structure Network (E : Type) extends Cluster E where
  signature : SignedTx → Signature
  debug : TransactionError E → String

/-- The ledger is the confirmed one. `landed` is how a transaction ended that is on it. -/
structure Chain (E : Type) where
  ledger : Ledger
  pending : Signature → Option SignedTx
  landed : Signature → Option (Option (TransactionError E))
  vote : Signature → Option TransactionStatus

inductive Event where
  | other (tx : SignedTx)
  | land (sig : Signature)
  | expire (sig : Signature)
  | vote (sig : Signature) (status : Option TransactionStatus)

namespace Network

variable {E ℓ α : Type} (N : Network E)

/-- A transaction lands once, and only if its payer can pay. -/
def land (c : Chain E) (sig : Signature) : Chain E :=
  match c.pending sig with
  | none => c
  | some tx =>
    if N.Payable c.ledger tx then
      { c with
        ledger := (N.process c.ledger tx).2
        pending := Function.update c.pending sig none
        landed := Function.update c.landed sig (some (N.process c.ledger tx).1) }
    else c

def move (c : Chain E) : Event → Chain E
  | .other tx => { c with ledger := (N.process c.ledger tx).2 }
  | .land sig => N.land c sig
  | .expire sig => { c with pending := Function.update c.pending sig none }
  | .vote sig status => { c with vote := Function.update c.vote sig status }

/--
What a node says of a signature: nothing, or what has been voted for it. What is finalized has
landed, and is shown with the error that it has landed with.
-/
def status (c : Chain E) (sig : Signature) : Option TransactionStatus :=
  match c.vote sig with
  | none => none
  | some st =>
    if st.isFinalized then (c.landed sig).map fun r => { st with err := r.map N.debug }
    else some st

/-! ## Requests -/

def request (f : Chain E → Outcome (ClusterError E) α × Chain E) :
    Session (Chain E) Event ℓ (ClusterError E) α :=
  Session.call N.move .transport f

def getLatestBlockhash : Session (Chain E) Event ℓ (ClusterError E) Unit :=
  N.request fun c => (.ok (), c)

def getBalance (key : Pubkey) : Session (Chain E) Event ℓ (ClusterError E) UInt64 :=
  N.request fun c => (.ok (UInt64.ofNat (c.ledger key).lamports), c)

/-- `simulate_transaction(&tx)?.value.err`. -/
def simulateTransaction (tx : SignedTx) :
    Session (Chain E) Event ℓ (ClusterError E) (Option (TransactionError E)) :=
  N.request fun c => (.ok (N.process c.ledger tx).1, c)

/-- `send_transaction_with_config`, with `skip_preflight: true`. -/
def sendTransactionWithConfig (tx : SignedTx) :
    Session (Chain E) Event ℓ (ClusterError E) Signature :=
  N.request fun c => (.ok (N.signature tx),
    { c with pending := Function.update c.pending (N.signature tx) (some tx) })

/-- `get_signature_statuses(&[sig])?.value[0].clone()`. -/
def signatureStatus (sig : Signature) :
    Session (Chain E) Event ℓ (ClusterError E) (Option TransactionStatus) :=
  N.request fun c => (indexVec ([sig].map (N.status c)) 0, c)

/-- The loop of `watch`, for as many polls as the budget allows. -/
def watchLoop (shown : WatchLine → ℓ) (sig : Signature) : (polls : ℕ) → (last : String) →
    Session (Chain E) Event ℓ (ClusterError E) Unit
  | 0, _ => Session.print (shown .gaveUp)
  | polls + 1, last => do
    let status ← N.signatureStatus sig
    match status with
    | some st =>
      let last ←
        if st.level ≠ last then do
          Session.print (shown (.level st.level st.slot st.confirmations))
          pure st.level
        else pure last
      if st.level = "Finalized" then pure () else watchLoop shown sig polls last
    | none => watchLoop shown sig polls last

def watch (shown : WatchLine → ℓ) (sig : Signature) (polls : ℕ) :
    Session (Chain E) Event ℓ (ClusterError E) Unit := N.watchLoop shown sig polls ""

/-! ## What the requests ensure -/

section Rules

variable {N} {allowed : Option (List Event) → Prop} {calm : Prop} {P : Chain E → Prop}
  {sig : Signature} {shown : WatchLine → ℓ} {polls : ℕ} {last : String} {c : Chain E}

theorem land_of_payable {tx : SignedTx} (hp : c.pending sig = some tx)
    (hpay : N.Payable c.ledger tx) : N.move c (.land sig) =
      { c with
        ledger := (N.process c.ledger tx).2
        pending := Function.update c.pending sig none
        landed := Function.update c.landed sig (some (N.process c.ledger tx).1) } := by
  simp only [move, land, hp, if_pos hpay]

theorem land_of_none (hp : c.pending sig = none) : N.move c (.land sig) = c := by
  simp only [move, land, hp]

theorem land_of_not_payable {tx : SignedTx} (hp : c.pending sig = some tx)
    (hpay : ¬ N.Payable c.ledger tx) : N.move c (.land sig) = c := by
  simp only [move, land, hp, if_neg hpay]

/-- What is shown as finalized has landed. -/
theorem landed_of_status {st : TransactionStatus} (h : N.status c sig = some st)
    (hst : st.isFinalized) : ∃ r, c.landed sig = some r ∧ st.err = r.map N.debug := by
  unfold status at h
  rcases hv : c.vote sig with _ | v
  · simp [hv] at h
  · rw [hv] at h
    by_cases hfinal : v.isFinalized
    · simp only [hfinal, if_true, Option.map_eq_some_iff] at h
      obtain ⟨r, hr, rfl⟩ := h
      exact ⟨r, hr, rfl⟩
    · simp only [hfinal] at h
      cases h
      exact absurd hst hfinal

variable (hstable : ∀ c moves, allowed (some moves) → P c → P (moves.foldl N.move c))
  (hlost : allowed none → ¬ calm)

include hstable hlost

theorem ensures_getLatestBlockhash : Session.Ensures allowed P
    (N.getLatestBlockhash : Session (Chain E) Event ℓ (ClusterError E) Unit)
    (Cluster.Excused calm) fun _ lines c => lines = [] ∧ P c :=
  .call (Q := fun _ => P) hstable (fun h => ⟨hlost h, nofun⟩) fun _ hP => hP

theorem ensures_getBalance (key : Pubkey) : Session.Ensures allowed P
    (N.getBalance key : Session (Chain E) Event ℓ (ClusterError E) UInt64)
    (Cluster.Excused calm) fun n lines c =>
      lines = [] ∧ n = UInt64.ofNat (c.ledger key).lamports ∧ P c := by
  refine .call (Q := fun (n : UInt64) (c : Chain E) =>
    n = UInt64.ofNat (c.ledger key).lamports ∧ P c) hstable (fun h => ⟨hlost h, nofun⟩)
    fun c hP => ?_
  exact ⟨rfl, hP⟩

theorem ensures_simulateTransaction (tx : SignedTx) : Session.Ensures allowed P
    (N.simulateTransaction tx :
      Session (Chain E) Event ℓ (ClusterError E) (Option (TransactionError E)))
    (Cluster.Excused calm) fun err lines c =>
      lines = [] ∧ (∃ L, err = (N.process L tx).1) ∧ P c :=
  .call (Q := fun err c => (∃ L, err = (N.process L tx).1) ∧ P c) hstable
    (fun h => ⟨hlost h, nofun⟩) fun c hP => ⟨⟨c.ledger, rfl⟩, hP⟩

theorem ensures_signatureStatus (sig : Signature) : Session.Ensures allowed P
    (N.signatureStatus sig :
      Session (Chain E) Event ℓ (ClusterError E) (Option TransactionStatus))
    (Cluster.Excused calm) fun st lines c => lines = [] ∧ st = N.status c sig ∧ P c :=
  .call (Q := fun st c => st = N.status c sig ∧ P c) hstable
    (fun h => ⟨hlost h, nofun⟩) fun _ hP => ⟨rfl, hP⟩

theorem ensures_sendTransactionWithConfig {Q : Chain E → Prop} {tx : SignedTx}
    (hsubmit : ∀ c, P c → Q
      { c with pending := Function.update c.pending (N.signature tx) (some tx) }) :
    Session.Ensures allowed P
      (N.sendTransactionWithConfig tx : Session (Chain E) Event ℓ (ClusterError E) Signature)
      (Cluster.Excused calm) fun sig lines c => lines = [] ∧ sig = N.signature tx ∧ Q c :=
  .call (Q := fun sig c => sig = N.signature tx ∧ Q c) hstable (fun h => ⟨hlost h, nofun⟩)
    fun c hP => ⟨rfl, hsubmit c hP⟩

/--
The loop prints what the loop over the statuses prints that it is given. Where one of them is
finalized, the transaction has landed.
-/
theorem ensures_watchLoop : Session.Ensures allowed P (N.watchLoop shown sig polls last)
    (Cluster.Excused calm) fun _ lines c => ∃ statuses,
      lines = (TransactionLifecycle.watchLoop last (answered statuses) :
        Printed WatchLine Empty (List (Poll Empty))).lines.map shown ∧
      ((∃ st, some st ∈ statuses ∧ st.isFinalized) → (c.landed sig).isSome) ∧ P c := by
  induction polls generalizing last with
  | zero =>
    intro w hw hP
    exact ⟨hw, [], rfl, by simp, hP⟩
  | succ polls ih =>
    refine .silent (ensures_signatureStatus hstable hlost sig) fun status => ?_
    cases status with
    | none =>
      refine (ih.strengthen fun c h => h.2).weaken ?_
      rintro _ lines c ⟨statuses, hlines, hlanded, hP⟩
      exact ⟨none :: statuses, hlines, by simpa using hlanded, hP⟩
    | some st =>
      -- what comes after the line of this status, if it has one
      have hrest : Session.Ensures allowed (fun c => some st = N.status c sig ∧ P c)
          (if st.level = "Finalized" then pure () else N.watchLoop shown sig polls st.level)
          (Cluster.Excused calm) fun _ lines c => ∃ statuses,
            lines = (if st.isFinalized then pure (answered statuses)
              else TransactionLifecycle.watchLoop st.level (answered statuses) :
                Printed WatchLine Empty (List (Poll Empty))).lines.map shown ∧
            ((∃ st', some st' ∈ some st :: statuses ∧ st'.isFinalized) →
              (c.landed sig).isSome) ∧ P c := by
        by_cases hfinal : st.level = "Finalized"
        · rw [if_pos hfinal]
          refine .pure fun c h => ⟨[], ?_, fun _ => ?_, h.2⟩
          · simp [TransactionStatus.isFinalized, hfinal]
          · obtain ⟨r, hr, -⟩ := landed_of_status h.1.symm
              (by simp [TransactionStatus.isFinalized, hfinal])
            simp [hr]
        · rw [if_neg hfinal]
          refine (ih.strengthen fun c h => h.2).weaken ?_
          rintro _ lines c ⟨statuses, hlines, hlanded, hP⟩
          refine ⟨statuses, ?_, ?_, hP⟩
          · simpa [TransactionStatus.isFinalized, hfinal] using hlines
          · simpa [TransactionStatus.isFinalized, hfinal] using hlanded
      by_cases hsame : st.level = last
      · subst hsame
        show Session.Ensures allowed _ (do
          let last ← if st.level ≠ st.level then do
              Session.print (shown (.level st.level st.slot st.confirmations))
              pure st.level
            else pure st.level
          if st.level = "Finalized" then pure () else N.watchLoop shown sig polls last) _ _
        rw [if_neg (not_not.mpr rfl)]
        refine hrest.weaken ?_
        rintro _ lines c ⟨statuses, hlines, hlanded, hP⟩
        refine ⟨some st :: statuses, ?_, hlanded, hP⟩
        rw [watchLoop_some, if_pos rfl]
        exact hlines
      · show Session.Ensures allowed _ (do
          let last ← if st.level ≠ last then do
              Session.print (shown (.level st.level st.slot st.confirmations))
              pure st.level
            else pure last
          if st.level = "Finalized" then pure () else N.watchLoop shown sig polls last) _ _
        rw [if_pos hsame]
        refine .print (g := fun _ => if st.level = "Finalized" then pure () else
          N.watchLoop shown sig polls st.level) (hrest.weaken ?_)
        rintro _ lines c ⟨statuses, rfl, hlanded, hP⟩
        refine ⟨some st :: statuses, ?_, hlanded, hP⟩
        rw [watchLoop_some, if_neg hsame]
        rfl

end Rules

end Network

end BootcampSolana.TransactionLifecycle
