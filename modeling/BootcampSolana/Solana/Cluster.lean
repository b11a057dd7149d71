import BootcampSolana.Clients.TokenAccounts
import BootcampSolana.Lib.Batch
import BootcampSolana.Session
import BootcampSolana.Solana.Runtime
import BootcampSolana.TransactionLifecycle.Compile

/-!
# A cluster and its clients

What the clients of the prebuilt programs talk to. The programs are not part of this development:
`Cluster.execute` stands for what they make of one instruction. What a client does is: it signs
transactions, and it asks a node to carry them out, to simulate them, or to show an account.

* `process_eq_none` — a transaction is carried out when its payer can pay the fee, every
  instruction is executed then, and no account it may write to begins to owe rent
* `process_refused` — one that is refused has paid it all the same
* `process_keeps` — what the fee and every instruction keep, a transaction keeps, carried out or not

When it is known what an instruction finds, it can be known that it is executed. `Carries` says
so of a list of instructions, and `ensures_carried` of a client that sends them.
-/

namespace BootcampSolana

open Machine
open TransactionLifecycle (requests signs)

/-! ## Transactions -/

/-- A signed transaction. It has the signatures that it asks for, and no others. -/
structure SignedTx where
  payer : Pubkey
  instructions : List Instruction

def SignedTx.signers (tx : SignedTx) : List Pubkey :=
  ((requests tx.payer tx.instructions).filter AccountMeta.isSigner).map AccountMeta.pubkey

/-- What it may write to. -/
def SignedTx.writable (tx : SignedTx) : List Pubkey :=
  ((requests tx.payer tx.instructions).filter AccountMeta.isWritable).map AccountMeta.pubkey

/-- What runs behind a node. An instruction is executed for those who have signed. -/
structure Cluster (E : Type) where
  derivation : Derivation
  rent : Rent
  executable : Pubkey → Bool
  /-- The addresses nobody writes to: sysvars, and programs that are part of the runtime. -/
  reserved : Pubkey → Bool
  fee : SignedTx → Nat
  execute : (signers : List Pubkey) → Instruction → Ledger → Except E Ledger

/-- An instruction is refused with its index, and with the reason. -/
abbrev TransactionError (E : Type) : Type := Refusal (Nat × Except E Unit)

namespace Cluster

variable {E : Type} (C : Cluster E)

def step (L : Ledger) (a : List Pubkey × Instruction) : Except E Unit × Ledger :=
  match C.execute a.1 a.2 L with
  | .ok L' => (.ok (), L')
  | .error e => (.error e, L)

def accepted : Except E Unit → Bool
  | .ok _ => true
  | .error _ => false

/-- What the transaction costs. -/
def taken (tx : SignedTx) : Charge := ⟨tx.payer, C.fee tx, tx.writable⟩

def charge (L : Ledger) (tx : SignedTx) : Ledger := (C.taken tx).apply L

def Payable (L : Ledger) (tx : SignedTx) : Prop := (C.taken tx).Payable C.rent L

instance (L : Ledger) (tx : SignedTx) : Decidable (C.Payable L tx) :=
  inferInstanceAs (Decidable ((C.taken tx).Payable C.rent L))

/-- All of the instructions or none. -/
def perform (tx : SignedTx) (L : Ledger) : Option (Nat × Except E Unit) × Ledger :=
  batch C.step accepted L (tx.instructions.map fun ix => (tx.signers, ix))

def process (L : Ledger) (tx : SignedTx) : Option (TransactionError E) × Ledger :=
  (C.taken tx).settle C.rent (C.perform tx) L

/-- The runtime lets an instruction write where it is to write. -/
def Grants (ix : Instruction) : Prop :=
  ∀ m ∈ ix.accounts, m.isWritable = true → C.reserved m.pubkey = false

/-- A transaction of somebody else. -/
def move (L : Ledger) (tx : SignedTx) : Ledger := (C.process L tx).2

/-- One instruction after the other is executed. -/
def Executes (S : List Pubkey) : List Instruction → Ledger → Ledger → Prop
  | [], L, L' => L' = L
  | ix :: ixs, L, L' => ∃ L₁, C.execute S ix L = .ok L₁ ∧ Executes S ixs L₁ L'

variable {C} {S : List Pubkey} {ix : Instruction} {ixs : List Instruction} {L L' : Ledger} {e : E}
  {tx : SignedTx}

theorem step_of_ok (h : C.execute S ix L = .ok L') : C.step L (S, ix) = (.ok (), L') := by
  simp [step, h]

theorem step_of_error (h : C.execute S ix L = .error e) : C.step L (S, ix) = (.error e, L) := by
  simp [step, h]

theorem firstRefused_eq_none_iff {i : Nat} :
    (firstRefused C.step accepted L i (ixs.map fun ix => (S, ix)) = none ∧
      run C.step L (ixs.map fun ix => (S, ix)) = L') ↔ C.Executes S ixs L L' := by
  induction ixs generalizing L i with
  | nil => simp [firstRefused, run, Executes, eq_comm]
  | cons ix ixs ih =>
    rcases h : C.execute S ix L with e | L₁
    · have hbad : accepted (C.step L (S, ix)).1 = false := by
        rw [step_of_error h]
        rfl
      simp [firstRefused_cons_bad hbad, Executes, h]
    · have hgood : accepted (C.step L (S, ix)).1 = true := by
        rw [step_of_ok h]
        rfl
      simp only [List.map_cons, firstRefused_cons_good hgood, run, step_of_ok h, ih, Executes, h,
        Except.ok.injEq, exists_eq_left']

theorem perform_eq_none : C.perform tx L = (none, L') ↔
    C.Executes tx.signers tx.instructions L L' := by
  rw [← firstRefused_eq_none_iff (i := 0)]
  unfold perform batch
  rcases firstRefused C.step accepted L 0 (tx.instructions.map fun ix => (tx.signers, ix)) with
    _ | refused
  · simp
  · simp

/-- **A transaction that is carried out.** -/
theorem process_eq_none : C.process L tx = (none, L') ↔
    C.Payable L tx ∧ C.Executes tx.signers tx.instructions (C.charge L tx) L' ∧
      ∀ a ∈ tx.writable, C.rent.allows (C.charge L tx a) (L' a) = true := by
  rw [← perform_eq_none]
  exact Charge.settle_eq_none

theorem executes_of_process (h : C.process L tx = (none, L')) :
    C.Executes tx.signers tx.instructions (C.charge L tx) L' := (process_eq_none.mp h).2.1

/-- **A transaction that is refused** has paid its fee, and that is all it has done. -/
theorem process_refused (hpay : C.Payable L tx)
    (hrefused : ∀ L', ¬ C.Executes tx.signers tx.instructions (C.charge L tx) L') :
    ∃ e, C.process L tx = (some e, C.charge L tx) := by
  rcases hp : C.perform tx (C.charge L tx) with ⟨_ | refused, L'⟩
  · exact (hrefused L' (perform_eq_none.mp hp)).elim
  · exact ⟨_, Charge.settle_of_refused hpay hp⟩

/-- **Invariants of transactions.** -/
theorem process_keeps {I : Ledger → Prop} (hcharge : I L → I (C.charge L tx))
    (hstep : ∀ {ix L L'}, ix ∈ tx.instructions → C.execute tx.signers ix L = .ok L' → I L → I L')
    (h : I L) : I (C.process L tx).2 := by
  have hkeeps : Keeps C.step (fun a => a.1 = tx.signers ∧ a.2 ∈ tx.instructions) I := by
    rintro L ⟨S, ix⟩ ⟨rfl, hix⟩ hL
    rcases he : C.execute tx.signers ix L with e | L'
    · rw [step_of_error he]
      exact hL
    · rw [step_of_ok he]
      exact hstep hix he hL
  have hlisted : ∀ a ∈ tx.instructions.map fun ix => (tx.signers, ix),
      a.1 = tx.signers ∧ a.2 ∈ tx.instructions := by
    intro a ha
    obtain ⟨ix, hix, rfl⟩ := List.mem_map.mp ha
    exact ⟨rfl, hix⟩
  unfold process
  rcases Charge.settle_cases (C.taken tx) C.rent (C.perform tx) L with hL | hL | hL
  · rw [hL]
    exact h
  · rw [hL]
    exact hcharge h
  · rw [hL]
    exact hkeeps.batch accepted _ _ hlisted (hcharge h)

/-- **Invariants of what others do.** -/
theorem moves_keep {I : Ledger → Prop} {txs : List SignedTx}
    (hcharge : ∀ tx ∈ txs, ∀ L, I L → I (C.charge L tx))
    (hstep : ∀ tx ∈ txs, ∀ {ix L L'}, ix ∈ tx.instructions →
      C.execute tx.signers ix L = .ok L' → I L → I L') (h : I L) :
    I (txs.foldl C.move L) := by
  induction txs generalizing L with
  | nil => exact h
  | cons tx txs ih =>
    refine ih (fun tx' h' => hcharge tx' (List.mem_cons_of_mem tx h'))
      (fun tx' h' => hstep tx' (List.mem_cons_of_mem tx h')) ?_
    exact process_keeps (hcharge tx List.mem_cons_self L)
      (fun hix hx => hstep tx List.mem_cons_self hix hx) h

theorem mem_signers {a : Pubkey} :
    a ∈ tx.signers ↔ signs (requests tx.payer tx.instructions) a = true := by
  simp only [SignedTx.signers, signs, List.mem_map, List.mem_filter, List.any_eq_true,
    Bool.and_eq_true, beq_iff_eq]
  constructor
  · rintro ⟨m, ⟨hm, hs⟩, rfl⟩
    exact ⟨m, hm, rfl, hs⟩
  · rintro ⟨m, hm, rfl, hs⟩
    exact ⟨m, ⟨hm, hs⟩, rfl⟩

theorem payer_mem_signers : tx.payer ∈ tx.signers := by
  simp [SignedTx.signers, requests, AccountMeta.new]

/-- Only the payer's lamports pay. -/
theorem charge_other {a : Pubkey} (h : a ≠ tx.payer) : C.charge L tx a = L a :=
  Charge.apply_other h

theorem charge_data_owner (a : Pubkey) :
    (C.charge L tx a).data = (L a).data ∧ (C.charge L tx a).owner = (L a).owner :=
  Charge.apply_data_owner a

theorem charge_payer : (C.charge L tx tx.payer).lamports = (L tx.payer).lamports - C.fee tx :=
  Charge.apply_payer

end Cluster

/-! ## Requests -/

/-- What a client reports, apart from a panic. -/
inductive ClusterError (E : Type) where
  /-- The node did not answer. -/
  | transport
  | client (e : CounterPda.ClientError)
  | transaction (e : TransactionError E)

/-- A client of a cluster that prints lines `ℓ`. -/
abbrev ClusterClient (E ℓ α : Type) : Type := Session Ledger SignedTx ℓ (ClusterError E) α

namespace Cluster

section Requests

variable {E ℓ α : Type} (C : Cluster E)

/--
`Transaction::new_signed_with_payer(ixs, Some(&payer), &signers, bh)`. It panics when a signature
is missing, and when a key signs that is not asked to.
-/
def newSignedWithPayer (ixs : List Instruction) (payer : Pubkey) (signers : List Pubkey) :
    Outcome (ClusterError E) SignedTx :=
  if (requests payer ixs).all (fun a => !a.isSigner || signers.contains a.pubkey) &&
      signers.all (signs (requests payer ixs)) then
    .ok { payer, instructions := ixs }
  else .panicked

/-- Who signs alone signs what asks for nobody else. -/
theorem newSignedWithPayer_alone {ixs : List Instruction} {payer : Pubkey}
    (h : ∀ ix ∈ ixs, ∀ a ∈ ix.accounts, a.isSigner = true → a.pubkey = payer) :
    (newSignedWithPayer ixs payer [payer] : Outcome (ClusterError E) SignedTx)
      = .ok ⟨payer, ixs⟩ := by
  have hasked : (requests payer ixs).all (fun a => !a.isSigner || [payer].contains a.pubkey) := by
    simp only [requests, TransactionLifecycle.metas, List.all_eq_true, List.mem_cons,
      List.mem_flatMap]
    rintro a (rfl | ⟨ix, hix, rfl | ha⟩)
    · simp [AccountMeta.new]
    · simp
    · cases hs : a.isSigner
      · simp
      · simp [h ix hix a ha hs]
  have hsigns : [payer].all (signs (requests payer ixs)) = true := by
    simp [signs, requests, AccountMeta.new]
  rw [newSignedWithPayer, hasked, hsigns]
  rfl

/-- A transaction is signed by nobody else. -/
theorem signers_subset {ixs : List Instruction} {payer : Pubkey} {signers : List Pubkey}
    {tx : SignedTx}
    (h : (newSignedWithPayer ixs payer signers : Outcome (ClusterError E) SignedTx) = .ok tx) :
    ∀ a ∈ tx.signers, a ∈ signers := by
  unfold newSignedWithPayer at h
  split at h
  · next hall =>
    cases h
    simp only [Bool.and_eq_true, List.all_eq_true] at hall
    simp only [SignedTx.signers, List.mem_map, List.mem_filter]
    rintro a ⟨m, ⟨hm, hs⟩, rfl⟩
    have hsigner := hall.1 m hm
    simpa [hs] using hsigner
  · cases h

def request (f : Ledger → Outcome (ClusterError E) α × Ledger) : ClusterClient E ℓ α :=
  Session.call C.move .transport f

def getLatestBlockhash : ClusterClient E ℓ Unit := C.request fun L => (.ok (), L)

def getMinimumBalanceForRentExemption (space : Nat) : ClusterClient E ℓ UInt64 :=
  C.request fun L => (.ok (UInt64.ofNat (C.rent.minimumBalance space)), L)

/-- What a node shows of a ledger. -/
def view (L : Ledger) : RpcView where
  getAccount := (CounterPda.RpcClient.ofLedger L).getAccount
  executable := C.executable

def getAccount (key : Pubkey) : ClusterClient E ℓ Account := C.request fun L =>
  ((Outcome.ofExcept ((C.view L).getAccount key)).mapErr .client, L)

/-- A node that does not answer. -/
def unanswered : RpcView where
  getAccount _ := .error .accountNotFound
  executable := C.executable

/-- A function that looks at an account, once, and prints what it sees. -/
def display {ℓ' : Type} (shown : ℓ' → ℓ) (f : RpcView → Printed ℓ' CounterPda.ClientError α) :
    ClusterClient E ℓ α :=
  Session.consult C.move fun
    | some L => ⟨(f (C.view L)).lines.map shown, (f (C.view L)).result.mapErr .client⟩
    | none =>
      ⟨(f C.unanswered).lines.map shown, (f C.unanswered).result.mapErr fun _ => .transport⟩

def sendAndConfirmTransaction (tx : SignedTx) : ClusterClient E ℓ Unit := C.request fun L =>
  match C.process L tx with
  | (none, L') => (.ok (), L')
  | (some e, L') => (.err (.transaction e), L')

/-- `simulate_transaction(&tx)?.value.err`. What a simulation does is not kept. -/
def simulateTransaction (tx : SignedTx) : ClusterClient E ℓ (Option (TransactionError E)) :=
  C.request fun L => (.ok (C.process L tx).1, L)

/-- `send` of the clients: the payer signs, and those in `extra`. -/
def send (payer : Pubkey) (ixs : List Instruction) (extra : List Pubkey) :
    ClusterClient E ℓ Unit := do
  C.getLatestBlockhash
  let tx ← Session.lift (newSignedWithPayer ixs payer (payer :: extra))
  C.sendAndConfirmTransaction tx

end Requests

/-! ## What the requests ensure -/

/-- In a calm an error is impossible, and no error ever is one of the client's own. -/
def Excused {E : Type} (calm : Prop) (e : ClusterError E) : Prop := ¬ calm ∧ ∀ c, e ≠ .client c

section Rules

variable {E ℓ α : Type} {C : Cluster E} {allowed : Option (List SignedTx) → Prop} {calm : Prop}
  {P Q : Ledger → Prop}
  (hstable : ∀ L txs, allowed (some txs) → P L → P (txs.foldl C.move L))
  (hlost : allowed none → ¬ calm)

include hstable hlost

theorem ensures_getLatestBlockhash :
    Session.Ensures allowed P (C.getLatestBlockhash : ClusterClient E ℓ Unit) (Excused calm)
      fun _ lines L => lines = [] ∧ P L :=
  .call (Q := fun _ => P) hstable (fun h => ⟨hlost h, nofun⟩) fun _ hP => hP

theorem ensures_getMinimumBalance (space : Nat) :
    Session.Ensures allowed P
      (C.getMinimumBalanceForRentExemption space : ClusterClient E ℓ UInt64) (Excused calm)
      fun n lines L => lines = [] ∧ n = UInt64.ofNat (C.rent.minimumBalance space) ∧ P L :=
  .look (g := fun _ => .ok (UInt64.ofNat (C.rent.minimumBalance space))) hstable
    (fun h => ⟨hlost h, nofun⟩) fun _ _ => rfl

/-- An account that is there. -/
theorem ensures_getAccount {key : Pubkey} (hP : ∀ L, P L → L key ≠ .absent) :
    Session.Ensures allowed P (C.getAccount key : ClusterClient E ℓ Account) (Excused calm)
      fun a lines L => lines = [] ∧ a = L key ∧ P L := by
  have hlost' : allowed none → Excused calm (.transport : ClusterError E) :=
    fun h => ⟨hlost h, nofun⟩
  refine .call (Q := fun (a : Account) L => a = L key ∧ P L) hstable hlost' fun L h => ?_
  have hget : (C.view L).getAccount key = .ok (L key) :=
    CounterPda.RpcClient.serves_ofLedger L key (hP L h)
  rw [hget]
  exact ⟨rfl, h⟩

/-- What is shown of a ledger with `P`. -/
theorem ensures_display {ℓ' : Type} {shown : ℓ' → ℓ} {a : α} {R : List ℓ' → Prop}
    {f : RpcView → Printed ℓ' CounterPda.ClientError α}
    (hf : ∃ e, (f C.unanswered).result = .err e)
    (hP : ∀ L, P L → (f (C.view L)).result = .ok a ∧ R (f (C.view L)).lines) :
    Session.Ensures allowed P (C.display shown f) (Excused calm)
      fun _ lines L => (∃ shownLines, R shownLines ∧ lines = shownLines.map shown) ∧ P L := by
  refine .consult hstable (fun h => ?_) fun L h => ?_
  · obtain ⟨e, he⟩ := hf
    exact ⟨.transport, by simp [he, Outcome.mapErr], hlost h, nofun⟩
  · obtain ⟨hok, hlines⟩ := hP L h
    simp only [hok]
    exact ⟨⟨_, hlines, rfl⟩, h⟩

theorem ensures_simulateTransaction {tx : SignedTx} :
    Session.Ensures allowed P
      (C.simulateTransaction tx : ClusterClient E ℓ (Option (TransactionError E))) (Excused calm)
      fun err lines L => lines = [] ∧ err = (C.process L tx).1 ∧ P L :=
  .call (Q := fun err L => err = (C.process L tx).1 ∧ P L) hstable
    (fun h => ⟨hlost h, nofun⟩) fun _ hP => ⟨rfl, hP⟩

/-- A transaction that is signed by those who have to, and that is carried out in a calm. -/
theorem ensures_send {payer : Pubkey} {ixs : List Instruction} {extra : List Pubkey}
    {tx : SignedTx}
    (hsigned : (newSignedWithPayer ixs payer (payer :: extra) : Outcome (ClusterError E) SignedTx)
      = .ok tx)
    (hok : ∀ L L', P L → C.process L tx = (none, L') → Q L')
    (hcalm : calm → ∀ L, P L → ∃ L', C.process L tx = (none, L')) :
    Session.Ensures allowed P (C.send payer ixs extra : ClusterClient E ℓ Unit) (Excused calm)
      fun _ lines L => lines = [] ∧ Q L := by
  refine .silent (ensures_getLatestBlockhash hstable hlost) fun _ => .lift hsigned ?_
  refine .call hstable (fun h => ⟨hlost h, nofun⟩) fun L hP => ?_
  rcases hp : C.process L tx with ⟨_ | e, L'⟩
  · exact hok L L' hP hp
  · refine ⟨fun hc => ?_, nofun⟩
    obtain ⟨L'', hL''⟩ := hcalm hc L hP
    rw [hp] at hL''
    cases hL''

end Rules

/-! ## Pre- and postconditions of transactions -/

section Carried

variable {E ℓ : Type} {C : Cluster E} {S : List Pubkey} {P P' Q R : Ledger → Prop}
  {ix : Instruction} {ixs : List Instruction} {tx : SignedTx} {L : Ledger}

/-- On a ledger with `P` every one of them is executed, and `Q` is left. -/
def Carries (C : Cluster E) (S : List Pubkey) (P : Ledger → Prop) (ixs : List Instruction)
    (Q : Ledger → Prop) : Prop :=
  ∀ L, P L → ∃ L', C.Executes S ixs L L' ∧ Q L'

theorem Carries.nil : C.Carries S P [] P := fun L h => ⟨L, rfl, h⟩

theorem Carries.cons (hfirst : ∀ L, P L → ∃ L', C.execute S ix L = .ok L' ∧ R L')
    (hrest : C.Carries S R ixs Q) : C.Carries S P (ix :: ixs) Q := by
  intro L hL
  obtain ⟨L₁, hx, hR⟩ := hfirst L hL
  obtain ⟨L', hxs, hQ⟩ := hrest L₁ hR
  exact ⟨L', ⟨L₁, hx, hxs⟩, hQ⟩

theorem Carries.weaken (h : C.Carries S P ixs Q) (hQ : ∀ L, Q L → R L) : C.Carries S P ixs R := by
  intro L hL
  obtain ⟨L', hxs, h'⟩ := h L hL
  exact ⟨L', hxs, hQ L' h'⟩

/-- The fee, the instructions, and no rent. -/
theorem Carries.process (h : C.Carries tx.signers P' tx.instructions Q)
    (hpaid : ∀ L, P L → C.Payable L tx ∧ P' (C.charge L tx))
    (hclear : ∀ L, Q L → ∀ a ∈ tx.writable, C.rent.Clear (L a)) (hL : P L) :
    ∃ L', C.process L tx = (none, L') ∧ Q L' := by
  obtain ⟨hpay, hcharged⟩ := hpaid L hL
  obtain ⟨L', hxs, hQ⟩ := h _ hcharged
  have hallowed : ∀ a ∈ tx.writable, C.rent.allows (C.charge L tx a) (L' a) = true :=
    fun a ha => Rent.Steady.allows (Or.inl (hclear L' hQ a ha))
  exact ⟨L', process_eq_none.mpr ⟨hpay, hxs, hallowed⟩, hQ⟩

/-- **A transaction that is carried out whenever it arrives.** -/
theorem ensures_carried {allowed : Option (List SignedTx) → Prop} {calm : Prop} {payer : Pubkey}
    {extra : List Pubkey}
    (hstable : ∀ L txs, allowed (some txs) → P L → P (txs.foldl C.move L))
    (hlost : allowed none → ¬ calm)
    (hsigned : (newSignedWithPayer ixs payer (payer :: extra) : Outcome (ClusterError E) SignedTx)
      = .ok ⟨payer, ixs⟩)
    (hpaid : ∀ L, P L → C.Payable L ⟨payer, ixs⟩ ∧ P' (C.charge L ⟨payer, ixs⟩))
    (hclear : ∀ L, Q L → ∀ a ∈ (SignedTx.mk payer ixs).writable, C.rent.Clear (L a))
    (h : C.Carries (SignedTx.mk payer ixs).signers P' ixs Q) :
    Session.Ensures allowed P (C.send payer ixs extra : ClusterClient E ℓ Unit) (Excused calm)
      fun _ lines L => lines = [] ∧ Q L := by
  refine ensures_send hstable hlost hsigned (fun L L' hP hp => ?_) fun _ L hP => ?_
  · obtain ⟨L'', hp', hQ⟩ := h.process hpaid hclear hP
    rw [hp'] at hp
    cases hp
    exact hQ
  · obtain ⟨L', hp, -⟩ := h.process hpaid hclear hP
    exact ⟨L', hp⟩

end Carried

end Cluster

end BootcampSolana
