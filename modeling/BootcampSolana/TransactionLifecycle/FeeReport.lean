import BootcampSolana.TransactionLifecycle.Explorer
import BootcampSolana.TransactionLifecycle.Watch

/-!
# The fee report

Section 4 of `main` in `04-transaction-lifecycle/src/main.rs` submits a transfer of 100,000,000
lamports, watches it, and reports as the fee what the payer has lost beyond these. But `watch`
returns `Ok` when it gives up as well, and it never looks at the error of the transaction, so the
report is made for transfers that did not take place too.

* `Settles` — what has become of the payer's balance
* `fee_report` — when the report panics, and when it is right
-/

namespace BootcampSolana.TransactionLifecycle

/-! ## The source -/

/-- What the node answers in this section. -/
structure Submission (ε : Type) where
  before : Except ε UInt64
  sent : Except ε Signature
  polls : List (Poll ε)
  after : Except ε UInt64

inductive SubmitLine where
  | submitted (sig : Signature)
  | watched (line : WatchLine)
  | payerPaid (paid fee : UInt64)
  | explorer (link : String)
  deriving DecidableEq

open Printed

variable {ε : Type}

def submit (url : String) (node : Submission ε) : Printed SubmitLine ε Unit := do
  let before ← lift (.ofExcept node.before)
  let sig ← lift (.ofExcept node.sent)
  print (.submitted sig)
  let _ ← (watch node.polls).mapLines .watched
  let after ← lift (.ofExcept node.after)
  println (do
    let paid ← minus before after
    let fee ← minus (← minus before after) 100000000
    return .payerPaid paid fee)
  print (.explorer (explorer url sig))

/-! ## What has happened -/

/-- What has become of the transaction. A failed one is charged for all the same. -/
inductive Fate where
  | succeeded (fee : Nat)
  | failed (fee : Nat)
  | absent
  deriving DecidableEq

/-- The fee that the payer was charged. -/
def Fate.charged : Fate → Nat
  | .succeeded fee => fee
  | .failed fee => fee
  | .absent => 0

/-- What the transfer took from the payer. -/
def Fate.moved : Fate → Nat
  | .succeeded _ => 100000000
  | .failed _ => 0
  | .absent => 0

/-- The payer's balance after the fact, with what came in and went out besides. -/
def Settles (before after : UInt64) (fate : Fate) (credited withdrawn : Nat) : Prop :=
  after.toNat + fate.charged + fate.moved + withdrawn = before.toNat + credited

/-- The node answers, and `watch` returns `Ok`. -/
structure Answers (node : Submission ε) (before after : UInt64) : Prop where
  before : node.before = .ok before
  sent : ∃ sig, node.sent = .ok sig
  watched : ∃ rest, (watch node.polls).result = .ok rest
  after : node.after = .ok after

/-- The report is made, and the fee in it is the one that was charged. -/
def Reports (url : String) (node : Submission ε) (charged : Nat) : Prop :=
  (submit url node).result = .ok () ∧
    ∃ paid fee, .payerPaid paid fee ∈ (submit url node).lines ∧ fee.toNat = charged

variable {url : String} {node : Submission ε} {before after : UInt64} {fate : Fate}
  {credited withdrawn charged : Nat}

/-- The line of the report, or a panic. -/
def report (before after : UInt64) : Outcome ε SubmitLine :=
  if after.toNat + 100000000 ≤ before.toNat then
    .ok (.payerPaid (before - after) (before - after - 100000000))
  else .panicked

theorem toNat_fee (h : after.toNat + 100000000 ≤ before.toNat) :
    (before - after - 100000000).toNat = before.toNat - after.toNat - 100000000 := by
  have hafter : after ≤ before := UInt64.le_iff_toNat_le.mpr (by omega)
  have hpaid := UInt64.toNat_sub_of_le before after hafter
  have hamount : (100000000 : UInt64) ≤ before - after := by
    rw [UInt64.le_iff_toNat_le, hpaid]
    show 100000000 ≤ _
    omega
  rw [UInt64.toNat_sub_of_le _ _ hamount, hpaid]
  rfl

/-- Both subtractions succeed if what was to be transferred is missing. -/
theorem report_eq : (do
    let paid ← minus before after
    let fee ← minus (← minus before after) 100000000
    return .payerPaid paid fee : Outcome ε SubmitLine) = report before after := by
  unfold report
  by_cases hafter : after ≤ before
  · have hle := UInt64.le_iff_toNat_le.mp hafter
    have hpaid := UInt64.toNat_sub_of_le before after hafter
    have hamount : (100000000 : UInt64) ≤ before - after ↔
        after.toNat + 100000000 ≤ before.toNat := by
      rw [UInt64.le_iff_toNat_le, hpaid]
      show 100000000 ≤ _ ↔ _
      omega
    by_cases h : after.toNat + 100000000 ≤ before.toNat
    · simp [minus_eq_ok hafter, minus_eq_ok (hamount.mpr h), h]
    · rw [minus_eq_ok hafter, if_neg h]
      simp only [Outcome.bind_ok]
      rw [minus_eq_panicked fun hle => h (hamount.mp hle)]
      rfl
  · have hlt : ¬ after.toNat + 100000000 ≤ before.toNat := by
      intro h
      exact hafter (UInt64.le_iff_toNat_le.mpr (by omega))
    rw [minus_eq_panicked hafter, if_neg hlt]
    rfl

/-- The section up to the report, and the report. -/
theorem submit_eq (h : Answers node before after) : ∃ sig lines,
    (∀ paid fee, .payerPaid paid fee ∉ lines) ∧
    submit url node = ((⟨lines, .ok ()⟩ : Printed SubmitLine ε Unit) >>= fun _ => do
      println (report before after)
      print (.explorer (explorer url sig))) := by
  obtain ⟨sig, hsig⟩ := h.sent
  obtain ⟨rest, hrest⟩ := h.watched
  have hwatch : (watch node.polls).mapLines SubmitLine.watched =
      ⟨(watch node.polls).lines.map SubmitLine.watched, .ok rest⟩ := by
    rw [← hrest]
    rfl
  refine ⟨sig, .submitted sig :: (watch node.polls).lines.map SubmitLine.watched, ?_, ?_⟩
  · intro paid fee
    simp
  · unfold submit
    rw [h.before, hsig, h.after, hwatch, ← report_eq]
    rfl

theorem submit_ok (h : Answers node before after)
    (hle : after.toNat + 100000000 ≤ before.toNat) :
    (submit url node).result = .ok () ∧ ∀ paid fee, .payerPaid paid fee ∈ (submit url node).lines ↔
      paid = before - after ∧ fee = before - after - 100000000 := by
  obtain ⟨sig, lines, hlines, heq⟩ := @submit_eq _ url _ _ _ h
  rw [heq, report, if_pos hle]
  refine ⟨rfl, ?_⟩
  intro paid fee
  simp [print, hlines]

theorem submit_panicked (h : Answers node before after)
    (hle : ¬ after.toNat + 100000000 ≤ before.toNat) : (submit url node).result = .panicked := by
  obtain ⟨sig, lines, -, heq⟩ := @submit_eq _ url _ _ _ h
  rw [heq, report, if_neg hle]
  rfl

/-! ## When the report is right -/

/--
**The report panics or is wrong, unless exactly the transfer is missing.** Once `watch` has
returned `Ok`, it panics if less is missing than was to be transferred, and what it reports is the
fee if and only if the payer has lost the transferred amount besides the fee. Without other
withdrawals this means that the transfer took place and nothing came in meanwhile.
-/
theorem fee_report (h : Answers node before after)
    (hsettles : Settles before after fate credited withdrawn) :
    ((submit url node).result = .panicked ↔
      fate.charged + fate.moved + withdrawn < 100000000 + credited) ∧
    (Reports url node fate.charged ↔ fate.moved + withdrawn = 100000000 + credited) ∧
    (withdrawn = 0 → (Reports url node fate.charged ↔
      (∃ fee, fate = .succeeded fee) ∧ credited = 0)) := by
  unfold Settles at hsettles
  have hmissing : after.toNat + 100000000 ≤ before.toNat ↔
      100000000 + credited ≤ fate.charged + fate.moved + withdrawn := by
    omega
  have hpanic : (submit url node).result = .panicked ↔
      fate.charged + fate.moved + withdrawn < 100000000 + credited := by
    constructor
    · intro hp
      by_contra hlt
      have hok := (@submit_ok _ url _ _ _ h (hmissing.mpr (Nat.le_of_not_lt hlt))).1
      rw [hp] at hok
      cases hok
    · intro hlt
      exact submit_panicked h fun hle => Nat.not_le_of_lt hlt (hmissing.mp hle)
  have hreports : Reports url node fate.charged ↔
      fate.moved + withdrawn = 100000000 + credited := by
    by_cases hle : after.toNat + 100000000 ≤ before.toNat
    · obtain ⟨hok, hline⟩ := @submit_ok _ url _ _ _ h hle
      have hfee := toNat_fee hle
      constructor
      · rintro ⟨-, paid, fee, hmem, hcharged⟩
        obtain ⟨-, rfl⟩ := (hline paid fee).mp hmem
        omega
      · intro hmoved
        exact ⟨hok, _, _, (hline _ _).mpr ⟨rfl, rfl⟩, by omega⟩
    · have hp := @submit_panicked _ url _ _ _ h hle
      constructor
      · rintro ⟨hok, -⟩
        rw [hp] at hok
        cases hok
      · intro hmoved
        exact absurd (hmissing.mpr (by omega)) hle
  refine ⟨hpanic, hreports, ?_⟩
  rintro rfl
  rw [hreports]
  cases fate with
  | succeeded fee => simp [Fate.moved]
  | failed fee =>
    simp [Fate.moved]
    omega
  | absent =>
    simp [Fate.moved]
    omega

/-- A node on which nothing has happened to the transaction, whatever was polled. -/
def silent : Submission Empty where
  before := .ok 2000000000
  sent := .ok ⟨List.replicate 64 0, rfl⟩
  polls := [.ok [none], .ok [none]]
  after := .ok 2000000000

/-- A node on which the transfer is finalized for 5010 lamports. -/
def finalizing : Submission Empty where
  before := .ok 2000000000
  sent := .ok ⟨List.replicate 64 0, rfl⟩
  polls := [.ok [none], .ok [some ⟨4, none, none, some .finalized⟩]]
  after := .ok 1899994990

theorem fee_report_finalizing : Reports "http://127.0.0.1:8899" finalizing 5010 :=
  (@fee_report Empty "http://127.0.0.1:8899" finalizing 2000000000 1899994990 (.succeeded 5010) 0 0
    ⟨rfl, ⟨_, rfl⟩, ⟨[], rfl⟩, rfl⟩ rfl).2.1.mpr rfl

/-- A transaction that has not landed when `watch` gives up makes the report panic. -/
theorem fee_report_silent :
    (watch silent.polls).result = .ok [] ∧
    Settles 2000000000 2000000000 .absent 0 0 ∧
    (submit "http://127.0.0.1:8899" silent).result = .panicked ∧
    ¬ Reports "http://127.0.0.1:8899" silent 0 := by
  have hp : (submit "http://127.0.0.1:8899" silent).result = .panicked :=
    @submit_panicked Empty "http://127.0.0.1:8899" silent 2000000000 2000000000
      ⟨rfl, ⟨_, rfl⟩, ⟨[], rfl⟩, rfl⟩ (by decide)
  refine ⟨rfl, rfl, hp, ?_⟩
  rintro ⟨hok, -⟩
  rw [hp] at hok
  cases hok

end BootcampSolana.TransactionLifecycle
