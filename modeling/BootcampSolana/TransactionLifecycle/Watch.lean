import BootcampSolana.Console
import Mathlib.Data.List.Destutter

/-!
# Watching the commitment levels

`watch` of `04-transaction-lifecycle/src/main.rs` polls the status of a signature until it is
finalized or the time budget is used up. How many polls fit into the budget is not for the
program to say: the polls are a list, and when they are used up, so is the budget. The elapsed
time that every line starts with is left out.

* `watch_eq` — the lines and the polls that are left
* `watch_levels` — the levels are those that were seen, cut after the first `Finalized`, without
  repetitions
-/

namespace BootcampSolana.TransactionLifecycle

inductive TransactionConfirmationStatus where
  | processed
  | confirmed
  | finalized
  deriving DecidableEq

/-- `format!("{c:?}")`. -/
def TransactionConfirmationStatus.debug : TransactionConfirmationStatus → String
  | .processed => "Processed"
  | .confirmed => "Confirmed"
  | .finalized => "Finalized"

/-- What a node says about a signature. The error is that of the transaction itself. -/
structure TransactionStatus where
  slot : UInt64
  confirmations : Option Nat
  err : Option String
  confirmationStatus : Option TransactionConfirmationStatus
  deriving DecidableEq

/-- The answer to `get_signature_statuses`, one place for each signature asked about. -/
abbrev Poll (ε : Type) := Except ε (List (Option TransactionStatus))

inductive WatchLine where
  | level (level : String) (slot : UInt64) (confirmations : Option Nat)
  | gaveUp
  deriving DecidableEq

/-! ## The source -/

open Printed

variable {ε : Type}

def TransactionStatus.level (st : TransactionStatus) : String :=
  match st.confirmationStatus.map TransactionConfirmationStatus.debug with
  | some level => level
  | none => "?"

/-- The loop, for the polls that the budget allows. Returns those that were not made. -/
def watchLoop : (last : String) → List (Poll ε) → Printed WatchLine ε (List (Poll ε))
  | _, [] => do
    print .gaveUp
    pure []
  | last, poll :: polls => do
    let value ← lift (.ofExcept poll)
    let status ← lift (indexVec value 0)
    match status with
    | some st =>
      let last ←
        if st.level ≠ last then do
          print (.level st.level st.slot st.confirmations)
          pure st.level
        else pure last
      if st.level = "Finalized" then pure polls else watchLoop last polls
    | none => watchLoop last polls

def watch (polls : List (Poll ε)) : Printed WatchLine ε (List (Poll ε)) := watchLoop "" polls

/-! ## What it prints -/

/-- Polls that all succeed, for the one signature that is asked about. -/
def answered (statuses : List (Option TransactionStatus)) : List (Poll ε) :=
  statuses.map fun status => .ok [status]

def TransactionStatus.isFinalized (st : TransactionStatus) : Bool := st.level = "Finalized"

/-- The list up to the first element with `p`, which is the last of it. -/
def through {α : Type} (p : α → Bool) (l : List α) : List α := l.take (l.findIdx p + 1)

/-- What comes after the first element with `p`. -/
def beyond {α : Type} (p : α → Bool) (l : List α) : List α := l.drop (l.findIdx p + 1)

def TransactionStatus.line (st : TransactionStatus) : WatchLine :=
  .level st.level st.slot st.confirmations

/-- The last line, when the budget is used up. -/
def closing (seen : List TransactionStatus) : List WatchLine :=
  if seen.any TransactionStatus.isFinalized then [] else [.gaveUp]

section Lists

variable {α β : Type} {p : α → Bool} {a : α} {l : List α}

@[simp] theorem through_nil : through p [] = [] := rfl

@[simp] theorem through_cons : through p (a :: l) = if p a then [a] else a :: through p l := by
  unfold through
  by_cases h : p a
  · simp [List.findIdx_cons, h]
  · simp [List.findIdx_cons, h]

@[simp] theorem beyond_nil : beyond p [] = [] := rfl

@[simp] theorem beyond_cons : beyond p (a :: l) = if p a then l else beyond p l := by
  unfold beyond
  by_cases h : p a
  · simp [List.findIdx_cons, h]
  · simp [List.findIdx_cons, h]

theorem map_through (f : α → β) (q : β → Bool) :
    (through (q ∘ f) l).map f = through q (l.map f) := by
  induction l with
  | nil => rfl
  | cons a l ih =>
    by_cases h : q (f a)
    · simp [h]
    · simp [h, ih]

/-- The element that the search for repetitions starts from stays in front. -/
theorem cons_tail_destutter' {R : α → α → Prop} [DecidableRel R] :
    a :: (l.destutter' R a).tail = l.destutter' R a := by
  induction l with
  | nil => rfl
  | cons b l ih =>
    rw [List.destutter'_cons]
    split
    · rfl
    · exact ih

end Lists

variable {statuses : List (Option TransactionStatus)} {st prev : TransactionStatus} {last : String}

/-- The statuses that a node gave. -/
def present (statuses : List (Option TransactionStatus)) : List TransactionStatus :=
  statuses.reduceOption

/-- The polls that are not made any more. -/
def unpolled (statuses : List (Option TransactionStatus)) : List (Option TransactionStatus) :=
  beyond (fun status => status.any TransactionStatus.isFinalized) statuses

/-- Consecutive statuses of different levels. -/
def Changes (a b : TransactionStatus) : Prop := a.level ≠ b.level

instance : DecidableRel Changes := fun _ _ => inferInstanceAs (Decidable (_ ≠ _))

@[simp] theorem present_none : present (none :: statuses) = present statuses := rfl

@[simp] theorem present_some : present (some st :: statuses) = st :: present statuses := rfl

@[simp] theorem unpolled_none : unpolled (none :: statuses) = unpolled statuses := by
  simp [unpolled]

@[simp] theorem unpolled_some : unpolled (some st :: statuses) =
    if st.isFinalized then statuses else unpolled statuses := by
  simp [unpolled]

@[simp] theorem closing_cons {seen : List TransactionStatus} :
    closing (st :: seen) = if st.isFinalized then [] else closing seen := by
  by_cases h : st.isFinalized
  · simp [closing, h]
  · simp [closing, h]

theorem watchLoop_none : (watchLoop last (answered (none :: statuses)) : Printed WatchLine ε _) =
    watchLoop last (answered statuses) := rfl

/-- One round that sees a status. -/
theorem watchLoop_some : (watchLoop last (answered (some st :: statuses)) : Printed WatchLine ε _) =
    ((⟨if st.level = last then [] else [st.line], .ok ()⟩ : Printed WatchLine ε Unit) >>= fun _ =>
      if st.isFinalized then pure (answered statuses)
      else watchLoop st.level (answered statuses)) := by
  by_cases hlast : st.level = last
  · subst hlast
    simp [answered, watchLoop, TransactionStatus.isFinalized, Outcome.ofExcept, indexVec]
  · simp [answered, watchLoop, TransactionStatus.isFinalized, TransactionStatus.line, hlast,
      Outcome.ofExcept, indexVec]

/-- The loop, after a line for `prev`: the search for repetitions goes on from there. -/
theorem watchLoop_after : (watchLoop prev.level (answered statuses) : Printed WatchLine ε _) =
    ⟨((through TransactionStatus.isFinalized (present statuses)).destutter' Changes prev).tail.map
        TransactionStatus.line ++ closing (present statuses),
      .ok (answered (unpolled statuses))⟩ := by
  induction statuses generalizing prev with
  | nil => rfl
  | cons status statuses ih =>
    cases status with
    | none => rw [watchLoop_none, ih, present_none, unpolled_none]
    | some st =>
      rw [watchLoop_some, present_some, unpolled_some, closing_cons, through_cons]
      by_cases hsame : st.level = prev.level
      · -- no line: the search for repetitions goes on from `prev`
        have hchange : ¬ Changes prev st := fun h => h hsame.symm
        rw [hsame, ih]
        by_cases hfinal : st.isFinalized
        · simp [hfinal, hchange]
        · simp [hfinal, hchange]
      · -- a line: it goes on from `st`, which stays in front
        have hchange : Changes prev st := fun h => hsame h.symm
        have hfront := @cons_tail_destutter' _ st
          (through TransactionStatus.isFinalized (present statuses)) Changes _
        rw [ih]
        by_cases hfinal : st.isFinalized
        · simp [hfinal, hsame, hchange]
        · simp [hfinal, hsame, hchange]
          rw [← hfront]
          rfl

/-- The loop before the first line, for a `last` that is no level. -/
theorem watchLoop_start (hlast : ∀ st : TransactionStatus, st.level ≠ last) :
    (watchLoop last (answered statuses) : Printed WatchLine ε _) =
      ⟨((through TransactionStatus.isFinalized (present statuses)).destutter Changes).map
          TransactionStatus.line ++ closing (present statuses),
        .ok (answered (unpolled statuses))⟩ := by
  induction statuses with
  | nil => rfl
  | cons status statuses ih =>
    cases status with
    | none => rw [watchLoop_none, ih, present_none, unpolled_none]
    | some st =>
      have hfront := @cons_tail_destutter' _ st
        (through TransactionStatus.isFinalized (present statuses)) Changes _
      rw [watchLoop_some, watchLoop_after, present_some, unpolled_some, closing_cons, through_cons]
      by_cases hfinal : st.isFinalized
      · simp [hfinal, hlast st]
      · simp [hfinal, hlast st, List.destutter_cons']
        rw [← hfront]
        rfl

theorem TransactionStatus.level_ne_empty (st : TransactionStatus) : st.level ≠ "" := by
  unfold TransactionStatus.level
  rcases st.confirmationStatus with _ | status
  · decide
  · cases status <;> decide

/-- What `watch` prints, and which polls it does not make. -/
theorem watch_eq : (watch (answered statuses) : Printed WatchLine ε _) =
    ⟨((through TransactionStatus.isFinalized (present statuses)).destutter Changes).map
        TransactionStatus.line ++ closing (present statuses),
      .ok (answered (unpolled statuses))⟩ :=
  watchLoop_start TransactionStatus.level_ne_empty

/-! ## Levels -/

/-- The level that a line reports. -/
def WatchLine.level? : WatchLine → Option String
  | .level name _ _ => some name
  | .gaveUp => none

/-- The levels that were seen, in the order in which they were. -/
def levels (statuses : List (Option TransactionStatus)) : List String :=
  (present statuses).map TransactionStatus.level

theorem filterMap_line (seen : List TransactionStatus) :
    (seen.map TransactionStatus.line).filterMap WatchLine.level? =
      seen.map TransactionStatus.level := by
  rw [List.filterMap_map]
  exact congrFun List.filterMap_eq_map seen

theorem any_isFinalized (seen : List TransactionStatus) :
    seen.any TransactionStatus.isFinalized = true ↔
      "Finalized" ∈ seen.map TransactionStatus.level := by
  simp [TransactionStatus.isFinalized]

/--
**Each change of the commitment level is reported once.** The level lines are the levels that
were seen, cut after the first `Finalized`, without consecutive repetitions; what is not there
neither prints nor ends a repetition. Nothing is polled after the first `Finalized`, and `watch`
gives up if and only if there is none.
-/
theorem watch_levels (statuses : List (Option TransactionStatus)) :
    (watch (answered statuses) : Printed WatchLine ε _).lines.filterMap WatchLine.level? =
      (through (· = "Finalized") (levels statuses)).destutter (· ≠ ·) ∧
    (.gaveUp ∈ (watch (answered statuses) : Printed WatchLine ε _).lines ↔
      "Finalized" ∉ levels statuses) ∧
    (watch (answered statuses) : Printed WatchLine ε _).result =
      .ok (answered (beyond
        (fun status => status.map TransactionStatus.level = some "Finalized") statuses)) := by
  rw [watch_eq]
  dsimp only
  have hclosing : (closing (present statuses)).filterMap WatchLine.level? = [] := by
    unfold closing
    split <;> rfl
  refine ⟨?_, ?_, ?_⟩
  · have hmap : ((through TransactionStatus.isFinalized (present statuses)).destutter Changes).map
        TransactionStatus.level =
          ((through TransactionStatus.isFinalized (present statuses)).map
            TransactionStatus.level).destutter (· ≠ ·) :=
      List.map_destutter fun _ _ _ _ => Iff.rfl
    rw [List.filterMap_append, filterMap_line, hclosing, List.append_nil, hmap, levels,
      ← map_through]
    rfl
  · have hline : .gaveUp ∉ ((through TransactionStatus.isFinalized (present statuses)).destutter
        Changes).map TransactionStatus.line := by
      simp [TransactionStatus.line]
    rw [List.mem_append, or_iff_right hline, levels, ← any_isFinalized]
    simp [closing]
  · have hfinal :
        (fun status : Option TransactionStatus => status.any TransactionStatus.isFinalized) =
          fun status => decide (status.map TransactionStatus.level = some "Finalized") := by
      funext status
      cases status <;> simp [TransactionStatus.isFinalized]
    rw [unpolled, hfinal]

end BootcampSolana.TransactionLifecycle
