import BootcampSolana.Lib.Machine

/-!
# Atomic batches

A batch is a list of actions that take effect together. The actions are taken in order until
one is refused, that is, until its answer is not `good`. Then the state is put back to the one
before the batch, and the answer says which action was refused and how.

* `batch_eq_none`, `batch_eq_some` — when a batch is carried out and when it is not
* `run_batch` — a run of batches is the run of the actions that were carried out
* `Keeps.batch` — what every action keeps, every batch keeps
* `Unwinding.batch` — two runs that agree on one side's batches agree on what that side sees
-/

namespace Machine

variable {S A O : Type} (step : S → A → O × S) (good : O → Bool)

/-- The first action that is refused, counted from `i`, and its answer. -/
def firstRefused (s : S) : (i : Nat) → List A → Option (Nat × O)
  | _, [] => none
  | i, a :: as =>
    if good (step s a).1 then firstRefused (step s a).2 (i + 1) as else some (i, (step s a).1)

/-- All of the actions, or none. -/
def batch (s : S) (as : List A) : Option (Nat × O) × S :=
  match firstRefused step good s 0 as with
  | none => (none, run step s as)
  | some refused => (some refused, s)

/-- Of batches and their answers, the batches that were carried out. -/
def landed (tr : List (List A × Option (Nat × O))) : List (List A) :=
  (tr.filter (·.2.isNone)).map Prod.fst

variable {step good} {s s' : S} {a : A} {as : List A} {i j : Nat} {o : O}

theorem trace_append (s : S) (as bs : List A) :
    trace step s (as ++ bs) = trace step s as ++ trace step (run step s as) bs := by
  induction as generalizing s with
  | nil => rfl
  | cons a as ih => exact congrArg (_ :: ·) (ih (step s a).2)

theorem map_fst_trace (s : S) (as : List A) : (trace step s as).map Prod.fst = as := by
  induction as generalizing s with
  | nil => rfl
  | cons a as ih => exact congrArg (a :: ·) (ih (step s a).2)

/-! ## One batch -/

theorem firstRefused_cons_good (h : good (step s a).1 = true) :
    firstRefused step good s i (a :: as) = firstRefused step good (step s a).2 (i + 1) as :=
  if_pos h

theorem firstRefused_cons_bad (h : good (step s a).1 = false) :
    firstRefused step good s i (a :: as) = some (i, (step s a).1) :=
  if_neg (by simp [h])

/-- Nothing is refused when every answer of the run is good. -/
theorem firstRefused_eq_none :
    firstRefused step good s i as = none ↔ ∀ e ∈ trace step s as, good e.2 = true := by
  induction as generalizing s i with
  | nil => simp [firstRefused, trace]
  | cons a as ih =>
    rcases h : good (step s a).1 with _ | _
    · simp [firstRefused_cons_bad h, trace, h]
    · simp [firstRefused_cons_good h, trace, h, ih]

/-- What is refused comes after actions whose answers are good. -/
theorem firstRefused_eq_some : firstRefused step good s i as = some (j, o) ↔
    ∃ before a after, as = before ++ a :: after ∧ j = i + before.length ∧
      (∀ e ∈ trace step s before, good e.2 = true) ∧
      o = (step (run step s before) a).1 ∧ good o = false := by
  induction as generalizing s i with
  | nil => simp [firstRefused]
  | cons a as ih =>
    rcases h : good (step s a).1 with _ | _
    · rw [firstRefused_cons_bad h, Option.some.injEq, Prod.mk.injEq]
      constructor
      · rintro ⟨rfl, rfl⟩
        exact ⟨[], a, as, rfl, rfl, nofun, rfl, h⟩
      · rintro ⟨before, a', after, heq, rfl, hgood, rfl, -⟩
        cases before with
        | nil =>
          cases heq
          exact ⟨rfl, rfl⟩
        | cons b before =>
          cases heq
          have hb := hgood _ List.mem_cons_self
          rw [h] at hb
          cases hb
    · rw [firstRefused_cons_good h, ih]
      constructor
      · rintro ⟨before, a', after, rfl, rfl, hgood, ho, hbad⟩
        refine ⟨a :: before, a', after, rfl, ?_, ?_, ho, hbad⟩
        · rw [List.length_cons]
          omega
        · intro e he
          rcases List.mem_cons.mp he with rfl | he
          · exact h
          · exact hgood e he
      · rintro ⟨before, a', after, heq, rfl, hgood, rfl, hbad⟩
        cases before with
        | nil =>
          cases heq
          change good (step s a).1 = false at hbad
          rw [h] at hbad
          cases hbad
        | cons b before =>
          cases heq
          refine ⟨before, a', after, rfl, ?_, fun e he => hgood e (List.mem_cons_of_mem _ he), rfl,
            hbad⟩
          rw [List.length_cons]
          omega

/-- **A batch that is carried out** is a run whose answers are all good. -/
theorem batch_eq_none : batch step good s as = (none, s') ↔
    (∀ e ∈ trace step s as, good e.2 = true) ∧ s' = run step s as := by
  unfold batch
  rcases h : firstRefused step good s 0 as with _ | refused
  · rw [Prod.mk.injEq]
    exact ⟨fun he => ⟨firstRefused_eq_none.mp h, he.2.symm⟩, fun he => ⟨rfl, he.2.symm⟩⟩
  · constructor
    · intro hc
      cases hc
    · rintro ⟨hgood, -⟩
      rw [firstRefused_eq_none.mpr hgood] at h
      cases h

/-- **A batch that is refused** changes nothing, and names the first action that was. -/
theorem batch_eq_some : batch step good s as = (some (j, o), s') ↔
    s' = s ∧ ∃ before a after, as = before ++ a :: after ∧ j = before.length ∧
      (∀ e ∈ trace step s before, good e.2 = true) ∧
      o = (step (run step s before) a).1 ∧ good o = false := by
  have hiff := @firstRefused_eq_some S A O step good s as 0 j o
  simp only [Nat.zero_add] at hiff
  rw [← hiff]
  unfold batch
  rcases firstRefused step good s 0 as with _ | refused
  · simp
  · simp [eq_comm, and_comm]

theorem batch_cases (step : S → A → O × S) (good : O → Bool) (s : S) (as : List A) :
    (batch step good s as = (none, run step s as) ∧ ∀ e ∈ trace step s as, good e.2 = true) ∨
      ∃ refused, batch step good s as = (some refused, s) := by
  unfold batch
  rcases h : firstRefused step good s 0 as with _ | refused
  · exact Or.inl ⟨rfl, firstRefused_eq_none.mp h⟩
  · exact Or.inr ⟨refused, rfl⟩

/-! ## Runs of batches -/

@[simp] theorem landed_cons_none (b : List A) (tr : List (List A × Option (Nat × O))) :
    landed ((b, none) :: tr) = b :: landed tr := by simp [landed]

@[simp] theorem landed_cons_some (b : List A) (refused : Nat × O)
    (tr : List (List A × Option (Nat × O))) :
    landed ((b, some refused) :: tr) = landed tr := by simp [landed]

/-- **Runs of batches** are runs of the actions that landed, none of which is refused. -/
theorem run_batch (step : S → A → O × S) (good : O → Bool) (s : S) (bs : List (List A)) :
    run (batch step good) s bs = run step s (landed (trace (batch step good) s bs)).flatten ∧
      ∀ e ∈ trace step s (landed (trace (batch step good) s bs)).flatten, good e.2 = true := by
  induction bs generalizing s with
  | nil => exact ⟨rfl, nofun⟩
  | cons b bs ih =>
    rcases batch_cases step good s b with ⟨h, hgood⟩ | ⟨refused, h⟩
    · obtain ⟨hr, hg⟩ := ih (run step s b)
      simp only [run, trace, h, landed_cons_none, List.flatten_cons, run_append, trace_append]
      refine ⟨hr, ?_⟩
      intro e he
      rcases List.mem_append.mp he with he | he
      · exact hgood e he
      · exact hg e he
    · simp only [run, trace, h, landed_cons_some]
      exact ih s

/-- **Invariants of batches.** -/
theorem Keeps.batch (good : O → Bool) {P : A → Prop} {I : S → Prop} (hk : Keeps step P I) :
    Keeps (batch step good) (fun b => ∀ a ∈ b, P a) I := by
  intro s b hb hs
  rcases batch_cases step good s b with ⟨h, -⟩ | ⟨refused, h⟩
  · rw [h]
    exact run_invariant hk hs hb
  · rw [h]
    exact hs

/-! ## Batches of one side -/

section Sides

variable {Sim : S → S → Prop} {visible seen : A → Bool}

/-- A batch all of whose actions are `seen`, or none of whose actions is `visible`. -/
abbrev SidedBatch (visible seen : A → Bool) :=
  { b : List A // (∀ a ∈ b, seen a = true) ∨ ∀ a ∈ b, visible a = false }

/-- The batches with an action that is `seen`. -/
def SidedBatch.touches (b : SidedBatch visible seen) : Bool := b.1.any seen

/-- Actions that cannot be seen keep the relation on the left. -/
theorem Unwinding.run_left (h : Unwinding step Sim visible seen) {s t : S} {as : List A}
    (hst : Sim s t) (has : ∀ a ∈ as, visible a = false) : Sim (run step s as) t := by
  induction as generalizing s with
  | nil => exact hst
  | cons a as ih =>
    exact ih (h.invisible s t a hst (has a List.mem_cons_self))
      fun b hb => has b (List.mem_cons_of_mem a hb)

/-- The same actions on both sides, all of which are seen, keep it and answer the same. -/
theorem Unwinding.run_both (good : O → Bool) (h : Unwinding step Sim visible seen) {s t : S}
    {as : List A}
    (hst : Sim s t) (has : ∀ a ∈ as, seen a = true) :
    Sim (run step s as) (run step t as) ∧
      ∀ i, firstRefused step good s i as = firstRefused step good t i as := by
  induction as generalizing s t with
  | nil => exact ⟨hst, fun _ => rfl⟩
  | cons a as ih =>
    have ha := has a List.mem_cons_self
    have hout := h.output s t a hst ha
    obtain ⟨hsim, href⟩ := ih (h.both s t a hst (h.seen_visible a ha))
      fun b hb => has b (List.mem_cons_of_mem a hb)
    refine ⟨hsim, fun i => ?_⟩
    rw [firstRefused, firstRefused, hout, href]

theorem Unwinding.batch_left (h : Unwinding step Sim visible seen) {s t : S} {as : List A}
    (hst : Sim s t) (has : ∀ a ∈ as, visible a = false) : Sim (batch step good s as).2 t := by
  rcases batch_cases step good s as with ⟨hb, -⟩ | ⟨refused, hb⟩
  · rw [hb]
    exact h.run_left hst has
  · rw [hb]
    exact hst

theorem Unwinding.batch_both (h : Unwinding step Sim visible seen) {s t : S} {as : List A}
    (hst : Sim s t) (has : ∀ a ∈ as, seen a = true) :
    Sim (batch step good s as).2 (batch step good t as).2 ∧
      (batch step good s as).1 = (batch step good t as).1 := by
  obtain ⟨hsim, href⟩ := h.run_both good hst has
  unfold batch
  rw [href 0]
  rcases firstRefused step good t 0 as with _ | refused
  · exact ⟨hsim, rfl⟩
  · exact ⟨hst, rfl⟩

/-- **Unwinding of batches.** One side's batches are not disturbed by the others'. -/
theorem Unwinding.batch (good : O → Bool) (h : Unwinding step Sim visible seen) :
    Unwinding (fun s (b : SidedBatch visible seen) => batch step good s b.1) Sim
      SidedBatch.touches SidedBatch.touches where
  seen_visible := fun _ hb => hb
  invisible := by
    intro s t b hst hb
    refine h.batch_left hst ?_
    rcases b.2 with hseen | hno
    · -- a batch of seen actions with none that is seen is empty
      intro a ha
      have hany : b.1.any seen = false := hb
      rw [List.any_eq_false] at hany
      exact absurd (hseen a ha) (hany a ha)
    · exact hno
  both := by
    intro s t b hst hb
    rcases b.2 with hseen | hno
    · exact (h.batch_both hst hseen).1
    · obtain ⟨a, ha, hs⟩ := List.any_eq_true.mp hb
      exact absurd (h.seen_visible a hs) (by simp [hno a ha])
  output := by
    intro s t b hst hb
    rcases b.2 with hseen | hno
    · exact (h.batch_both hst hseen).2
    · obtain ⟨a, ha, hs⟩ := List.any_eq_true.mp hb
      exact absurd (h.seen_visible a hs) (by simp [hno a ha])

end Sides

end Machine
