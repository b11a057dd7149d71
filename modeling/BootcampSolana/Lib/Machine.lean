import Mathlib.Data.List.Basic

/-!
# Deterministic machines and their runs

A machine is a function that takes a state and an action to an output and the next state. A
failed action is an output like any other, so every list of actions has a run.

* `run`, `trace` — the state a list of actions leads to, and what was answered on the way
* `run_invariant` — what every step keeps, every run keeps
* `run_simulates` — when every step follows a function, so does every run
* `run_refines` — when every step does what one operation of another machine does, or what
  none does, so does every run
* `run_purge` — actions that a relation cannot see can be left out of a run. Two runs with the
  same visible actions are then related through the run of these actions alone.
-/

namespace Machine

variable {S A O : Type} (step : S → A → O × S)

def run (s : S) : List A → S
  | [] => s
  | a :: as => run (step s a).2 as

/-- The actions of a run, each with its output. -/
def trace (s : S) : List A → List (A × O)
  | [] => []
  | a :: as => (a, (step s a).1) :: trace (step s a).2 as

theorem run_append (s : S) (as bs : List A) :
    run step s (as ++ bs) = run step (run step s as) bs := by
  induction as generalizing s with
  | nil => rfl
  | cons a as ih => exact ih (step s a).2

/-- Every event of a trace comes from a state on the way. -/
theorem mem_trace {step : S → A → O × S} {s : S} {as : List A} {a : A} {o : O}
    (h : (a, o) ∈ trace step s as) :
    ∃ before after, as = before ++ a :: after ∧ o = (step (run step s before) a).1 := by
  induction as generalizing s with
  | nil => cases h
  | cons b as ih =>
    rcases List.mem_cons.mp h with he | hrest
    · cases he
      exact ⟨[], as, rfl, rfl⟩
    · obtain ⟨before, after, rfl, ho⟩ := ih hrest
      exact ⟨b :: before, after, rfl, ho⟩

/-! ## Invariants -/

/-- A step that meets `P` keeps `I`. -/
def Keeps (P : A → Prop) (I : S → Prop) : Prop := ∀ s a, P a → I s → I (step s a).2

variable {step}

/-- **Invariants of runs.** -/
theorem run_invariant {P : A → Prop} {I : S → Prop} (hk : Keeps step P I) {s : S} {as : List A}
    (hs : I s) (has : ∀ a ∈ as, P a) : I (run step s as) := by
  induction as generalizing s with
  | nil => exact hs
  | cons a as ih =>
    exact ih (hk s a (has a List.mem_cons_self) hs)
      fun b hb => has b (List.mem_cons_of_mem a hb)

/-- **Simulation of runs.** When every step follows `next`, a run follows its iteration. -/
theorem run_simulates {T : Type} {R : S → T → Prop} {next : T → A → T}
    (h : ∀ s t a, R s t → R (step s a).2 (next t a)) {s : S} {t : T} (as : List A) (hst : R s t) :
    R (run step s as) (as.foldl next t) := by
  induction as generalizing s t with
  | nil => exact hst
  | cons a as ih => exact ih (h s t a hst)

/-! ## Refinement -/

section Refinement

variable {T B : Type}

/-- A list of operations, each of which may be refused. -/
def perform (apply : T → B → Option T) (t : T) : List B → Option T
  | [] => some t
  | b :: bs => (apply t b).bind fun t' => perform apply t' bs

theorem perform_cons {apply : T → B → Option T} {t t' : T} {b : B} {bs : List B} :
    perform apply t (b :: bs) = some t' ↔
      ∃ t₁, apply t b = some t₁ ∧ perform apply t₁ bs = some t' :=
  Option.bind_eq_some_iff

/--
Under `I`, a step shows as the operation that `op` reads off its event. The operation is not
refused, and a step that shows as none leaves the abstract state alone.
-/
structure Refinement (step : S → A → O × S) (I : S → Prop) (abs : S → T)
    (apply : T → B → Option T) (op : A × O → Option B) : Prop where
  keeps : ∀ s a, I s → I (step s a).2
  shows : ∀ s a b, I s → op (a, (step s a).1) = some b →
    apply (abs s) b = some (abs (step s a).2)
  silent : ∀ s a, I s → op (a, (step s a).1) = none → abs (step s a).2 = abs s

/-- **Refinement of runs.** The operations of a trace lead the abstract machine along. -/
theorem run_refines {I : S → Prop} {abs : S → T} {apply : T → B → Option T}
    {op : A × O → Option B} (h : Refinement step I abs apply op) {s : S} (as : List A) (hs : I s) :
    perform apply (abs s) ((trace step s as).filterMap op) = some (abs (run step s as)) := by
  induction as generalizing s with
  | nil => rfl
  | cons a as ih =>
    have hrest := ih (h.keeps s a hs)
    show perform apply (abs s) (List.filterMap op ((a, (step s a).1) :: _)) = _
    rcases hop : op (a, (step s a).1) with _ | b
    · rw [List.filterMap_cons_none hop, ← h.silent s a hs hop]
      exact hrest
    · rw [List.filterMap_cons_some hop]
      exact perform_cons.mpr ⟨_, h.shows s a b hs hop, hrest⟩

end Refinement

/-! ## Runs seen from one side -/

section Purge

variable {Sim : S → S → Prop} {visible seen : A → Bool}

/-- The part of a trace whose actions are `seen`. -/
def observe (seen : A → Bool) (tr : List (A × O)) : List (A × O) := tr.filter (seen ·.1)

/--
What makes a relation blind to the invisible actions: one of them on the left keeps it, and a
visible action on both sides keeps it, with the same output wherever that output is `seen`.
-/
structure Unwinding (step : S → A → O × S) (Sim : S → S → Prop) (visible seen : A → Bool) :
    Prop where
  seen_visible : ∀ a, seen a = true → visible a = true
  invisible : ∀ s t a, Sim s t → visible a = false → Sim (step s a).2 t
  both : ∀ s t a, Sim s t → visible a = true → Sim (step s a).2 (step t a).2
  output : ∀ s t a, Sim s t → seen a = true → (step s a).1 = (step t a).1

/-- **Purging.** A run and the run of its visible actions stay related and look the same. -/
theorem run_purge (h : Unwinding step Sim visible seen) {s t : S} (as : List A) (hst : Sim s t) :
    Sim (run step s as) (run step t (as.filter visible)) ∧
      observe seen (trace step s as) = observe seen (trace step t (as.filter visible)) := by
  induction as generalizing s t with
  | nil => exact ⟨hst, rfl⟩
  | cons a as ih =>
    rcases hv : visible a with _ | _
    · -- what is not visible is not seen either, so both observations go on from here
      have hseen : seen a = false := by
        rw [Bool.eq_false_iff]
        intro hc
        rw [h.seen_visible a hc] at hv
        cases hv
      rw [List.filter_cons_of_neg (by simp [hv])]
      obtain ⟨hsim, hobs⟩ := ih (h.invisible s t a hst hv)
      refine ⟨hsim, ?_⟩
      show List.filter _ (_ :: trace step (step s a).2 as) = _
      rw [List.filter_cons_of_neg (by simp [hseen])]
      exact hobs
    · rw [List.filter_cons_of_pos hv]
      obtain ⟨hsim, hobs⟩ := ih (h.both s t a hst hv)
      refine ⟨hsim, ?_⟩
      show List.filter _ (_ :: _) = List.filter _ (_ :: _)
      rcases hseen : seen a with _ | _
      · rw [List.filter_cons_of_neg (by simp [hseen]), List.filter_cons_of_neg (by simp [hseen])]
        exact hobs
      · rw [List.filter_cons_of_pos (by simp [hseen]), List.filter_cons_of_pos (by simp [hseen]),
          h.output s t a hst hseen]
        exact congrArg (_ :: ·) hobs

/-- **Two runs with the same visible actions** agree on what the relation determines. -/
theorem run_eq_of_visible {β : Type} (f : S → β) (h : Unwinding step Sim visible seen)
    (hf : ∀ s t, Sim s t → f s = f t) {s : S} (hs : Sim s s) {as bs : List A}
    (hvis : as.filter visible = bs.filter visible) :
    f (run step s as) = f (run step s bs) ∧
      observe seen (trace step s as) = observe seen (trace step s bs) := by
  obtain ⟨ha, hao⟩ := run_purge h as hs
  obtain ⟨hb, hbo⟩ := run_purge h bs hs
  rw [hvis] at ha hao
  exact ⟨(hf _ _ ha).trans (hf _ _ hb).symm, hao.trans hbo.symm⟩

end Purge

end Machine
