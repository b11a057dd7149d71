import BootcampSolana.Console

/-!
# Clients of a shared ledger

A client is not alone. Before each of its calls to a node the others may have moved the state,
and the node may not answer at all. A `World` is the state together with all of that, so a
theorem about every world is one about every interleaving with the others.

`Ensures` says what a client can rely on and what it guarantees in return: under moves that are
`allowed`, from a state with `P`, it never panics, its errors satisfy `E`, and where it ends
well `Q` holds of what it returns, of the lines it has printed and of the state. A precondition
has to survive the moves of the others, which is what `Ensures.call` asks.
-/

namespace BootcampSolana

/-- A state, and what happens before each call: moves, or no answer. -/
structure World (S M : Type) where
  state : S
  turns : Nat → Option (List M)

/-- A function that calls a node and prints. -/
def Session (S M ℓ ε α : Type) : Type := World S M → Printed ℓ ε α × World S M

namespace Session

variable {S M ℓ ε α β : Type}

protected def bind (x : Session S M ℓ ε α) (f : α → Session S M ℓ ε β) : Session S M ℓ ε β :=
  fun w =>
    match x w with
    | (⟨lines, .ok a⟩, w) => (⟨lines ++ (f a w).1.lines, (f a w).1.result⟩, (f a w).2)
    | (⟨lines, .err e⟩, w) => (⟨lines, .err e⟩, w)
    | (⟨lines, .panicked⟩, w) => (⟨lines, .panicked⟩, w)

instance : Monad (Session S M ℓ ε) where
  pure a := fun w => (⟨[], .ok a⟩, w)
  bind := Session.bind

/-- `println!`. -/
def print (line : ℓ) : Session S M ℓ ε Unit := fun w => (.print line, w)

/-- What the client computes by itself. -/
def lift (x : Outcome ε α) : Session S M ℓ ε α := fun w => (.lift x, w)

/-- A call to the node: the others move, and then it is answered on the state they have left. -/
def call (move : S → M → S) (lost : ε) (f : S → Outcome ε α × S) : Session S M ℓ ε α := fun w =>
  let turns := fun n => w.turns (n + 1)
  match w.turns 0 with
  | none => (⟨[], .err lost⟩, ⟨w.state, turns⟩)
  | some moves =>
    match f (moves.foldl move w.state) with
    | (r, s) => (⟨[], r⟩, ⟨s, turns⟩)

/-- A call that looks at the state, if there is an answer, and prints what it sees. -/
def consult (move : S → M → S) (f : Option S → Printed ℓ ε α) : Session S M ℓ ε α := fun w =>
  let turns := fun n => w.turns (n + 1)
  match w.turns 0 with
  | none => (f none, ⟨w.state, turns⟩)
  | some moves => (f (some (moves.foldl move w.state)), ⟨moves.foldl move w.state, turns⟩)

section Apply

variable {x : Session S M ℓ ε α} {f : α → Session S M ℓ ε β} {w w' : World S M} {lines : List ℓ}

theorem bind_of_ok {a : α} (h : x w = (⟨lines, .ok a⟩, w')) :
    (x >>= f) w = (⟨lines ++ (f a w').1.lines, (f a w').1.result⟩, (f a w').2) := by
  show Session.bind x f w = _
  simp [Session.bind, h]

theorem bind_of_err {e : ε} (h : x w = (⟨lines, .err e⟩, w')) :
    (x >>= f) w = (⟨lines, .err e⟩, w') := by
  show Session.bind x f w = _
  simp [Session.bind, h]

theorem call_of_none {move : S → M → S} {lost : ε} {g : S → Outcome ε α × S}
    (h : w.turns 0 = none) : (call move lost g : Session S M ℓ ε α) w =
      (⟨[], .err lost⟩, ⟨w.state, fun n => w.turns (n + 1)⟩) := by
  simp [call, h]

theorem call_of_some {move : S → M → S} {lost : ε} {g : S → Outcome ε α × S} {moves : List M}
    (h : w.turns 0 = some moves) : (call move lost g : Session S M ℓ ε α) w =
      (⟨[], (g (moves.foldl move w.state)).1⟩,
        ⟨(g (moves.foldl move w.state)).2, fun n => w.turns (n + 1)⟩) := by
  simp [call, h]

end Apply

/-- A client under moves that are `allowed`. -/
def Ensures (allowed : Option (List M) → Prop) (P : S → Prop) (x : Session S M ℓ ε α)
    (E : ε → Prop) (Q : α → List ℓ → S → Prop) : Prop :=
  ∀ w, (∀ n, allowed (w.turns n)) → P w.state →
    (∀ n, allowed ((x w).2.turns n)) ∧
    (x w).1.result.Meets (fun a => Q a (x w).1.lines (x w).2.state) E

variable {allowed : Option (List M) → Prop} {P : S → Prop} {E : ε → Prop}
  {x : Session S M ℓ ε α} {f : α → Session S M ℓ ε β}

/-! ## Rules -/

theorem Ensures.pure {a : α} {Q : α → List ℓ → S → Prop} (h : ∀ s, P s → Q a [] s) :
    Ensures allowed P (Pure.pure a : Session S M ℓ ε α) E Q :=
  fun w hw hP => ⟨hw, h w.state hP⟩

/-- What a precondition says of values alone is known. -/
theorem Ensures.known {φ : Prop} {Q : α → List ℓ → S → Prop} (h : φ → Ensures allowed P x E Q) :
    Ensures allowed (fun s => φ ∧ P s) x E Q :=
  fun w hw hP => h hP.1 w hw hP.2

theorem Ensures.exists {ι : Type} {P : ι → S → Prop} {Q : α → List ℓ → S → Prop}
    (h : ∀ i, Ensures allowed (P i) x E Q) : Ensures allowed (fun s => ∃ i, P i s) x E Q := by
  rintro w hw ⟨i, hP⟩
  exact h i w hw hP

/-- More can be asked of the same. -/
theorem Ensures.strengthen {P' : S → Prop} {Q : α → List ℓ → S → Prop}
    (h : Ensures allowed P x E Q) (hP : ∀ s, P' s → P s) : Ensures allowed P' x E Q :=
  fun w hw hs => h w hw (hP _ hs)

/-- Less can be said of the same. -/
theorem Ensures.weaken {Q T : α → List ℓ → S → Prop} (h : Ensures allowed P x E Q)
    (hQ : ∀ a lines s, Q a lines s → T a lines s) : Ensures allowed P x E T := by
  intro w hw hP
  obtain ⟨hw', hmeets⟩ := h w hw hP
  refine ⟨hw', ?_⟩
  rcases hr : (x w).1.result with a | e | _
  · rw [hr] at hmeets
    exact hQ a _ _ hmeets
  · rw [hr] at hmeets
    exact hmeets
  · rw [hr] at hmeets
    exact hmeets.elim

/-- One part after the other, and the lines of the one before those of the other. -/
theorem Ensures.bind {Q : α → List ℓ → S → Prop} {T : β → List ℓ → S → Prop}
    (hx : Ensures allowed P x E Q)
    (hf : ∀ a lines, Ensures allowed (Q a lines) (f a) E fun b more => T b (lines ++ more)) :
    Ensures allowed P (x >>= f) E T := by
  intro w hw hP
  have hx := hx w hw hP
  rcases hxw : x w with ⟨⟨lines, a | e | _⟩, w'⟩
  · rw [hxw] at hx
    rw [bind_of_ok hxw]
    exact hf a lines w' hx.1 hx.2
  · rw [hxw] at hx
    rw [bind_of_err hxw]
    exact hx
  · rw [hxw] at hx
    exact hx.2.elim

/-- A part that prints nothing. -/
theorem Ensures.silent {Q : α → S → Prop} {T : β → List ℓ → S → Prop}
    (hx : Ensures allowed P x E fun a lines s => lines = [] ∧ Q a s)
    (hf : ∀ a, Ensures allowed (Q a) (f a) E T) : Ensures allowed P (x >>= f) E T := by
  refine hx.bind fun a lines w hw hP => ?_
  obtain ⟨rfl, hQ⟩ := hP
  exact hf a w hw hQ

theorem Ensures.print {line : ℓ} {g : Unit → Session S M ℓ ε β} {T : β → List ℓ → S → Prop}
    (hg : Ensures allowed P (g ()) E fun b more => T b (line :: more)) :
    Ensures allowed P (Session.print line >>= g) E T := by
  have hline : Ensures allowed P (Session.print line : Session S M ℓ ε Unit) E
      fun _ lines s => lines = [line] ∧ P s := fun w hw hP => ⟨hw, rfl, hP⟩
  refine hline.bind fun _ lines w hw hP => ?_
  obtain ⟨rfl, hP⟩ := hP
  exact hg w hw hP

theorem Ensures.lift {o : Outcome ε α} {a : α} {T : β → List ℓ → S → Prop} (ho : o = .ok a)
    (hf : Ensures allowed P (f a) E T) : Ensures allowed P (Session.lift o >>= f) E T := by
  subst ho
  exact hf

/--
A call: the precondition survives what the others may do, and then the answer is judged on the
state it finds.
-/
theorem Ensures.call {move : S → M → S} {lost : ε} {g : S → Outcome ε α × S} {Q : α → S → Prop}
    (hstable : ∀ s moves, allowed (some moves) → P s → P (moves.foldl move s))
    (hlost : allowed none → E lost)
    (hg : ∀ s, P s → (g s).1.Meets (fun a => Q a (g s).2) E) :
    Ensures allowed P (Session.call move lost g : Session S M ℓ ε α) E
      fun a lines s => lines = [] ∧ Q a s := by
  intro w hw hP
  have hw' : ∀ n, allowed (w.turns (n + 1)) := fun n => hw (n + 1)
  have h0 := hw 0
  rcases hturn : w.turns 0 with _ | moves
  · rw [hturn] at h0
    rw [call_of_none hturn]
    exact ⟨hw', hlost h0⟩
  · rw [hturn] at h0
    have hg := hg _ (hstable w.state moves h0 hP)
    rw [call_of_some hturn]
    rcases hr : (g (moves.foldl move w.state)).1 with a | e | _
    · rw [hr] at hg
      exact ⟨hw', rfl, hg⟩
    · rw [hr] at hg
      exact ⟨hw', hg⟩
    · rw [hr] at hg
      exact hg.elim

/-- A call that only looks. -/
theorem Ensures.look {move : S → M → S} {lost : ε} {g : S → Outcome ε α} {a : α}
    (hstable : ∀ s moves, allowed (some moves) → P s → P (moves.foldl move s))
    (hlost : allowed none → E lost) (hg : ∀ s, P s → g s = .ok a) :
    Ensures allowed P (Session.call move lost fun s => (g s, s) : Session S M ℓ ε α) E
      fun a' lines s => lines = [] ∧ a' = a ∧ P s := by
  refine .call hstable hlost fun s hP => ?_
  rw [hg s hP]
  exact ⟨rfl, hP⟩

/-- A call that prints what it sees. -/
theorem Ensures.consult {move : S → M → S} {g : Option S → Printed ℓ ε α}
    {Q : α → List ℓ → S → Prop}
    (hstable : ∀ s moves, allowed (some moves) → P s → P (moves.foldl move s))
    (hlost : allowed none → ∃ e, (g none).result = .err e ∧ E e)
    (hg : ∀ s, P s → (g (some s)).result.Meets (fun a => Q a (g (some s)).lines s) E) :
    Ensures allowed P (Session.consult move g) E Q := by
  intro w hw hP
  have hw' : ∀ n, allowed (w.turns (n + 1)) := fun n => hw (n + 1)
  have h0 := hw 0
  unfold Session.consult
  rcases hturn : w.turns 0 with _ | moves
  · rw [hturn] at h0
    obtain ⟨e, he, hE⟩ := hlost h0
    refine ⟨hw', ?_⟩
    simp only [he]
    exact hE
  · rw [hturn] at h0
    exact ⟨hw', hg _ (hstable w.state moves h0 hP)⟩

end Session

end BootcampSolana
