import BootcampSolana.Rust

/-!
# Functions that print

The clients report what they see line by line. A function that prints is modelled by the lines
it has printed and by how it ended, so a function that fails half way has printed half of its
lines.

A line is a value, one constructor for each `println!`, with the values between the braces as
its arguments. The arguments of a `println!` are evaluated before anything is printed.
-/

namespace BootcampSolana

structure Printed (ℓ ε α : Type) where
  lines : List ℓ
  result : Outcome ε α

namespace Printed

variable {ℓ ℓ' ε α β : Type}

/-- `println!`. -/
def print (line : ℓ) : Printed ℓ ε Unit := ⟨[line], .ok ()⟩

/-- A computation that prints nothing. -/
def lift (x : Outcome ε α) : Printed ℓ ε α := ⟨[], x⟩

/-- `println!` of a line whose arguments can fail. -/
def println : Outcome ε ℓ → Printed ℓ ε Unit
  | .ok line => ⟨[line], .ok ()⟩
  | .err e => ⟨[], .err e⟩
  | .panicked => ⟨[], .panicked⟩

protected def bind (x : Printed ℓ ε α) (f : α → Printed ℓ ε β) : Printed ℓ ε β :=
  match x.result with
  | .ok a => ⟨x.lines ++ (f a).lines, (f a).result⟩
  | .err e => ⟨x.lines, .err e⟩
  | .panicked => ⟨x.lines, .panicked⟩

instance : Monad (Printed ℓ ε) where
  pure a := ⟨[], .ok a⟩
  bind := Printed.bind

/-- The same with every line shown as another. -/
def mapLines (g : ℓ → ℓ') (x : Printed ℓ ε α) : Printed ℓ' ε α := ⟨x.lines.map g, x.result⟩

/-- `for (i, x) in xs.iter().enumerate()`, from the index `i` on. -/
def forEnumerate (body : Nat → α → Printed ℓ ε Unit) : (i : Nat) → List α → Printed ℓ ε Unit
  | _, [] => pure ()
  | i, x :: xs => do
    body i x
    forEnumerate body (i + 1) xs

@[simp] theorem pure_eq (a : α) : (pure a : Printed ℓ ε α) = ⟨[], .ok a⟩ := rfl

@[simp] theorem bind_ok (lines : List ℓ) (a : α) (f : α → Printed ℓ ε β) :
    (⟨lines, .ok a⟩ >>= f : Printed ℓ ε β) = ⟨lines ++ (f a).lines, (f a).result⟩ := rfl

@[simp] theorem print_bind (line : ℓ) (f : Unit → Printed ℓ ε β) :
    (print line >>= f) = ⟨line :: (f ()).lines, (f ()).result⟩ := rfl

@[simp] theorem lift_ok_bind (a : α) (f : α → Printed ℓ ε β) :
    ((lift (.ok a) : Printed ℓ ε α) >>= f) = f a := rfl

@[simp] theorem lift_err_bind (e : ε) (f : α → Printed ℓ ε β) :
    ((lift (.err e) : Printed ℓ ε α) >>= f) = ⟨[], .err e⟩ := rfl

@[simp] theorem println_bind (line : ℓ) (f : Unit → Printed ℓ ε β) :
    (println (.ok line) >>= f) = ⟨line :: (f ()).lines, (f ()).result⟩ := rfl

/-- A line that cannot return an error only delays a panic that is to come. -/
theorem println_bind_panicked {x : Outcome ε ℓ} {f : Unit → Printed ℓ ε β}
    (hx : ∀ e, x ≠ .err e) (hf : (f ()).result = .panicked) :
    (println x >>= f).result = .panicked := by
  cases x with
  | ok line => exact hf
  | err e => exact absurd rfl (hx e)
  | panicked => rfl

theorem lift_bind_panicked {x : Outcome ε α} {f : α → Printed ℓ ε β} (hx : ∀ e, x ≠ .err e)
    (hf : ∀ a, (f a).result = .panicked) : (lift x >>= f).result = .panicked := by
  cases x with
  | ok a => exact hf a
  | err e => exact absurd rfl (hx e)
  | panicked => rfl

theorem println_panicked {x : Outcome ε ℓ} (hx : x = .panicked) :
    (println x).result = .panicked := by
  subst hx
  rfl

theorem println_ne_err {x : Outcome ε ℓ} {e : ε} (hx : x ≠ .err e) :
    (println x).result ≠ .err e := by
  cases x with
  | ok line => nofun
  | err e' => simpa [println] using hx
  | panicked => nofun

theorem bind_panicked_left {x : Printed ℓ ε α} (f : α → Printed ℓ ε β)
    (hx : x.result = .panicked) : (x >>= f).result = .panicked := by
  obtain ⟨lines, result⟩ := x
  subst hx
  rfl

/-- A part that cannot return an error only delays a panic that is to come. -/
theorem bind_panicked_right {x : Printed ℓ ε α} {f : α → Printed ℓ ε β}
    (hx : ∀ e, x.result ≠ .err e) (hf : ∀ a, (f a).result = .panicked) :
    (x >>= f).result = .panicked := by
  obtain ⟨lines, a | e | _⟩ := x
  · exact hf a
  · exact absurd rfl (hx e)
  · rfl

theorem bind_assoc {γ : Type} (x : Printed ℓ ε α) (f : α → Printed ℓ ε β)
    (g : β → Printed ℓ ε γ) : ((x >>= f) >>= g) = (x >>= fun a => f a >>= g) := by
  obtain ⟨before, a | e | _⟩ := x
  · rw [bind_ok, bind_ok]
    rcases f a with ⟨lines, b | e | _⟩
    · simp
    · rfl
    · rfl
  · rfl
  · rfl

theorem mem_println_lines {line : ℓ} {x : Outcome ε ℓ} :
    line ∈ (println x : Printed ℓ ε Unit).lines ↔ x = .ok line := by
  cases x with
  | ok line' => simp [println, eq_comm]
  | err e => simp [println]
  | panicked => simp [println]

/-- A line is printed by the one part or by the other. -/
theorem mem_bind_lines {line : ℓ} {x : Printed ℓ ε α} {f : α → Printed ℓ ε β}
    (h : line ∈ (x >>= f).lines) : line ∈ x.lines ∨ ∃ a, line ∈ (f a).lines := by
  obtain ⟨before, a | e | _⟩ := x
  · rw [bind_ok] at h
    rcases List.mem_append.mp h with h | h
    · exact Or.inl h
    · exact Or.inr ⟨a, h⟩
  · exact Or.inl h
  · exact Or.inl h

section Loops

variable {body : Nat → α → Printed ℓ ε Unit} {lines : Nat → α → List ℓ}

/-- A loop whose rounds all end well prints what they print. -/
theorem forEnumerate_ok : ∀ {i : Nat} {xs : List α},
    (∀ j, i ≤ j → j < i + xs.length → ∀ x ∈ xs, body j x = ⟨lines j x, .ok ()⟩) →
      forEnumerate body i xs = ⟨(xs.zipIdx i).flatMap fun p => lines p.2 p.1, .ok ()⟩
  | _, [], _ => rfl
  | i, x :: xs, h => by
    have hx := h i (Nat.le_refl i) (by simp) x List.mem_cons_self
    have ih := @forEnumerate_ok (i + 1) xs fun j hj hlt y hy =>
      h j (by omega) (by rw [List.length_cons]; omega) y (List.mem_cons_of_mem x hy)
    rw [forEnumerate, hx, ih]
    rfl

theorem forEnumerate_append {ys : List α} : ∀ {i : Nat} {xs : List α},
    forEnumerate body i (xs ++ ys) =
      (forEnumerate body i xs >>= fun _ => forEnumerate body (i + xs.length) ys)
  | _, [] => rfl
  | i, x :: xs => by
    have ih := @forEnumerate_append ys (i + 1) xs
    rw [List.cons_append, forEnumerate, forEnumerate, bind_assoc, ih, List.length_cons,
      Nat.add_assoc, Nat.add_comm 1]

/-- A line of a loop is a line of one of its rounds. -/
theorem mem_forEnumerate_lines {line : ℓ} : ∀ {i : Nat} {xs : List α},
    line ∈ (forEnumerate body i xs).lines → ∃ j x, line ∈ (body j x).lines
  | _, [], h => nomatch h
  | i, x :: xs, h => by
    rw [forEnumerate] at h
    rcases mem_bind_lines h with h | ⟨_, h⟩
    · exact ⟨i, x, h⟩
    · exact mem_forEnumerate_lines h

/-- A loop without errors panics with any of its rounds. -/
theorem forEnumerate_panicked {j : Nat} {x : α} (herr : ∀ k y e, (body k y).result ≠ .err e) :
    ∀ {i : Nat} {xs : List α}, xs[j]? = some x → (body (i + j) x).result = .panicked →
      (forEnumerate body i xs).result = .panicked := by
  induction j with
  | zero =>
    intro i xs hx hbad
    cases xs with
    | nil => cases hx
    | cons y ys =>
      cases hx
      exact bind_panicked_left _ hbad
  | succ j ih =>
    intro i xs hx hbad
    cases xs with
    | nil => cases hx
    | cons y ys =>
      have hindex : i + (j + 1) = i + 1 + j := by omega
      rw [hindex] at hbad
      exact bind_panicked_right (herr i y) fun _ => ih hx hbad

/-- A loop whose rounds return no errors returns none. -/
theorem forEnumerate_ne_err {e : ε} (herr : ∀ k y, (body k y).result ≠ .err e) :
    ∀ {i : Nat} {xs : List α}, (forEnumerate body i xs).result ≠ .err e
  | _, [] => nofun
  | i, x :: xs => by
    have hx := herr i x
    have ih := @forEnumerate_ne_err e herr (i + 1) xs
    rw [forEnumerate]
    rcases hb : body i x with ⟨lines, a | e' | _⟩
    · exact ih
    · rw [hb] at hx
      exact hx
    · nofun

end Loops

end Printed

end BootcampSolana
