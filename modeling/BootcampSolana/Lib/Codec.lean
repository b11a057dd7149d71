import Mathlib.Logic.Equiv.Basic

/-!
# Codecs

A codec writes values as strings over an alphabet and reads them back off the front of a
string. Both of its laws are fields: what was written is read, whatever follows it, and
nothing else is read. So codecs can be put one after the other without a length or a
separator between them, and whatever is built from them by the combinators below is again
unambiguous.
-/

structure Codec (τ α : Type) where
  encode : α → List τ
  parse : List τ → Option (α × List τ)
  parse_encode : ∀ a rest, parse (encode a ++ rest) = some (a, rest)
  encode_parse : ∀ s a rest, parse s = some (a, rest) → s = encode a ++ rest

namespace Codec

variable {τ α β : Type}

/-- Read a whole string. -/
def decode (c : Codec τ α) (s : List τ) : Option α :=
  (c.parse s).bind fun p => if p.2.isEmpty then some p.1 else none

/-- **Reading inverts writing**, and only what was written is read. -/
theorem decode_eq_some {c : Codec τ α} {s : List τ} {a : α} :
    c.decode s = some a ↔ s = c.encode a := by
  constructor
  · intro h
    obtain ⟨⟨a', rest⟩, hp, hd⟩ := Option.bind_eq_some_iff.mp h
    rcases rest with _ | ⟨t, rest⟩
    · cases hd
      rw [c.encode_parse s a' [] hp, List.append_nil]
    · cases hd
  · rintro rfl
    have hp := c.parse_encode a []
    rw [List.append_nil] at hp
    rw [decode, hp]
    rfl

theorem decode_encode (c : Codec τ α) (a : α) : c.decode (c.encode a) = some a :=
  decode_eq_some.mpr rfl

theorem encode_injective (c : Codec τ α) : Function.Injective c.encode := by
  intro a a' h
  have hd := c.decode_encode a
  rw [h, c.decode_encode a'] at hd
  exact (Option.some.inj hd).symm

/-! ## Combinators -/

/-- Nothing at all. -/
def unit : Codec τ Unit where
  encode _ := []
  parse s := some ((), s)
  parse_encode _ _ := rfl
  encode_parse s _ rest h := by
    cases h
    rfl

/-- A single letter. -/
def letter : Codec τ τ where
  encode t := [t]
  parse
    | [] => none
    | t :: s => some (t, s)
  parse_encode _ _ := rfl
  encode_parse s t rest h := by
    cases s with
    | nil => cases h
    | cons t' s =>
      cases h
      rfl

/-- Values that are strings of `n` letters. -/
def fixed {n : Nat} (e : α ≃ { s : List τ // s.length = n }) : Codec τ α where
  encode a := (e a).1
  parse s := if h : n ≤ s.length then
      some (e.symm ⟨s.take n, List.length_take_of_le h⟩, s.drop n)
    else none
  parse_encode a rest := by
    have hlen : (e a).1.length = n := (e a).2
    have hle : n ≤ ((e a).1 ++ rest).length := by rw [List.length_append]; omega
    have hv : (⟨((e a).1 ++ rest).take n, List.length_take_of_le hle⟩ :
        { s : List τ // s.length = n }) = e a := Subtype.ext (List.take_left' hlen)
    rw [dif_pos hle, hv, List.drop_left' hlen, Equiv.symm_apply_apply]
  encode_parse s a rest h := by
    split at h
    · cases h
      rw [Equiv.apply_symm_apply]
      exact (List.take_append_drop n s).symm
    · cases h

theorem length_fixed {n : Nat} (e : α ≃ { s : List τ // s.length = n }) (a : α) :
    ((fixed e).encode a).length = n := (e a).2

/-- One after the other. -/
def seq (c : Codec τ α) (d : Codec τ β) : Codec τ (α × β) where
  encode p := c.encode p.1 ++ d.encode p.2
  parse s := (c.parse s).bind fun p => (d.parse p.2).map fun q => ((p.1, q.1), q.2)
  parse_encode p rest := by
    rw [List.append_assoc, c.parse_encode]
    show (d.parse _).map _ = _
    rw [d.parse_encode]
    rfl
  encode_parse s p rest h := by
    obtain ⟨⟨a, s'⟩, hc, h'⟩ := Option.bind_eq_some_iff.mp h
    obtain ⟨⟨b, s''⟩, hd, he⟩ := Option.map_eq_some_iff.mp h'
    cases he
    calc s = c.encode a ++ s' := c.encode_parse s a s' hc
      _ = c.encode a ++ (d.encode b ++ s'') := congrArg _ (d.encode_parse s' b s'' hd)
      _ = c.encode a ++ d.encode b ++ s'' := (List.append_assoc _ _ _).symm

/-- After a fixed prefix. -/
def prefixed [DecidableEq τ] (t : List τ) (c : Codec τ α) : Codec τ α where
  encode a := t ++ c.encode a
  parse s := if s.take t.length = t then c.parse (s.drop t.length) else none
  parse_encode a rest := by
    have htake : (t ++ c.encode a ++ rest).take t.length = t := by
      rw [List.append_assoc]; exact List.take_left
    have hdrop : (t ++ c.encode a ++ rest).drop t.length = c.encode a ++ rest := by
      rw [List.append_assoc]; exact List.drop_left
    rw [if_pos htake, hdrop, c.parse_encode]
  encode_parse s a rest h := by
    split at h
    · next ht =>
      calc s = s.take t.length ++ s.drop t.length := (List.take_append_drop _ s).symm
        _ = t ++ (c.encode a ++ rest) := by rw [ht, c.encode_parse _ a rest h]
        _ = t ++ c.encode a ++ rest := (List.append_assoc _ _ _).symm
    · cases h

/-- Another type's values for the same strings. -/
def map (c : Codec τ α) (e : α ≃ β) : Codec τ β where
  encode b := c.encode (e.symm b)
  parse s := (c.parse s).map fun p => (e p.1, p.2)
  parse_encode b rest := by
    rw [c.parse_encode]
    show some (e (e.symm b), rest) = _
    rw [Equiv.apply_symm_apply]
  encode_parse s b rest h := by
    obtain ⟨⟨a, s'⟩, hc, he⟩ := Option.map_eq_some_iff.mp h
    cases he
    rw [Equiv.symm_apply_apply]
    exact c.encode_parse s a s' hc

/-- `c` reads nothing that `d` has written. -/
def Apart (c : Codec τ α) (d : Codec τ β) : Prop := ∀ b rest, c.parse (d.encode b ++ rest) = none

/-- One or the other. The string tells which. -/
def alt (c : Codec τ α) (d : Codec τ β) (h : Apart c d) : Codec τ (α ⊕ β) where
  encode
    | .inl a => c.encode a
    | .inr b => d.encode b
  parse s :=
    match c.parse s with
    | some p => some (.inl p.1, p.2)
    | none => (d.parse s).map fun p => (.inr p.1, p.2)
  parse_encode x rest := by
    cases x with
    | inl a =>
      show (match c.parse (c.encode a ++ rest) with | some p => _ | none => _) = _
      rw [c.parse_encode]
    | inr b =>
      show (match c.parse (d.encode b ++ rest) with | some p => _ | none => _) = _
      rw [h b rest, d.parse_encode]
      rfl
  encode_parse s x rest hs := by
    rcases hc : c.parse s with _ | ⟨a, s'⟩
    · rw [hc] at hs
      obtain ⟨⟨b, s'⟩, hd, he⟩ := Option.map_eq_some_iff.mp hs
      cases he
      exact d.encode_parse s b s' hd
    · rw [hc] at hs
      cases hs
      exact c.encode_parse s a s' hc

/-! ## Telling codecs apart -/

theorem Apart.alt {γ : Type} {c : Codec τ α} {d : Codec τ β} {e : Codec τ γ} {hde : Apart d e}
    (hd : Apart c d) (he : Apart c e) : Apart c (Codec.alt d e hde) := by
  intro x rest
  cases x with
  | inl b => exact hd b rest
  | inr g => exact he g rest

section Prefixes

variable [DecidableEq τ]

/-- Prefixes of which neither begins with the other. -/
theorem apart_prefixed {t t' : List τ} (c : Codec τ α) (d : Codec τ β)
    (hlen : t.length ≤ t'.length) (hne : t'.take t.length ≠ t) :
    Apart (prefixed t c) (prefixed t' d) := by
  intro b rest
  refine if_neg fun he => hne ?_
  have htake : (t' ++ d.encode b ++ rest).take t.length = t'.take t.length := by
    rw [List.append_assoc, List.take_append_of_le_length hlen]
  exact htake.symm.trans he

/-- A letter for absent, another one for present, and then the value. -/
def opt (no yes : τ) (h : no ≠ yes) (c : Codec τ α) : Codec τ (Option α) :=
  (alt (prefixed [no] unit) (prefixed [yes] c)
    (apart_prefixed unit c (Nat.le_refl 1) fun he => h (List.cons.inj he).1.symm)).map
    ((Equiv.sumComm Unit α).trans (Equiv.optionEquivSumPUnit α).symm)

end Prefixes

end Codec
