import BootcampSolana.CounterPda.World
import BootcampSolana.Lib.Tally

/-!
# What the counters count

The ledger is read as a tally whose keys are a user and an address. It has a count for them
when the address is the user's and holds the user's counter.

1. An account of the program is blank or a counter at its own address (`Kept`). Blank ones
   can be made by anyone, and never at an address the program can sign for.
2. Under this invariant the program refines the tally: an `initialize` that succeeds opens a
   key, an `increment` that succeeds adds to one that is open, and nothing else shows.
3. What holds of every history of a tally then holds of every run of the program.
-/

namespace BootcampSolana.CounterPda

open Machine Tally

variable {R : Runtime} {programId : Pubkey} {L L' : Ledger} {u a : Pubkey} {bump : UInt8}
  {count : UInt64}

/-! ## The invariant -/

/-- What the data of an account of the program can be. -/
inductive Entry (R : Runtime) (programId a : Pubkey) (d : Bytes) : Prop where
  | blank (zeros : ∀ b ∈ d, b = 0) (notPda : ¬ IsPda R.derivation programId a)
  | counter (count : UInt64) (u : Pubkey) (bump : UInt8)
    (derived : findProgramAddress R.derivation [seedPrefix, u.bytes] programId = some (a, bump))
    (data : d = counterBytes count u bump)

def Kept (R : Runtime) (programId : Pubkey) (L : Ledger) : Prop :=
  ∀ a, (L a).owner = programId → Entry R programId a (L a).data

/-- Under the invariant, `increment` accepts a counter of the signer and no other account. -/
theorem Kept.accepts (hK : Kept R programId L) {user counter : AccountInfo} {amount : UInt64}
    (h : Accepts R programId user counter amount L) :
    ∃ bump, Holds R programId L user.key counter.key bump (countOf (L counter.key).data) := by
  obtain ⟨b, hb, hd⟩ := h.derived
  have hdata := eq_counterBytes h.length h.authority hb
  rcases hK counter.key h.owned with ⟨-, hno⟩ | ⟨count, u, bump, hfind, hc⟩
  · -- a blank account passes for a counter of the zero key, and no seeds derive its address
    exact absurd ⟨_, hd⟩ hno
  · obtain ⟨-, rfl, rfl⟩ := counterBytes_inj (hdata.symm.trans hc)
    exact ⟨b, hfind, h.owned, hdata⟩

/-- The account an increment has written, before and after. -/
theorem Holds.incremented {user counter : AccountInfo} {amount : UInt64}
    (h : Holds R programId L u counter.key bump count)
    (hacc : Accepts R programId user counter amount L) :
    Holds R programId (incremented counter.key amount L) u counter.key bump (count + amount) ∧
      (count + amount).toNat = count.toNat + amount.toNat := by
  have hfit := hacc.fits
  rw [h.data, countOf_counterBytes] at hfit
  refine ⟨⟨h.derived, ?_, ?_⟩, ?_⟩
  · rw [CounterPda.incremented, Function.update_self]
    exact h.owner
  · rw [CounterPda.incremented, Function.update_self]
    show copied _ 0 8 _ = _
    rw [h.data, countOf_counterBytes, copied_counterBytes]
  · rw [UInt64.toNat_add, Nat.mod_eq_of_lt hfit]

theorem holds_created {lamports : Nat}
    (hfind : findProgramAddress R.derivation [seedPrefix, u.bytes] programId = some (a, bump)) :
    Holds R programId (created programId u a bump lamports L) u a bump 0 where
  derived := hfind
  owner := congrArg Account.owner created_counter
  data := congrArg Account.data created_counter

theorem Holds.entry (h : Holds R programId L u a bump count) : Entry R programId a (L a).data :=
  .counter count u bump h.derived h.data

/-- An account that keeps its data and owner keeps its entry. -/
theorem Kept.entry_of_same (hK : Kept R programId L)
    (hs : (L' a).data = (L a).data ∧ (L' a).owner = (L a).owner) (ho : (L' a).owner = programId) :
    Entry R programId a (L' a).data := by
  rw [hs.1]
  exact hK a (hs.2.symm.trans ho)

/-- **The invariant is kept** by everything that can happen. -/
theorem Kept.effect (hK : Kept R programId L) {act : Action R.derivation programId} {r : Answer}
    (h : Effect R programId L act r L') : Kept R programId L' := by
  intro a ho
  by_cases ha : act.target = some a
  swap
  · exact hK.entry_of_same (h.frame ha) ho
  cases h with
  | idle => exact hK a ho
  | initialised _ ready _ =>
    cases ha
    exact (holds_created ready.derived).entry
  | incremented _ accepts =>
    cases ha
    obtain ⟨bump, hholds⟩ := hK.accepts accepts
    exact (hholds.incremented accepts).1.entry
  | moved => cases ha
  | @allocated address space =>
    cases ha
    refine .blank ?_ address.2
    rw [Function.update_self]
    exact fun b hb => List.eq_of_mem_replicate hb
  | elsewhere _ after =>
    cases ha
    rw [Function.update_self] at ho
    exact absurd ho after

theorem kept_run (hR : R.Lawful) (hK : Kept R programId L)
    (acts : List (Action R.derivation programId)) :
    Kept R programId (run (step R programId) L acts) := by
  have hkeeps : Keeps (step R programId) (fun _ => True) (Kept R programId) :=
    fun L act _ hL => hL.effect (step_effect hR L act)
  exact run_invariant hkeeps hK fun _ _ => trivial

/-- A ledger without an account of the program. -/
theorem kept_of_unowned (hL : ∀ a, (L a).owner ≠ programId) : Kept R programId L :=
  fun a ho => absurd ho (hL a)

/-! ## The tally -/

/-- The counts of a ledger. -/
def view (R : Runtime) (programId : Pubkey) (L : Ledger) : Tally (Pubkey × Pubkey) := fun k =>
  match findProgramAddress R.derivation [seedPrefix, k.1.bytes] programId with
  | some (c, bump) =>
    if c = k.2 ∧ (L k.2).owner = programId ∧
        (L k.2).data = counterBytes (countOf (L k.2).data) k.1 bump then
      some (countOf (L k.2).data).toNat
    else none
  | none => none

theorem view_of_holds (h : Holds R programId L u a bump count) :
    view R programId L (u, a) = some count.toNat := by
  have hcount : countOf (L a).data = count := by rw [h.data, countOf_counterBytes]
  simp only [view, h.derived, hcount]
  exact if_pos ⟨trivial, h.owner, h.data⟩

theorem holds_of_view {n : Nat} (h : view R programId L (u, a) = some n) :
    ∃ bump count, Holds R programId L u a bump count ∧ count.toNat = n := by
  unfold view at h
  split at h
  · next c bump hfind =>
    split at h
    · next hc =>
      obtain ⟨rfl, ho, hd⟩ := hc
      exact ⟨bump, _, ⟨hfind, ho, hd⟩, Option.some.inj h⟩
    · cases h
  · cases h

theorem view_eq_none (h : ∀ bump count, ¬ Holds R programId L u a bump count) :
    view R programId L (u, a) = none := by
  rw [Option.eq_none_iff_forall_ne_some]
  intro n hn
  obtain ⟨bump, count, hh, -⟩ := holds_of_view hn
  exact h bump count hh

theorem view_congr (hs : (L' a).data = (L a).data ∧ (L' a).owner = (L a).owner) :
    view R programId L' (u, a) = view R programId L (u, a) := by
  simp only [view, hs.1, hs.2]

/-! ## The events -/

/-- An action and what it answered. -/
abbrev Event (R : Runtime) (programId : Pubkey) := Action R.derivation programId × Answer

/-- An `initialize` that `u` signed and that returned `Ok`. -/
def Event.initialises (u : Pubkey) (e : Event R programId) : Bool :=
  match e.1.request with
  | some (user, _, .initializeCounter) =>
    e.2 == .ok () && user.pubkey == u && user.isSigner
  | _ => false

/-- What an `increment` of `c` that `u` signed and that returned `Ok` has added. -/
def Event.added (u c : Pubkey) (e : Event R programId) : Nat :=
  match e.1.ownIncrement u c with
  | some amount => if e.2 = .ok () then amount.toNat else 0
  | none => 0

theorem added_of_some {act : Action R.derivation programId} {amount : UInt64} {c : Pubkey}
    (h : act.ownIncrement u c = some amount) (r : Answer) :
    Event.added u c (act, r) = if r = .ok () then amount.toNat else 0 := by
  unfold Event.added
  rw [h]

theorem added_of_none {act : Action R.derivation programId} {c : Pubkey}
    (h : act.ownIncrement u c = none) (r : Answer) : Event.added u c (act, r) = 0 := by
  unfold Event.added
  rw [h]

/-- What shows of an event in the tally. -/
def Event.op (e : Event R programId) : Option (Op (Pubkey × Pubkey)) :=
  match e.1.request with
  | some (user, counter, .initializeCounter) =>
    if e.2 = .ok () ∧ user.isSigner = true then some (.opened (user.pubkey, counter.pubkey))
    else none
  | some (user, counter, .increment amount) =>
    if e.2 = .ok () ∧ user.isSigner = true then
      some (.added (user.pubkey, counter.pubkey) amount.toNat)
    else none
  | none => none

theorem op_of_not_ok {act : Action R.derivation programId} {r : Answer} (hr : r ≠ .ok ()) :
    Event.op (act, r) = none := by
  unfold Event.op
  split
  · exact if_neg fun h => hr h.1
  · exact if_neg fun h => hr h.1
  · rfl

theorem added_eq (u c : Pubkey) (e : Event R programId) :
    e.added u c = (e.op.map (Op.amount (u, c))).getD 0 := by
  unfold Event.added Event.op Action.ownIncrement
  rcases e.1.request with _ | ⟨user, counter, _ | amount⟩
  · rfl
  · show 0 = _
    by_cases hs : e.2 = .ok () ∧ user.isSigner = true
    · simp only [if_pos hs]
      rfl
    · simp only [if_neg hs]
      rfl
  · by_cases hok : e.2 = .ok ()
    · by_cases hs : user.isSigner = true
      · by_cases hk : user.pubkey = u ∧ counter.pubkey = c
        · simp [hok, hs, hk, Op.amount]
        · simp [hok, hs, hk, Op.amount]
      · simp [hs]
    · simp only [if_neg hok, if_neg fun h : _ ∧ _ => hok h.1]
      split <;> rfl

/-- What the tally adds up is what the increments added. -/
theorem total_filterMap (u c : Pubkey) (tr : List (Event R programId)) :
    total (u, c) (tr.filterMap Event.op) = (tr.map (Event.added u c)).sum := by
  induction tr with
  | nil => rfl
  | cons e tr ih =>
    rw [List.map_cons, List.sum_cons, ← ih, added_eq]
    rcases hop : e.op with _ | b
    · rw [List.filterMap_cons_none hop]
      exact (Nat.zero_add _).symm
    · rw [List.filterMap_cons_some hop]
      rfl

/-! ## The refinement -/

/-- One account has become another count of its user's. -/
theorem view_eq_update (hframe : ∀ a', a' ≠ a →
      (L' a').data = (L a').data ∧ (L' a').owner = (L a').owner)
    (h : Holds R programId L' u a bump count)
    (hothers : ∀ u', u' ≠ u → view R programId L (u', a) = none) :
    view R programId L' = Function.update (view R programId L) (u, a) (some count.toNat) := by
  funext k
  obtain ⟨u', a'⟩ := k
  by_cases ha : a' = a
  · subst ha
    by_cases hu : u' = u
    · subst hu
      rw [Function.update_self, view_of_holds h]
    · have hne : (u', a') ≠ (u, a') := fun hc => hu (Prod.mk.inj hc).1
      rw [Function.update_of_ne hne, hothers u' hu]
      exact view_eq_none fun _ _ h' => hu (h'.unique h).2.1
  · have hne : (u', a') ≠ (u, a) := fun hc => ha (Prod.mk.inj hc).2
    rw [Function.update_of_ne hne]
    exact view_congr (hframe a' ha)

theorem Effect.shows (hK : Kept R programId L) {act : Action R.derivation programId} {r : Answer}
    (h : Effect R programId L act r L') {op : Op (Pubkey × Pubkey)}
    (hop : Event.op (act, r) = some op) :
    Tally.apply (2 ^ 64) (view R programId L) op = some (view R programId L') := by
  have hframe := @Effect.frame_of_ne _ _ _ _ _ _ h
  cases h with
  | idle failed =>
    rw [op_of_not_ok failed] at hop
    cases hop
  | @initialised user counter system rest data bump rent decoded ready paid =>
    have hsig : user.isSigner = true := ready.signed
    simp only [Event.op, Action.request, decoded, Option.map_some, hsig, and_self, if_true,
      Option.some.injEq] at hop
    subst hop
    have hnone : ∀ u', view R programId L (u', counter.pubkey) = none := by
      intro u'
      refine view_eq_none ?_
      intro b n hh
      exact hh.data_ne_nil ready.empty
    exact apply_opened.mpr ⟨hnone _, view_eq_update (hframe rfl) (holds_created ready.derived)
      fun u' _ => hnone u'⟩
  | @incremented user counter rest data amount decoded accepts =>
    have hsig : user.isSigner = true := accepts.signed
    simp only [Event.op, Action.request, decoded, Option.map_some, hsig, and_self, if_true,
      Option.some.injEq] at hop
    subst hop
    obtain ⟨bump, hholds⟩ := hK.accepts accepts
    obtain ⟨hholds', hsum⟩ := hholds.incremented accepts
    have hothers : ∀ u', u' ≠ user.pubkey → view R programId L (u', counter.pubkey) = none :=
      fun u' hu => view_eq_none fun _ _ hh => hu (hh.unique hholds).2.1
    refine apply_added.mpr ⟨_, view_of_holds hholds, accepts.fits, ?_⟩
    rw [← hsum]
    exact view_eq_update (hframe rfl) hholds' hothers
  | moved => cases hop
  | allocated => cases hop
  | elsewhere => cases hop

theorem Effect.silent {act : Action R.derivation programId} {r : Answer}
    (h : Effect R programId L act r L') (hop : Event.op (act, r) = none) :
    view R programId L' = view R programId L := by
  have hframe := @Effect.frame_of_ne _ _ _ _ _ _ h
  cases h with
  | idle => rfl
  | @initialised user counter system rest data bump rent decoded ready paid =>
    have hsig : user.isSigner = true := ready.signed
    simp [Event.op, Action.request, decoded, hsig] at hop
  | @incremented user counter rest data amount decoded accepts =>
    have hsig : user.isSigner = true := accepts.signed
    simp [Event.op, Action.request, decoded, hsig] at hop
  | moved moves => exact funext fun _ => view_congr (transferLamports_data_owner moves)
  | @allocated address space empty unowned =>
    funext k
    obtain ⟨u', a'⟩ := k
    by_cases ha : a' = address.1
    · -- no counter is at an address without seeds
      have hno : ∀ L bump count, ¬ Holds R programId L u' a' bump count :=
        fun _ _ _ hh => address.2 (ha ▸ hh.isPda)
      rw [view_eq_none (hno _), view_eq_none (hno _)]
    · exact view_congr (hframe rfl a' ha)
  | @elsewhere address account before after =>
    funext k
    obtain ⟨u', a'⟩ := k
    by_cases ha : a' = address
    · subst ha
      rw [view_eq_none fun _ _ hh => before hh.owner]
      refine view_eq_none fun _ _ hh => after ?_
      have hown := hh.owner
      rw [Function.update_self] at hown
      exact hown
    · exact view_congr (hframe rfl a' ha)

/-- **The program refines a tally** in which no count reaches `2 ^ 64`. -/
theorem refinement (hR : R.Lawful) (programId : Pubkey) :
    Refinement (step R programId) (Kept R programId) (view R programId) (Tally.apply (2 ^ 64))
      Event.op where
  keeps := fun L act hK => hK.effect (step_effect hR L act)
  shows := fun L act _ hK hop => (step_effect hR L act).shows hK hop
  silent := fun L act _ hop => (step_effect hR L act).silent hop

end BootcampSolana.CounterPda
