import BootcampSolana.CounterPda.Accounting

/-!
# Histories of the counter program

What the refinement says about whole runs, from a ledger on which the program owns nothing:

* `run_accounting` — a user initialises at most once, and from then on the counter is where it
  was made, belongs to that user, and counts what the user has added since
* `run_provenance` — every account of the program is blank or a canonical counter, whatever an
  `increment` accepts was written by an `initialize`, and a user has one counter at most
-/

namespace BootcampSolana.CounterPda

open Machine Tally

variable {R : Runtime} {programId : Pubkey} {L L' : Ledger} {u a : Pubkey}

/-! ## Single events -/

/-- The instruction `u` initialises with is in the tally under `u`'s derived address. -/
theorem Effect.of_initialises {act : Action R.derivation programId} {r : Answer}
    (h : Effect R programId L act r L') (hi : Event.initialises u (act, r) = true) :
    ∃ c bump, Holds R programId L' u c bump 0 ∧ Event.op (act, r) = some (.opened (u, c)) := by
  cases h with
  | @idle _ r failed =>
    unfold Event.initialises at hi
    split at hi
    · simp [failed] at hi
    · cases hi
  | @initialised user counter system rest data bump rent decoded ready paid =>
    have hsig : user.isSigner = true := ready.signed
    simp only [Event.initialises, Action.request, decoded, Option.map_some, hsig, Bool.and_true,
      Bool.and_eq_true, beq_iff_eq, true_and] at hi
    subst hi
    refine ⟨counter.pubkey, bump, holds_created ready.derived, ?_⟩
    simp only [Event.op, Action.request, decoded, Option.map_some, hsig, and_self, if_true]
  | @incremented user counter rest data amount decoded accepts =>
    simp [Event.initialises, Action.request, decoded] at hi
  | moved => cases hi
  | allocated => cases hi
  | elsewhere => cases hi

theorem count_initialises_le (hR : R.Lawful) (acts : List (Action R.derivation programId))
    (hK : Kept R programId L) :
    (trace (step R programId) L acts).countP (Event.initialises u) ≤ 1 := by
  have hev : ∀ e : Event R programId, e ∈ trace (step R programId) L acts →
      e.initialises u = true →
      ∃ c bump, findProgramAddress R.derivation [seedPrefix, u.bytes] programId = some (c, bump) ∧
        e.op = some (.opened (u, c)) := by
    intro e he hi
    obtain ⟨before, after, -, ho⟩ := mem_trace he
    have heff := step_effect hR (run (step R programId) L before) e.1
    rw [← ho] at heff
    obtain ⟨c, bump, hh, hop⟩ := heff.of_initialises hi
    exact ⟨c, bump, hh.derived, hop⟩
  -- all of them open the one key that the search returns for `u`
  rcases hfind : findProgramAddress R.derivation [seedPrefix, u.bytes] programId with _ | ⟨c, bump⟩
  · rw [List.countP_eq_zero.mpr]
    · exact Nat.zero_le 1
    · intro e he hi
      obtain ⟨c, bump, hc, -⟩ := hev e he hi
      rw [hfind] at hc
      cases hc
  · have hle := count_opened_le (k := (u, c)) (run_refines (refinement hR programId) acts hK)
    rw [List.count_filterMap] at hle
    refine Nat.le_trans (List.countP_mono_left ?_) hle
    intro e he hi
    obtain ⟨c', bump', hc, hop⟩ := hev e he hi
    rw [hfind] at hc
    cases hc
    rw [hop]
    exact beq_self_eq_true _

/-- A counter counts what its user adds to it. -/
theorem holds_run (hR : R.Lawful) (hK : Kept R programId L) {bump : UInt8} {count : UInt64}
    (h : Holds R programId L u a bump count) (acts : List (Action R.derivation programId)) :
    ∃ count', Holds R programId (run (step R programId) L acts) u a bump count' ∧
      count'.toNat
        = count.toNat + ((trace (step R programId) L acts).map (Event.added u a)).sum := by
  have hrun := run_refines (refinement hR programId) acts hK
  obtain ⟨hview, -⟩ := perform_of_open hrun (view_of_holds h)
  obtain ⟨bump', count', hh, hcount⟩ := holds_of_view hview
  -- the search has one result, so the bump is the same one
  have hb : bump' = bump := (Prod.mk.inj (Option.some.inj (hh.derived.symm.trans h.derived))).2
  rw [total_filterMap] at hcount
  exact ⟨count', hb ▸ hh, hcount⟩

/--
**Exact accounting.** On a ledger without accounts of the program, `u` initialises at most
once in any run. If the run takes a step that initialises `u`, then after it, however it goes
on, the account derived for `u` is `u`'s counter: it belongs to the program, its 41 bytes are
a count, `u` and the bump, and the count is the sum of what `u`'s increments have added since.
From then on it only grows.
-/
theorem run_accounting (hR : R.Lawful) (hL : ∀ a, (L a).owner ≠ programId) (u : Pubkey) :
    (∀ acts, (trace (step R programId) L acts).countP (Event.initialises u) ≤ 1) ∧
    ∀ before act, Event.initialises u
        (act, (step R programId (run (step R programId) L before) act).1) = true →
      ∃ c bump, findProgramAddress R.derivation [seedPrefix, u.bytes] programId = some (c, bump) ∧
        ∀ after, ∃ count,
          Holds R programId (run (step R programId) L (before ++ act :: after)) u c bump count ∧
          count.toNat = ((trace (step R programId)
            (run (step R programId) L (before ++ [act])) after).map (Event.added u c)).sum ∧
          ∀ more, ∃ count',
            Holds R programId (run (step R programId) L (before ++ act :: (after ++ more)))
              u c bump count' ∧
            count.toNat ≤ count'.toNat := by
  have hK : Kept R programId L := kept_of_unowned hL
  refine ⟨fun acts => count_initialises_le hR acts hK, ?_⟩
  intro before act hi
  have hK₁ := kept_run hR hK before
  have hK₂ := kept_run hR hK (before ++ [act])
  obtain ⟨c, bump, hh, -⟩ := (step_effect hR _ act).of_initialises hi
  have hstart : run (step R programId) L (before ++ [act])
      = (step R programId (run (step R programId) L before) act).2 := run_append _ _ _ _
  rw [← hstart] at hh
  have hsplit : ∀ acts, run (step R programId) L (before ++ act :: acts)
      = run (step R programId) (run (step R programId) L (before ++ [act])) acts := by
    intro acts
    rw [← run_append, List.append_assoc]
    rfl
  refine ⟨c, bump, hh.derived, ?_⟩
  intro after
  obtain ⟨count, hafter, hsum⟩ := holds_run hR hK₂ hh after
  refine ⟨count, ?_, ?_, ?_⟩
  · rw [hsplit]
    exact hafter
  · rw [hsum]
    exact Nat.zero_add _
  · intro more
    obtain ⟨count', hmore, hsum'⟩ := holds_run hR (kept_run hR hK₂ after) hafter more
    refine ⟨count', ?_, by omega⟩
    rw [hsplit, run_append]
    exact hmore

/-- `alice` initialises, adds 5, is paid a lamport, is not counted for by `bob`, and adds 37. -/
def sampleActions : List (Action sampleRuntime.derivation sampleProgram) :=
  [.call [⟨alice, true, true⟩, ⟨aliceCounter, false, true⟩] (1 :: U64.toLeBytes 5),
    .transfer bob aliceCounter 1,
    .call [⟨bob, true, true⟩, ⟨aliceCounter, false, true⟩] (1 :: U64.toLeBytes 9),
    .call [⟨alice, true, true⟩, ⟨aliceCounter, false, true⟩] (1 :: U64.toLeBytes 37)]

theorem sampleLedger_unowned (a : Pubkey) : (sampleLedger a).owner ≠ sampleProgram := by
  have hsystem : (sampleLedger a).owner = systemProgramId := by
    unfold sampleLedger
    split <;> rfl
  rw [hsystem]
  decide

theorem run_accounting_alice :
    ∃ count, Holds sampleRuntime sampleProgram
      (run (step sampleRuntime sampleProgram) sampleLedger
        (.call [⟨alice, true, true⟩, ⟨aliceCounter, false, true⟩, ⟨systemProgramId, false, false⟩]
          [0] :: sampleActions))
      alice aliceCounter 255 count ∧ count.toNat = 42 := by
  obtain ⟨c, bump, hfind, h⟩ := (run_accounting sampleRuntime_lawful sampleLedger_unowned alice).2 []
    (.call [⟨alice, true, true⟩, ⟨aliceCounter, false, true⟩, ⟨systemProgramId, false, false⟩] [0])
    (by decide)
  have hcounter : findProgramAddress sampleRuntime.derivation [seedPrefix, alice.bytes] sampleProgram
      = some (aliceCounter, 255) := by decide
  cases hfind.symm.trans hcounter
  obtain ⟨count, hh, hsum, -⟩ := h sampleActions
  exact ⟨count, hh, hsum.trans (by decide)⟩

/-! ## Where counters come from -/

/-- In `L`, the action is an increment of `a` by `u`, and it succeeds. -/
def AddsTo (R : Runtime) (programId : Pubkey) (L : Ledger) (act : Action R.derivation programId)
    (u a : Pubkey) : Prop :=
  ∃ user counter amount, act.request = some (user, counter, .increment amount) ∧
    user.pubkey = u ∧ counter.pubkey = a ∧ (step R programId L act).1 = .ok ()

/-- In `L`, the action is an initialisation of `a` for `u`, and it succeeds. -/
def Opens (R : Runtime) (programId : Pubkey) (L : Ledger) (act : Action R.derivation programId)
    (u a : Pubkey) : Prop :=
  ∃ user counter, act.request = some (user, counter, .initializeCounter) ∧
    user.pubkey = u ∧ counter.pubkey = a ∧ (step R programId L act).1 = .ok ()

theorem Effect.accepts {act : Action R.derivation programId} {r : Answer}
    (h : Effect R programId L act r L') {user counter : AccountMeta} {amount : UInt64}
    (hreq : act.request = some (user, counter, .increment amount)) (hr : r = .ok ()) :
    Accepts R programId user.toInfo counter.toInfo amount L := by
  cases h with
  | idle failed => exact absurd hr failed
  | initialised decoded =>
    simp [Action.request, decoded] at hreq
  | incremented decoded accepts =>
    simp only [Action.request, decoded, Option.map_some, Option.some.injEq, Prod.mk.injEq,
      CounterIx.increment.injEq] at hreq
    obtain ⟨rfl, rfl, rfl⟩ := hreq
    exact accepts
  | moved => cases hreq
  | allocated => cases hreq
  | elsewhere => cases hreq

/-- An increment that succeeds has found its user's counter. -/
theorem AddsTo.holds (hR : R.Lawful) (hK : Kept R programId L)
    {act : Action R.derivation programId} (h : AddsTo R programId L act u a) :
    ∃ bump count, Holds R programId L u a bump count := by
  obtain ⟨user, counter, amount, hreq, rfl, rfl, hr⟩ := h
  obtain ⟨bump, hh⟩ := hK.accepts ((step_effect hR L act).accepts hreq hr)
  exact ⟨bump, _, hh⟩

theorem opened_of_op {e : Event R programId} (h : e.op = some (.opened (u, a))) :
    e.2 = .ok () ∧ ∃ user counter, e.1.request = some (user, counter, .initializeCounter) ∧
      user.pubkey = u ∧ counter.pubkey = a := by
  unfold Event.op at h
  split at h
  · next user counter hreq =>
    split at h
    · next hok =>
      cases h
      exact ⟨hok.1, user, counter, hreq, rfl, rfl⟩
    · cases h
  · split at h
    · cases h
    · cases h
  · cases h

/-- Where there is a counter there was an `initialize`. -/
theorem Holds.opened (hR : R.Lawful) (hL : ∀ a, (L a).owner ≠ programId)
    {acts : List (Action R.derivation programId)} {bump : UInt8} {count : UInt64}
    (h : Holds R programId (run (step R programId) L acts) u a bump count) :
    ∃ before init after, acts = before ++ init :: after ∧
      Opens R programId (run (step R programId) L before) init u a := by
  have hrun := run_refines (refinement hR programId) acts (kept_of_unowned hL)
  have hnone : view R programId L (u, a) = none := view_eq_none fun _ _ hh => hL a hh.owner
  obtain ⟨pre, post, hops, -⟩ := opened_of_open hrun hnone (view_of_holds h)
  have hmem : Op.opened (u, a) ∈ (trace (step R programId) L acts).filterMap Event.op := by
    rw [hops]
    exact List.mem_append_right _ List.mem_cons_self
  obtain ⟨⟨init, r⟩, he, hop⟩ := List.mem_filterMap.mp hmem
  obtain ⟨before, after, hacts, ho⟩ := mem_trace he
  obtain ⟨hok, user, counter, hreq, hu, ha⟩ := opened_of_op hop
  exact ⟨before, init, after, hacts, user, counter, hreq, hu, ha, ho.symm.trans hok⟩

/--
**Representation and provenance.** Whatever has happened, an account of the program is full
of zeros at an address without seeds, or the counter of some user at the address and with the
bump derived for that user. An increment that succeeds is on such a counter, one that an
earlier `initialize` has written, and no two accounts accept the increments of one user.
-/
theorem run_provenance (hR : R.Lawful) (hL : ∀ a, (L a).owner ≠ programId)
    (acts : List (Action R.derivation programId)) :
    Kept R programId (run (step R programId) L acts) ∧
    (∀ act u a, AddsTo R programId (run (step R programId) L acts) act u a →
      (∃ bump, findProgramAddress R.derivation [seedPrefix, u.bytes] programId = some (a, bump) ∧
        (run (step R programId) L acts a).data[40]? = some bump) ∧
      ∃ before init after, acts = before ++ init :: after ∧
        Opens R programId (run (step R programId) L before) init u a) ∧
    (∀ act act' u a a', AddsTo R programId (run (step R programId) L acts) act u a →
      AddsTo R programId (run (step R programId) L acts) act' u a' → a = a') := by
  have hK := kept_run hR (kept_of_unowned hL) acts
  refine ⟨hK, ?_, ?_⟩
  · intro act u a hadd
    obtain ⟨bump, count, hh⟩ := hadd.holds hR hK
    refine ⟨⟨bump, hh.derived, ?_⟩, hh.opened hR hL⟩
    rw [hh.data, getElem_bump]
  · intro act act' u a a' hadd hadd'
    obtain ⟨bump, count, hh⟩ := hadd.holds hR hK
    obtain ⟨bump', count', hh'⟩ := hadd'.holds hR hK
    exact (Prod.mk.inj (Option.some.inj (hh.derived.symm.trans hh'.derived))).1

/-- The account of `sampleProgram` that `alice` counts in was made by her `initialize`. -/
theorem run_provenance_alice :
    ∃ before init after,
      ([.call [⟨alice, true, true⟩, ⟨aliceCounter, false, true⟩, ⟨systemProgramId, false, false⟩]
        [0]] : List (Action sampleRuntime.derivation sampleProgram)) = before ++ init :: after ∧
      Opens sampleRuntime sampleProgram
        (run (step sampleRuntime sampleProgram) sampleLedger before) init alice aliceCounter := by
  obtain ⟨-, h, -⟩ := run_provenance sampleRuntime_lawful sampleLedger_unowned
    [.call [⟨alice, true, true⟩, ⟨aliceCounter, false, true⟩, ⟨systemProgramId, false, false⟩] [0]]
  refine (h (.call [⟨alice, true, true⟩, ⟨aliceCounter, false, true⟩] (1 :: U64.toLeBytes 5))
    alice aliceCounter ?_).2
  exact ⟨⟨alice, true, true⟩, ⟨aliceCounter, false, true⟩, 5, by decide, rfl, rfl, by decide⟩

end BootcampSolana.CounterPda
