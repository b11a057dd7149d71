import BootcampSolana.Lib.Machine
import BootcampSolana.HelloSolana.Accounts

/-!
# The history of the counter

A ledger is in one of two phases: there is no counter at the address, or the account holds
exactly the bytes of one (`Holds`). The first `initialize` that succeeds moves from the one to
the other, and nothing moves back.

* `step_blank`, `step_held` — what one instruction can do in either phase
* `run_held` — from the second phase on, the counter follows `Counter.next`
* `foldl_next` — its closed form
* `run_history` — the two phases put together
-/

namespace BootcampSolana.HelloSolana

open Machine

abbrev Event := Call × Answer

/-- An `initialize` that succeeded. -/
def Event.initialises : Event → Bool
  | (.initializeCounter _, .ok _) => true
  | _ => false

/-- A well-formed `increment` of `pda` that `signer` has signed. -/
def Call.attempts (pda signer : Pubkey) : Call → Bool
  | .increment accounts => wellFormed pda signer (accounts.map AccountMeta.toInfo)
  | .initializeCounter _ => false

/-! ## The counter without its account -/

/-- What an attempt of the authority makes of the counter. -/
def Counter.incremented (c : Counter) : Counter :=
  if c.count < MAX_COUNT then { c with count := c.count + 1 } else c

/-- What a call makes of the counter. -/
def Counter.next (pda : Pubkey) (c : Counter) (call : Call) : Counter :=
  if call.attempts pda c.authority then c.incremented else c

variable {pda : Pubkey} {c : Counter}

theorem checkedAdd_of_lt (h : c.count < MAX_COUNT) :
    U64.checkedAdd c.count 1 = some (c.count + 1) := by
  have hlt : c.count.toNat < 10 := h
  refine if_pos ?_
  show c.count.toNat + 1 < 2 ^ 64
  omega

theorem toNat_incremented (h : c.count ≤ MAX_COUNT) :
    c.incremented.count.toNat = min MAX_COUNT.toNat (c.count.toNat + 1) := by
  have hle : c.count.toNat ≤ 10 := h
  have hmax : MAX_COUNT.toNat = 10 := rfl
  unfold Counter.incremented
  split
  · next hlt =>
    have hlt' : c.count.toNat < 10 := hlt
    show (c.count + 1).toNat = _
    rw [UInt64.toNat_add, UInt64.toNat_one, Nat.mod_eq_of_lt (by omega), hmax]
    omega
  · next hge =>
    have hge' : ¬ c.count.toNat < 10 := hge
    omega

theorem authority_next (call : Call) : (c.next pda call).authority = c.authority := by
  unfold Counter.next Counter.incremented
  split
  · split <;> rfl
  · rfl

theorem toNat_next (h : c.count ≤ MAX_COUNT) (call : Call) :
    (c.next pda call).count.toNat = min MAX_COUNT.toNat
      (c.count.toNat + if call.attempts pda c.authority then 1 else 0) := by
  unfold Counter.next
  split
  · exact toNat_incremented h
  · exact (Nat.min_eq_right h).symm

/-- **The closed form.** The count saturates at `MAX_COUNT`, whatever stands in between. -/
theorem foldl_next (calls : List Call) (h : c.count ≤ MAX_COUNT) :
    (calls.foldl (Counter.next pda) c).authority = c.authority ∧
      (calls.foldl (Counter.next pda) c).count.toNat = min MAX_COUNT.toNat
        (c.count.toNat + calls.countP (·.attempts pda c.authority)) := by
  induction calls generalizing c with
  | nil => exact ⟨rfl, (Nat.min_eq_right h).symm⟩
  | cons call calls ih =>
    have hcount := @toNat_next pda c h call
    have hle : (c.next pda call).count ≤ MAX_COUNT := by
      show (c.next pda call).count.toNat ≤ MAX_COUNT.toNat
      rw [hcount]
      exact Nat.min_le_left _ _
    -- the tail counts under the authority it is left with, which is the same
    obtain ⟨hauth, hrest⟩ := ih hle
    rw [authority_next call] at hauth hrest
    refine ⟨hauth, ?_⟩
    show (calls.foldl (Counter.next pda) (c.next pda call)).count.toNat = _
    rw [hrest, hcount, List.countP_cons]
    omega

/-! ## One instruction -/

variable {A : Anchor} {L : Ledger} {accounts : List AccountMeta}

/-- The account at `pda` is the program's and holds `c`, and nothing else. -/
structure Holds (A : Anchor) (pda : Pubkey) (c : Counter) (L : Ledger) : Prop where
  owner : (L pda).owner = ID
  data : (L pda).data = A.bytes c

theorem Holds.counterOf (h : Holds A pda c L) : A.counterOf pda L = some c := by
  rw [Anchor.counterOf, if_pos h.owner, h.data, tryDeserialize_bytes]

theorem counterOf_of_data_eq_nil (h : (L pda).data = []) : A.counterOf pda L = none := by
  unfold Anchor.counterOf
  split
  · rw [h, tryDeserialize_nil]
  · rfl

/-- Writing over an account of the right size leaves nothing of what it held. -/
theorem holds_exit (howner : (L pda).owner = ID)
    (hlen : (L pda).data.length = 8 + Counter.INIT_SPACE) : Holds A pda c (A.exit pda c L) where
  owner := by
    rw [Anchor.exit, Function.update_self]
    exact howner
  data := by
    rw [Anchor.exit, Function.update_self]
    show copied (L pda).data 0 _ (A.bytes c) = A.bytes c
    rw [copied, ← hlen, List.drop_length, List.take_zero, List.nil_append, List.append_nil]

/-- What `initialize` can do. -/
theorem step_initializeCounter (hA : A.Lawful pda) :
    (∃ e, step A L (.initializeCounter accounts) = (.err e, L)) ∨
    (L pda).owner ≠ ID ∧ ∃ payer ∈ accounts.head?, payer.isSigner = true ∧
      ∃ L', step A L (.initializeCounter accounts) = (.ok (), L') ∧
        Holds A pda { count := 0, authority := payer.pubkey } L' := by
  unfold step
  dsimp only
  rcases htry : A.tryInitialize (accounts.map AccountMeta.toInfo) L with e | ⟨ctx, L₁⟩
  · exact Or.inl ⟨e, rfl⟩
  · obtain ⟨⟨payer, hpayer, hkey, hsig⟩, hctr, hnew, howner, hdata⟩ := hA.tryInitialize_ok htry
    dsimp only [handleInitialize]
    rcases htr : transferLamports ctx.payer ctx.counter HELLO_WORLD_LAMPORTS L₁ with e | L₂
    · exact Or.inl ⟨.program e, rfl⟩
    · refine Or.inr ⟨hnew, ?_⟩
      rw [List.head?_map] at hpayer
      obtain ⟨entry, hentry, rfl⟩ := Option.map_eq_some_iff.mp hpayer
      have hmoved := @transferLamports_data_owner _ _ pda _ _ _ htr
      have hlen : (L₂ pda).data.length = 8 + Counter.INIT_SPACE := by
        rw [hmoved.1, hdata, List.length_replicate]
      refine ⟨entry, hentry, hsig, _, rfl, ?_⟩
      rw [hctr, ← hkey]
      exact holds_exit (hmoved.2.trans howner) hlen

/-- An `increment` that is not an attempt of the authority fails. -/
theorem step_rejected (hA : A.Lawful pda)
    (h : ∀ c, A.counterOf pda L = some c →
      (Call.increment accounts).attempts pda c.authority = false) :
    ∃ e, step A L (.increment accounts) = (.err e, L) := by
  unfold step
  dsimp only
  rcases htry : A.tryIncrement (accounts.map AccountMeta.toInfo) L with e | ctx
  · exact ⟨e, rfl⟩
  · obtain ⟨hwf, hstate, -⟩ := hA.tryIncrement_ok.mp htry
    have hne : ctx.state.authority ≠ ctx.authority := by
      intro heq
      have hnot := h ctx.state hstate
      rw [heq] at hnot
      rw [show (Call.increment accounts).attempts pda ctx.authority = true from hwf] at hnot
      cases hnot
    dsimp only [handleIncrement]
    rw [if_neg hne]
    exact ⟨.errorCode .unauthorized, rfl⟩

/-- One that is adds one, up to the limit. -/
theorem step_attempt (hA : A.Lawful pda) (hc : A.counterOf pda L = some c)
    (h : (Call.increment accounts).attempts pda c.authority = true) :
    step A L (.increment accounts) =
      if c.count < MAX_COUNT then (.ok (), A.exit pda c.incremented L)
      else (.err (.errorCode .counterOverflow), L) := by
  have htry : A.tryIncrement (accounts.map AccountMeta.toInfo) L =
      .ok { counter := pda, state := c, authority := c.authority } :=
    hA.tryIncrement_ok.mpr ⟨h, hc, rfl⟩
  unfold step
  dsimp only
  rw [htry]
  dsimp only [handleIncrement]
  rw [if_pos rfl]
  by_cases hlt : c.count < MAX_COUNT
  · rw [if_pos hlt, if_pos hlt, checkedAdd_of_lt hlt, Counter.incremented, if_pos hlt]
  · rw [if_neg hlt, if_neg hlt]

/-! ## Either phase -/

/-- Without a counter, only an `initialize` can do anything. -/
theorem step_blank (hA : A.Lawful pda) (hL : A.counterOf pda L = none) (call : Call) :
    (∃ e, step A L call = (.err e, L)) ∨
    ∃ accounts, call = .initializeCounter accounts ∧ ∃ payer ∈ accounts.head?,
      payer.isSigner = true ∧ ∃ L', step A L call = (.ok (), L') ∧
        Holds A pda { count := 0, authority := payer.pubkey } L' := by
  cases call with
  | initializeCounter accounts =>
    rcases @step_initializeCounter pda A L accounts hA with herr | ⟨-, payer, hp, hsig, L', hs⟩
    · exact Or.inl herr
    · exact Or.inr ⟨accounts, rfl, payer, hp, hsig, L', hs⟩
  | increment accounts =>
    refine Or.inl (step_rejected hA ?_)
    intro c hc
    rw [hL] at hc
    cases hc

/-- With one, the counter follows `Counter.next`, and what is not an attempt fails. -/
theorem step_held (hA : A.Lawful pda) (hc : Holds A pda c L) (call : Call) :
    Holds A pda (c.next pda call) (step A L call).2 ∧
      ((∃ e, step A L call = (.err e, L)) ∨
        call.attempts pda c.authority = true ∧ (step A L call).1 = .ok ()) := by
  cases call with
  | initializeCounter accounts =>
    -- `init` refuses an account that the program owns already
    rcases @step_initializeCounter pda A L accounts hA with ⟨e, he⟩ | ⟨hne, -⟩
    · rw [he]
      exact ⟨hc, Or.inl ⟨e, rfl⟩⟩
    · exact absurd hc.owner hne
  | increment accounts =>
    rcases hatt : (Call.increment accounts).attempts pda c.authority with _ | _
    · have hstay : c.next pda (.increment accounts) = c := by
        rw [Counter.next, hatt]
        rfl
      have hrej : ∀ c', A.counterOf pda L = some c' →
          (Call.increment accounts).attempts pda c'.authority = false := by
        intro c' hc'
        rw [hc.counterOf] at hc'
        cases hc'
        exact hatt
      obtain ⟨e, he⟩ := step_rejected hA hrej
      rw [he, hstay]
      exact ⟨hc, Or.inl ⟨e, rfl⟩⟩
    · have hmove : c.next pda (.increment accounts) = c.incremented := by
        rw [Counter.next, hatt]
        rfl
      rw [step_attempt hA hc.counterOf hatt, hmove]
      by_cases hlt : c.count < MAX_COUNT
      · rw [if_pos hlt]
        have hlen : (L pda).data.length = 8 + Counter.INIT_SPACE := by rw [hc.data, length_bytes]
        exact ⟨holds_exit hc.owner hlen, Or.inr ⟨rfl, rfl⟩⟩
      · rw [if_neg hlt, Counter.incremented, if_neg hlt]
        exact ⟨hc, Or.inl ⟨_, rfl⟩⟩

/-! ## Runs -/

/-- A ledger without a counter stays as it is until an `initialize` succeeds. -/
theorem run_blank (hA : A.Lawful pda) (hL : A.counterOf pda L = none) (calls : List Call)
    (h : ∀ ev ∈ trace (step A) L calls, Event.initialises ev = false) :
    run (step A) L calls = L := by
  induction calls with
  | nil => rfl
  | cons call calls ih =>
    rcases step_blank hA hL call with ⟨e, he⟩ | ⟨accounts, rfl, _, _, _, L', hs, _⟩
    · have htrace : trace (step A) L (call :: calls) = (call, .err e) :: trace (step A) L calls := by
        rw [trace, he]
      rw [htrace] at h
      show run (step A) (step A L call).2 calls = L
      rw [he]
      exact ih fun ev hev => h ev (List.mem_cons_of_mem _ hev)
    · have hev := h (.initializeCounter accounts, .ok ()) (by rw [trace, hs]; exact List.mem_cons_self)
      cases hev

/-- From a counter on, it follows `Counter.next`. -/
theorem run_held (hA : A.Lawful pda) (hc : Holds A pda c L) (calls : List Call) :
    Holds A pda (calls.foldl (Counter.next pda) c) (run (step A) L calls) :=
  @run_simulates _ _ _ (step A) _ (fun L c => Holds A pda c L) (Counter.next pda)
    (fun _ _ call h => (step_held hA h call).1) _ _ calls hc

/-- Every run ends in one of the phases. -/
theorem run_phase (hA : A.Lawful pda) (hL : A.counterOf pda L = none) (calls : List Call) :
    A.counterOf pda (run (step A) L calls) = none ∨
      ∃ c, Holds A pda c (run (step A) L calls) := by
  have hkeeps : Keeps (step A) (fun _ => True)
      (fun L => A.counterOf pda L = none ∨ ∃ c, Holds A pda c L) := by
    intro L call _ hphase
    rcases hphase with hblank | ⟨c, hc⟩
    · rcases step_blank hA hblank call with ⟨e, he⟩ | ⟨_, _, _, _, _, L', hs, hnew⟩
      · rw [he]
        exact Or.inl hblank
      · rw [hs]
        exact Or.inr ⟨_, hnew⟩
    · exact Or.inr ⟨_, (step_held hA hc call).1⟩
  exact run_invariant hkeeps (Or.inl hL) fun _ _ => trivial

/-- A step that is not an `initialize` that succeeds: what `step_held` leaves room for. -/
theorem initialises_held (hA : A.Lawful pda) (hc : Holds A pda c L) (call : Call) :
    Event.initialises (call, (step A L call).1) = false := by
  rcases (step_held hA hc call).2 with ⟨e, he⟩ | ⟨hatt, -⟩
  · rw [he]
    cases call <;> rfl
  · cases call with
    | initializeCounter accounts => cases hatt
    | increment accounts => rfl

theorem countP_initialises_held (hA : A.Lawful pda) (hc : Holds A pda c L) (calls : List Call) :
    (trace (step A) L calls).countP Event.initialises = 0 := by
  rw [List.countP_eq_zero]
  rintro ⟨call, o⟩ hev
  obtain ⟨before, after, -, rfl⟩ := mem_trace hev
  rw [initialises_held hA (run_held hA hc before) call]
  exact Bool.false_ne_true

/-- At most one `initialize` succeeds. -/
theorem countP_initialises_le (hA : A.Lawful pda) (hL : A.counterOf pda L = none)
    (calls : List Call) : (trace (step A) L calls).countP Event.initialises ≤ 1 := by
  induction calls with
  | nil => exact Nat.zero_le 1
  | cons call calls ih =>
    rw [trace, List.countP_cons]
    -- a failure leaves the ledger blank, and a success leaves no room for another
    rcases step_blank hA hL call with ⟨e, he⟩ | ⟨accounts, rfl, _, _, _, L', hs, hnew⟩
    · have hnot : Event.initialises (call, .err e) = false := by cases call <;> rfl
      rw [he, hnot]
      exact ih
    · rw [hs, countP_initialises_held hA hnew calls]
      exact Nat.le_refl 1

theorem step_ne_panicked (hA : A.Lawful pda)
    (h : A.counterOf pda L = none ∨ ∃ c, Holds A pda c L) (call : Call) :
    (step A L call).1 ≠ .panicked := by
  have hcases : (∃ e, (step A L call).1 = .err e) ∨ (step A L call).1 = .ok () := by
    rcases h with hblank | ⟨c, hc⟩
    · rcases step_blank hA hblank call with ⟨e, he⟩ | ⟨_, _, _, _, _, L', hs, _⟩
      · exact Or.inl ⟨e, by rw [he]⟩
      · exact Or.inr (by rw [hs])
    · rcases (step_held hA hc call).2 with ⟨e, he⟩ | ⟨-, hok⟩
      · exact Or.inl ⟨e, by rw [he]⟩
      · exact Or.inr hok
  rcases hcases with ⟨e, he⟩ | hok
  · rw [he]
    exact nofun
  · rw [hok]
    exact nofun

/-! ## The whole history -/

/-- What holds of a ledger after an `initialize` that `payer` paid for and the calls `since`. -/
structure Follows (A : Anchor) (pda payer : Pubkey) (since : List Call) (L : Ledger) : Prop where
  /-- The count is the number of the payer's attempts, cut off at `MAX_COUNT`. -/
  counter : ∃ c, A.counterOf pda L = some c ∧ c.authority = payer ∧ c.count ≤ MAX_COUNT ∧
    c.count.toNat = min MAX_COUNT.toNat (since.countP (·.attempts pda payer))
  refused : ∀ accounts, ∃ e, step A L (.initializeCounter accounts) = (.err e, L)
  unauthorized : ∀ accounts,
    (∀ signer, accounts[1]? = some signer → signer.isSigner = true → signer.pubkey ≠ payer) →
    ∃ e, step A L (.increment accounts) = (.err e, L)
  monotone : ∀ call, ∃ c c', A.counterOf pda L = some c ∧
    A.counterOf pda (step A L call).2 = some c' ∧ c.count ≤ c'.count

theorem signer_of_attempts {signer : Pubkey}
    (h : (Call.increment accounts).attempts pda signer = true) :
    ∃ authority, accounts[1]? = some authority ∧ authority.isSigner = true ∧
      authority.pubkey = signer := by
  rcases accounts with _ | ⟨counter, _ | ⟨authority, rest⟩⟩
  · cases h
  · cases h
  · simp only [Call.attempts, List.map_cons, wellFormed, AccountMeta.toInfo, Bool.and_eq_true,
      beq_iff_eq] at h
    exact ⟨authority, rfl, h.2, h.1.2⟩

theorem follows_of_holds (hA : A.Lawful pda) {payer : Pubkey} {since : List Call}
    (hc : Holds A pda (since.foldl (Counter.next pda) { count := 0, authority := payer }) L) :
    Follows A pda payer since L := by
  have hzero : ({ count := 0, authority := payer } : Counter).count ≤ MAX_COUNT :=
    Nat.zero_le _
  obtain ⟨hauth, hcount⟩ := @foldl_next pda _ since hzero
  rw [UInt64.toNat_zero, Nat.zero_add] at hcount
  generalize since.foldl (Counter.next pda) { count := 0, authority := payer } = c at *
  have hle : c.count ≤ MAX_COUNT := by
    show c.count.toNat ≤ MAX_COUNT.toNat
    rw [hcount]
    exact Nat.min_le_left _ _
  have hfail : ∀ call, call.attempts pda payer = false → ∃ e, step A L call = (.err e, L) := by
    intro call hnot
    rcases (step_held hA hc call).2 with herr | ⟨hatt, -⟩
    · exact herr
    · rw [hauth, hnot] at hatt
      cases hatt
  refine ⟨⟨c, hc.counterOf, hauth, hle, hcount⟩, fun accounts => hfail _ rfl, ?_, ?_⟩
  · intro accounts hsigner
    refine hfail _ (Bool.eq_false_iff.mpr ?_)
    intro hatt
    obtain ⟨authority, hmem, hsig, hkey⟩ := signer_of_attempts hatt
    exact hsigner authority hmem hsig hkey
  · intro call
    refine ⟨c, _, hc.counterOf, (step_held hA hc call).1.counterOf, ?_⟩
    show c.count.toNat ≤ (c.next pda call).count.toNat
    rw [toNat_next hle call]
    exact Nat.le_min.mpr ⟨hle, Nat.le_add_right _ _⟩

/--
**The history of the counter.** From a ledger without data at `pda`, after any calls:
no `increment` has any effect before an `initialize` has succeeded, at most one succeeds, no
handler panics, and once one has succeeded, the ledger is what its payer has made of it.
-/
theorem run_history (hA : A.Lawful pda) (hL : (L pda).data = []) (calls : List Call) :
    ((∀ ev ∈ trace (step A) L calls, Event.initialises ev = false) → ∀ accounts,
      ∃ e, step A (run (step A) L calls) (.increment accounts) =
        (.err e, run (step A) L calls)) ∧
    (trace (step A) L calls).countP Event.initialises ≤ 1 ∧
    (∀ ev ∈ trace (step A) L calls, ev.2 ≠ .panicked) ∧
    ∀ before accounts since, calls = before ++ .initializeCounter accounts :: since →
      (step A (run (step A) L before) (.initializeCounter accounts)).1 = .ok () →
      ∃ payer ∈ accounts.head?, payer.isSigner = true ∧
        Follows A pda payer.pubkey since (run (step A) L calls) := by
  have hblank : A.counterOf pda L = none := counterOf_of_data_eq_nil hL
  refine ⟨?_, countP_initialises_le hA hblank calls, ?_, ?_⟩
  · intro hnone accounts
    rw [run_blank hA hblank calls hnone]
    refine step_rejected hA ?_
    intro c hc
    rw [hblank] at hc
    cases hc
  · rintro ⟨call, o⟩ hev
    obtain ⟨before, after, -, rfl⟩ := mem_trace hev
    exact step_ne_panicked hA (run_phase hA hblank before) call
  · intro before accounts since hcalls hok
    rcases run_phase hA hblank before with hphase | ⟨c, hc⟩
    · rcases step_blank hA hphase (.initializeCounter accounts)
        with ⟨e, he⟩ | ⟨_, heq, payer, hpayer, hsig, L', hs, hnew⟩
      · rw [he] at hok
        cases hok
      · cases heq
        refine ⟨payer, hpayer, hsig, follows_of_holds hA ?_⟩
        rw [hcalls, run_append]
        show Holds A pda _ (run (step A) (step A _ _).2 since)
        rw [hs]
        exact run_held hA hnew since
    · -- it would be the second
      have hnot := initialises_held hA hc (.initializeCounter accounts)
      rw [hok] at hnot
      cases hnot

def initializeBy (payer : Pubkey) : List AccountMeta :=
  [.new payer true, .new counterAddress false, .newReadonly systemProgramId false]

def incrementBy (authority : Pubkey) : Call :=
  .increment [.new counterAddress false, .newReadonly authority true]

/-- `alice` counts to two on the deployed program. What `bob` sends on the way is lost. -/
theorem run_history_alice :
    ∃ c, deployed.counterOf counterAddress
        (run (step deployed) sampleLedger
          [incrementBy bob, .initializeCounter (initializeBy alice), incrementBy alice,
            .initializeCounter (initializeBy bob), incrementBy bob, incrementBy alice]) = some c ∧
      c.authority = alice ∧ c.count.toNat = 2 := by
  obtain ⟨-, -, -, hlast⟩ := run_history
    (derivedAccounts_lawful findProgramAddress_deployed : deployed.Lawful counterAddress)
    (by decide +kernel : (sampleLedger counterAddress).data = [])
    [incrementBy bob, .initializeCounter (initializeBy alice), incrementBy alice,
      .initializeCounter (initializeBy bob), incrementBy bob, incrementBy alice]
  obtain ⟨payer, hpayer, -, hfollows⟩ :=
    hlast [incrementBy bob] (initializeBy alice) _ rfl (by decide +kernel)
  obtain ⟨c, hc, hauth, -, hcount⟩ := hfollows.counter
  cases hpayer
  exact ⟨c, hc, hauth, hcount.trans (by decide +kernel)⟩

end BootcampSolana.HelloSolana
