import BootcampSolana.CounterPda.Initialize
import BootcampSolana.Lib.Machine

/-!
# The program among others

The ledger as a machine. Anyone may call the program with any accounts and any data, send
lamports, make an account for the program at an address the program cannot sign for, or do
what they like with accounts that are not the program's.

`step_effect` lists what an action can do to the ledger. Every invariant below is a case
analysis over that list.
-/

namespace BootcampSolana.CounterPda

open Machine

/-! ## Actions -/

/-- What can happen next. A program's address space is closed to others, which the subtype says. -/
inductive Action (D : Derivation) (programId : Pubkey) where
  /-- An instruction for the program, with the flags that its transaction gives the accounts. -/
  | call (accounts : List AccountMeta) (data : Bytes)
  | transfer (source target : Pubkey) (amount : Nat)
  /-- `allocate` and `assign`: an account full of zeros, handed to the program. -/
  | allocate (address : { a : Pubkey // ¬ IsPda D programId a }) (space : Nat)
  /-- Other programs, at work on accounts that are and stay none of this program's. -/
  | elsewhere (address : Pubkey) (account : Account)

/-- What an action answers. -/
abbrev Answer := Outcome ProgramError Unit

variable {R : Runtime} {programId : Pubkey}

/-- An account that is listed twice is writable if one of the two entries says so. -/
def Writable (accounts : List AccountMeta) (a : Pubkey) : Prop :=
  ∃ m ∈ accounts, m.pubkey = a ∧ m.isWritable = true

instance (accounts : List AccountMeta) (a : Pubkey) : Decidable (Writable accounts a) :=
  inferInstanceAs (Decidable (∃ m ∈ accounts, m.pubkey = a ∧ m.isWritable = true))

/-- What was passed read-only is as it was. -/
def ReadonlyKept (accounts : List AccountMeta) (L L' : Ledger) : Prop :=
  ∀ m ∈ accounts, ¬ Writable accounts m.pubkey → L' m.pubkey = L m.pubkey

instance (accounts : List AccountMeta) (L L' : Ledger) : Decidable (ReadonlyKept accounts L L') :=
  inferInstanceAs
    (Decidable (∀ m ∈ accounts, ¬ Writable accounts m.pubkey → L' m.pubkey = L m.pubkey))

/--
An instruction on the accounts of the ledger. One that fails is reverted, and so is one that has
changed an account it may only read.
-/
def execute (R : Runtime) (programId : Pubkey) (L : Ledger) (accounts : List AccountMeta)
    (data : Bytes) : Answer × Ledger :=
  match processInstruction R programId (accounts.map AccountMeta.toInfo) data (.ofLedger L) with
  | (.ok (), m) =>
    if ReadonlyKept accounts L m.accounts then (.ok (), m.accounts)
    else (.err .readonlyDataModified, L)
  | (r, _) => (r, L)

def step (R : Runtime) (programId : Pubkey) (L : Ledger) :
    Action R.derivation programId → Answer × Ledger
  | .call accounts data => execute R programId L accounts data
  | .transfer source target amount =>
    match transferLamports source target amount L with
    | .ok L' => (.ok (), L')
    | .error e => (.err e, L)
  | .allocate address space =>
    if (L address).data = [] ∧ (L address).owner = systemProgramId then
      (.ok (), Function.update L address
        { L address with data := List.replicate space 0, owner := programId })
    else (.err .illegalOwner, L)
  | .elsewhere address account =>
    if (L address).owner ≠ programId ∧ account.owner ≠ programId then
      (.ok (), Function.update L address account)
    else (.err .illegalOwner, L)

/-! ## What an instruction asks for -/

/-- The first two accounts of a call and what its data decodes to. -/
def Action.request : Action R.derivation programId →
    Option (AccountMeta × AccountMeta × CounterIx)
  | .call (user :: counter :: _) data =>
    (CounterIx.decode data).map fun ix => (user, counter, ix)
  | _ => none

/-- `u` is the signing first account of the call. -/
def Action.signedBy (u : Pubkey) : Action R.derivation programId → Bool
  | .call (user :: _) _ => user.pubkey == u && user.isSigner
  | _ => false

/-- The amount of an increment of `c` that `u` has signed. -/
def Action.ownIncrement (u c : Pubkey) (act : Action R.derivation programId) : Option UInt64 :=
  match act.request with
  | some (user, counter, .increment amount) =>
    if user.pubkey = u ∧ user.isSigner = true ∧ counter.pubkey = c then some amount else none
  | _ => none

section Requests

variable {u c : Pubkey}

theorem ownIncrement_eq_some {act : Action R.derivation programId} {amount : UInt64} :
    act.ownIncrement u c = some amount ↔
      ∃ user counter rest data, act = .call (user :: counter :: rest) data ∧
        CounterIx.decode data = some (.increment amount) ∧
        user.pubkey = u ∧ user.isSigner = true ∧ counter.pubkey = c := by
  constructor
  · intro h
    unfold Action.ownIncrement at h
    split at h
    · next user counter n hreq =>
      split at h
      · next hk =>
        cases h
        unfold Action.request at hreq
        split at hreq
        · next user' counter' rest data =>
          obtain ⟨ix, hdec, he⟩ := Option.map_eq_some_iff.mp hreq
          cases he
          exact ⟨user, counter, rest, data, rfl, hdec, hk⟩
        · cases hreq
      · cases h
    · cases h
  · rintro ⟨user, counter, rest, data, rfl, hdec, hk⟩
    simp only [Action.ownIncrement, Action.request, hdec, Option.map_some]
    exact if_pos hk

theorem signedBy_of_ownIncrement {act : Action R.derivation programId} {amount : UInt64}
    (h : act.ownIncrement u c = some amount) : act.signedBy u = true := by
  obtain ⟨user, counter, rest, data, rfl, -, hu, hs, -⟩ := ownIncrement_eq_some.mp h
  show (user.pubkey == u && user.isSigner) = true
  rw [hu, hs, beq_self_eq_true]
  rfl

end Requests

/-- The only account whose data or owner an action can change. -/
def Action.target : Action R.derivation programId → Option Pubkey
  | .call (_ :: counter :: _) _ => some counter.pubkey
  | .call _ _ => none
  | .transfer _ _ _ => none
  | .allocate address _ => some address
  | .elsewhere address _ => some address

/-! ## The effect of an action -/

/-- What an action can answer and what it can leave. -/
inductive Effect (R : Runtime) (programId : Pubkey) (L : Ledger) :
    Action R.derivation programId → Answer → Ledger → Prop where
  /-- Nothing, and then it was not a call that succeeded. -/
  | idle {act r} (failed : r ≠ .ok ()) : Effect R programId L act r L
  | initialised {user counter system : AccountMeta} {rest data bump rent}
    (decoded : CounterIx.decode data = some .initializeCounter)
    (ready : Ready R programId user.toInfo counter.toInfo system.toInfo bump rent L)
    (paid : Paid user.toInfo counter.toInfo (rent.minimumBalance counterLen) L) :
    Effect R programId L (.call (user :: counter :: system :: rest) data) (.ok ())
      (created programId user.pubkey counter.pubkey bump (rent.minimumBalance counterLen) L)
  | incremented {user counter : AccountMeta} {rest data amount}
    (decoded : CounterIx.decode data = some (.increment amount))
    (accepts : Accepts R programId user.toInfo counter.toInfo amount L) :
    Effect R programId L (.call (user :: counter :: rest) data) (.ok ())
      (CounterPda.incremented counter.pubkey amount L)
  | moved {source target amount L'} (moves : transferLamports source target amount L = .ok L') :
    Effect R programId L (.transfer source target amount) (.ok ()) L'
  | allocated {address space} (empty : (L address.1).data = [])
    (unowned : (L address.1).owner = systemProgramId) :
    Effect R programId L (.allocate address space) (.ok ())
      (Function.update L address
        { L address with data := List.replicate space 0, owner := programId })
  | elsewhere {address account} (before : (L address).owner ≠ programId)
    (after : account.owner ≠ programId) :
    Effect R programId L (.elsewhere address account) (.ok ()) (Function.update L address account)

theorem execute_of_ok {L L' : Ledger} {accounts : List AccountMeta} {data : Bytes} {b}
    (h : processInstruction R programId (accounts.map AccountMeta.toInfo) data (.ofLedger L)
      = (.ok (), ⟨L', b⟩)) : execute R programId L accounts data =
        if ReadonlyKept accounts L L' then (.ok (), L') else (.err .readonlyDataModified, L) := by
  unfold execute
  rw [h]

/-- Whoever changes only what is writable keeps the rest. -/
theorem readonlyKept_of_writable {L L' : Ledger} {accounts : List AccountMeta}
    (h : ∀ a, L' a ≠ L a → Writable accounts a) : ReadonlyKept accounts L L' := by
  intro m _ hm
  by_contra hc
  exact hm (h _ hc)

theorem execute_of_not_ok {L : Ledger} {accounts : List AccountMeta} {data : Bytes} {r m}
    (h : processInstruction R programId (accounts.map AccountMeta.toInfo) data (.ofLedger L)
      = (r, m)) (hr : r ≠ .ok ()) : execute R programId L accounts data = (r, L) := by
  unfold execute
  rw [h]
  cases r with
  | ok _ => exact absurd rfl hr
  | err e => rfl
  | panicked => rfl

/-- What is reverted after all has done nothing. -/
theorem Effect.unlessReverted {L L' : Ledger} {act : Action R.derivation programId} {φ : Prop}
    [Decidable φ] (h : Effect R programId L act (.ok ()) L') :
    Effect R programId L act
      (if φ then (.ok (), L') else (.err .readonlyDataModified, L) : Answer × Ledger).1
      (if φ then (.ok (), L') else (.err .readonlyDataModified, L) : Answer × Ledger).2 := by
  split
  · exact h
  · exact .idle nofun

theorem execute_effect (hR : R.Lawful) (L : Ledger) (accounts : List AccountMeta) (data : Bytes) :
    Effect R programId L (.call accounts data) (execute R programId L accounts data).1
      (execute R programId L accounts data).2 := by
  have hm := Memory.unborrowed_ofLedger L
  by_cases hdata : data.head? = some 0
  -- the handles are those of the account list, so they are named after its entries
  · have hdec : CounterIx.decode data = some .initializeCounter := if_pos hdata
    have heq : processInstruction R programId (accounts.map AccountMeta.toInfo) data (.ofLedger L)
        = initializeCounter R programId (accounts.map AccountMeta.toInfo) (.ofLedger L) := by
      rw [processInstruction_eq, hdec]
    rcases initializeCounter_cases hR programId (accounts.map AccountMeta.toInfo) hm
      with ⟨_, _, _, _, bump, rent, hacc, hready, hpaid, hr⟩ | ⟨r, hr, hne⟩
    · obtain ⟨user, _, rfl, rfl, hacc₁⟩ := List.map_eq_cons_iff.mp hacc
      obtain ⟨counter, _, rfl, rfl, hacc₂⟩ := List.map_eq_cons_iff.mp hacc₁
      obtain ⟨system, rest, rfl, rfl, -⟩ := List.map_eq_cons_iff.mp hacc₂
      rw [execute_of_ok (heq.trans hr)]
      exact .unlessReverted (.initialised hdec hready hpaid)
    · rw [execute_of_not_ok (heq.trans hr) hne]
      exact .idle hne
  · rcases processInstruction_cases R programId (accounts.map AccountMeta.toInfo) hm hdata
      with ⟨_, _, bump, h, hr⟩ | ⟨-, e, hr⟩
    · obtain ⟨_, hacc⟩ := h.accounts
      obtain ⟨user, _, rfl, rfl, hacc₁⟩ := List.map_eq_cons_iff.mp hacc
      obtain ⟨counter, rest, rfl, rfl, -⟩ := List.map_eq_cons_iff.mp hacc₁
      rw [execute_of_ok hr]
      exact .unlessReverted (.incremented h.decode h.accepts)
    · have hne : (.err e : Answer) ≠ .ok () := nofun
      rw [execute_of_not_ok hr hne]
      exact .idle hne

/-- **What an action can do.** -/
theorem step_effect (hR : R.Lawful) (L : Ledger) (act : Action R.derivation programId) :
    Effect R programId L act (step R programId L act).1 (step R programId L act).2 := by
  cases act with
  | call accounts data => exact execute_effect hR L accounts data
  | transfer source target amount =>
    rcases h : transferLamports source target amount L with e | L'
    · have hs : step R programId L (.transfer source target amount) = (.err e, L) := by
        simp only [step, h]
      have hne : (.err e : Answer) ≠ .ok () := nofun
      rw [hs]
      exact .idle hne
    · have hs : step R programId L (.transfer source target amount) = (.ok (), L') := by
        simp only [step, h]
      rw [hs]
      exact .moved h
  | allocate address space =>
    by_cases h : (L address).data = [] ∧ (L address).owner = systemProgramId
    · have hs : step R programId L (.allocate address space) = (.ok (), _) := if_pos h
      rw [hs]
      exact .allocated h.1 h.2
    · have hs : step R programId L (.allocate address space) = (.err .illegalOwner, L) := if_neg h
      have hne : (.err .illegalOwner : Answer) ≠ .ok () := nofun
      rw [hs]
      exact .idle hne
  | elsewhere address account =>
    by_cases h : (L address).owner ≠ programId ∧ account.owner ≠ programId
    · have hs : step R programId L (.elsewhere address account) = (.ok (), _) := if_pos h
      rw [hs]
      exact .elsewhere h.1 h.2
    · have hs : step R programId L (.elsewhere address account) = (.err .illegalOwner, L) :=
        if_neg h
      have hne : (.err .illegalOwner : Answer) ≠ .ok () := nofun
      rw [hs]
      exact .idle hne

/-- **The frame.** What is not the target keeps its data and its owner. -/
theorem Effect.frame {L L' : Ledger} {act : Action R.derivation programId} {r : Answer}
    (h : Effect R programId L act r L') {a : Pubkey} (ha : act.target ≠ some a) :
    (L' a).data = (L a).data ∧ (L' a).owner = (L a).owner := by
  cases h with
  | idle => exact ⟨rfl, rfl⟩
  | initialised =>
    have hne : a ≠ _ := fun hc => ha (congrArg some hc.symm)
    exact created_data_owner hne
  | incremented =>
    have hne : a ≠ _ := fun hc => ha (congrArg some hc.symm)
    rw [incremented_of_ne hne]
    exact ⟨rfl, rfl⟩
  | moved moves => exact transferLamports_data_owner moves
  | allocated =>
    have hne : a ≠ _ := fun hc => ha (congrArg some hc.symm)
    rw [Function.update_of_ne hne]
    exact ⟨rfl, rfl⟩
  | elsewhere =>
    have hne : a ≠ _ := fun hc => ha (congrArg some hc.symm)
    rw [Function.update_of_ne hne]
    exact ⟨rfl, rfl⟩

/-- The same, for an account that is known not to be the target. -/
theorem Effect.frame_of_ne {L L' : Ledger} {act : Action R.derivation programId} {r : Answer}
    (h : Effect R programId L act r L') {a : Pubkey} (ha : act.target = some a) (a' : Pubkey)
    (hne : a' ≠ a) : (L' a').data = (L a').data ∧ (L' a').owner = (L a').owner := by
  refine h.frame ?_
  rw [ha]
  exact fun hc => hne (Option.some.inj hc).symm

/-! ## Counters -/

/-- `a` is the counter of `u`, at the address derived for `u`, and has counted to `count`. -/
structure Holds (R : Runtime) (programId : Pubkey) (L : Ledger) (u a : Pubkey) (bump : UInt8)
    (count : UInt64) : Prop where
  derived : findProgramAddress R.derivation [seedPrefix, u.bytes] programId = some (a, bump)
  owner : (L a).owner = programId
  data : (L a).data = counterBytes count u bump

section Holds

variable {L L' : Ledger} {u u' a : Pubkey} {bump bump' : UInt8} {count count' : UInt64}

theorem Holds.congr (h : Holds R programId L u a bump count)
    (hs : (L' a).data = (L a).data ∧ (L' a).owner = (L a).owner) :
    Holds R programId L' u a bump count where
  derived := h.derived
  owner := hs.2.trans h.owner
  data := hs.1.trans h.data

theorem Holds.data_ne_nil (h : Holds R programId L u a bump count) : (L a).data ≠ [] := by
  rw [h.data]
  exact counterBytes_ne_nil

theorem Holds.isPda (h : Holds R programId L u a bump count) : IsPda R.derivation programId a :=
  findProgramAddress_isPda h.derived

/-- The bytes say whose counter it is. -/
theorem counterBytes_inj {bump bump' : UInt8}
    (h : counterBytes count u bump = counterBytes count' u' bump') :
    count = count' ∧ u = u' ∧ bump = bump' := by
  have hauth := congrArg (fun d => window d 8 40) h
  have hbump := congrArg (fun d => d[40]?) h
  have hcount := congrArg countOf h
  simp only [window_authority, getElem_bump, countOf_counterBytes, Option.some.injEq] at hauth hbump hcount
  exact ⟨hcount, Pubkey.bytes_inj.mp hauth, hbump⟩

theorem Holds.unique (h : Holds R programId L u a bump count)
    (h' : Holds R programId L u' a bump' count') : count = count' ∧ u = u' ∧ bump = bump' :=
  counterBytes_inj (h.data.symm.trans h'.data)

end Holds

end BootcampSolana.CounterPda
