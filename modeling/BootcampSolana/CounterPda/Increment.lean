import BootcampSolana.CounterPda.Program
import BootcampSolana.Solana.System

/-!
# What `increment` does

The source runs eight checks, the last of them while it holds the counter's buffer. Taken
together they are one condition on the accounts, `Accepts`, and `increment` is decided by it:

* `increment_of_accepts` — when it holds, the count goes up by the amount and nothing else moves
* `increment_of_not_accepts` — when it does not, the program returns an error, and the memory
  is the one it was given, borrow flags included

The index and the two `unwrap`s in the source cannot panic, because the length check comes
before them.
-/

namespace BootcampSolana.CounterPda

variable {R : Runtime} {programId : Pubkey} {user counter : AccountInfo} {amount : UInt64}

/-! ## The layout -/

/-- `count: u64 | authority: [u8; 32] | bump: u8`, as bytes. -/
def counterBytes (count : UInt64) (authority : Pubkey) (bump : UInt8) : Bytes :=
  U64.toLeBytes count ++ authority.bytes ++ [bump]

/-- The count stored in a buffer. -/
def countOf (d : Bytes) : UInt64 := U64.fromLeBytes (window d 0 8)

section Layout

variable {count count' : UInt64} {authority : Pubkey} {bump : UInt8} {d : Bytes}

@[simp] theorem length_counterBytes : (counterBytes count authority bump).length = counterLen := by
  simp [counterBytes, counterLen]

theorem counterBytes_ne_nil : counterBytes count authority bump ≠ [] := by
  intro h
  have hlen := congrArg List.length h
  rw [length_counterBytes] at hlen
  cases hlen

@[simp] theorem window_count : window (counterBytes count authority bump) 0 8
    = U64.toLeBytes count := by
  simp [window, counterBytes]

@[simp] theorem window_authority : window (counterBytes count authority bump) 8 40
    = authority.bytes := by
  simp [window, counterBytes]

@[simp] theorem getElem_bump : (counterBytes count authority bump)[40]? = some bump := by
  simp [counterBytes]

@[simp] theorem countOf_counterBytes : countOf (counterBytes count authority bump) = count := by
  rw [countOf, window_count, U64.fromLeBytes_toLeBytes]

/-- A buffer of the right length is the counter that its fields spell. -/
theorem eq_counterBytes (hlen : d.length = counterLen) (hauth : window d 8 40 = authority.bytes)
    (hbump : d[40]? = some bump) : d = counterBytes (countOf d) authority bump := by
  have hlen' : d.length = 41 := hlen
  have h0 : (window d 0 8).length = 8 := length_window (by omega)
  have hsplit : d = window d 0 8 ++ window d 8 40 ++ d.drop 40 := by
    have h1 : d.drop 40 = (d.drop 8).drop 32 := by rw [List.drop_drop]
    rw [h1, List.append_assoc]
    simp only [window, List.drop_zero, Nat.sub_zero]
    rw [List.take_append_drop, List.take_append_drop]
  have hlast : d.drop 40 = [bump] := by
    rw [List.drop_eq_getElem_cons (by omega)]
    rw [List.getElem?_eq_getElem (by omega)] at hbump
    rw [Option.some.inj hbump, List.drop_eq_nil_of_le (by omega)]
  calc d = window d 0 8 ++ window d 8 40 ++ d.drop 40 := hsplit
    _ = counterBytes (countOf d) authority bump := by
      rw [hauth, hlast, counterBytes, countOf, U64.toLeBytes_fromLeBytes h0]

theorem copied_counterBytes : copied (counterBytes count authority bump) 0 8 (U64.toLeBytes count')
    = counterBytes count' authority bump := by
  simp [copied, counterBytes]

end Layout

/-! ## The condition -/

/-- What `increment` asks of the accounts it is given. -/
structure InOrder (R : Runtime) (programId : Pubkey) (user counter : AccountInfo) (L : Ledger) :
    Prop where
  signed : user.isSigner = true
  owned : (L counter.key).owner = programId
  length : (L counter.key).data.length = counterLen
  authority : window (L counter.key).data 8 40 = user.key.bytes
  derived : ∃ bump, (L counter.key).data[40]? = some bump ∧
    createProgramAddress R.derivation [seedPrefix, user.key.bytes, [bump]] programId
      = .ok counter.key

/-- The same, and there is room for the amount. -/
structure Accepts (R : Runtime) (programId : Pubkey) (user counter : AccountInfo) (amount : UInt64)
    (L : Ledger) : Prop extends InOrder R programId user counter L where
  fits : (countOf (L counter.key).data).toNat + amount.toNat < 2 ^ 64

/-- The ledger after an accepted increment: eight bytes of one buffer have changed. -/
def incremented (counter : Pubkey) (amount : UInt64) (L : Ledger) : Ledger :=
  Function.update L counter
    { L counter with
      data := copied (L counter).data 0 8 (U64.toLeBytes (countOf (L counter).data + amount)) }

theorem incremented_of_ne {c a : Pubkey} {L : Ledger} (h : a ≠ c) :
    incremented c amount L a = L a := Function.update_of_ne h _ _

/-! ## With the buffer held -/

variable {m : Memory} {bump : UInt8}

/--
The second half of `increment` on a buffer of the right length. The reads all succeed, so
what is left is the authority check, the derivation, the comparison and the sum.
-/
theorem incrementData_eq (hl : (m.accounts counter.key).data.length = counterLen)
    (hbump : (m.accounts counter.key).data[40]? = some bump) :
    incrementData R programId user counter amount m =
      if window (m.accounts counter.key).data 8 40 = user.key.bytes then
        match createProgramAddress R.derivation [seedPrefix, user.key.bytes, [bump]] programId with
        | .error e => (.err (.ofPubkeyError e), m)
        | .ok expected =>
          if expected = counter.key then
            if (countOf (m.accounts counter.key).data).toNat + amount.toNat < 2 ^ 64 then
              (.ok (), { m with accounts := incremented counter.key amount m.accounts })
            else (.err .arithmeticOverflow, m)
          else (.err .invalidSeeds, m)
      else (.err .invalidAccountOwner, m) := by
  have hlen : (m.accounts counter.key).data.length = 41 := hl
  -- 41 bytes are enough for every read
  have hs1 : (slice (m.accounts counter.key).data 8 40 : Outcome ProgramError Bytes)
      = .ok (window (m.accounts counter.key).data 8 40) := slice_eq_ok (by omega) (by omega)
  have hs2 : (slice (m.accounts counter.key).data 0 8 : Outcome ProgramError Bytes)
      = .ok (window (m.accounts counter.key).data 0 8) := slice_eq_ok (by omega) (by omega)
  have hw : (window (m.accounts counter.key).data 8 40).length = 32 := length_window (by omega)
  have hword : tryIntoArray 8 (window (m.accounts counter.key).data 0 8)
      = some (window (m.accounts counter.key).data 0 8) := if_pos (length_window (by omega))
  have hkey : ((Pubkey.mk _ hw == user.key) = true)
      ↔ window (m.accounts counter.key).data 8 40 = user.key.bytes := by
    rw [beq_iff_eq, ← Pubkey.bytes_inj]
  simp only [incrementData, AccountInfo.data_apply, Prog.bind_apply, Prog.lift_apply, hs1,
    index_eq_ok hbump, Pubkey.tryFrom_eq_some hw, Outcome.okOr]
  by_cases ha : window (m.accounts counter.key).data 8 40 = user.key.bytes
  · rw [if_pos ha, hkey.mpr ha]
    simp only [Prog.ensure_true]
    cases createProgramAddress R.derivation [seedPrefix, user.key.bytes, [bump]] programId with
    | error e => rfl
    | ok expected =>
      by_cases hx : expected = counter.key
      · have hx' : (expected == counter.key) = true := by simpa using hx
        simp only [if_pos hx, hx', Prog.ensure_true, hs2, hword, Outcome.unwrap]
        by_cases hfit : (countOf (m.accounts counter.key).data).toNat + amount.toNat < 2 ^ 64
        · have hadd : U64.checkedAdd (U64.fromLeBytes (window (m.accounts counter.key).data 0 8))
              amount = some (countOf (m.accounts counter.key).data + amount) := if_pos hfit
          rw [if_pos hfit]
          simp only [hadd]
          exact AccountInfo.copyFromSlice_apply (by omega) (by omega) (by simp)
        · have hadd : U64.checkedAdd (U64.fromLeBytes (window (m.accounts counter.key).data 0 8))
              amount = none := if_neg hfit
          rw [if_neg hfit]
          simp only [hadd]
      · have hx' : (expected == counter.key) = false := by simpa using hx
        simp only [if_neg hx, hx', Prog.ensure_false]
  · have hk : (Pubkey.mk _ hw == user.key) = false := by
      rw [Bool.eq_false_iff]; exact fun hc => ha (hkey.mp hc)
    simp only [if_neg ha, hk, Prog.ensure_false]

/-! ## The whole of `increment` -/

variable (rest : List AccountInfo)

/-- Up to the borrow: the checks on the handles, and then the buffer, which is given back. -/
theorem increment_eq (hm : m.Unborrowed) :
    increment R programId (user :: counter :: rest) amount m =
      if user.isSigner = true then
        if (m.accounts counter.key).owner = programId then
          if (m.accounts counter.key).data.length = counterLen then
            match incrementData R programId user counter amount
              (m.setBorrow counter.key .exclusive) with
            | (r, m') => (r, m'.setBorrow counter.key .free)
          else (.err .invalidAccountData, m)
        else (.err .illegalOwner, m)
      else (.err .missingRequiredSignature, m) := by
  have hfree := hm counter.key
  simp only [increment, nextAccountInfo, Prog.bind_apply, Prog.pure_apply]
  by_cases hs : user.isSigner = true
  · rw [if_pos hs]
    simp only [hs, Prog.ensure_true, AccountInfo.owner_apply]
    by_cases ho : (m.accounts counter.key).owner = programId
    · have ho' : ((m.accounts counter.key).owner == programId) = true := by simpa using ho
      rw [if_pos ho]
      simp only [ho', Prog.ensure_true, AccountInfo.dataLen_apply hfree]
      by_cases hl : (m.accounts counter.key).data.length = counterLen
      · have hl' : ((m.accounts counter.key).data.length == counterLen) = true := by simpa using hl
        rw [if_pos hl]
        simp only [hl', Prog.ensure_true, AccountInfo.tryBorrowMutData_apply hfree]
      · have hl' : ((m.accounts counter.key).data.length == counterLen) = false := by
          simpa using hl
        rw [if_neg hl]
        simp only [hl', Prog.ensure_false]
    · have ho' : ((m.accounts counter.key).owner == programId) = false := by simpa using ho
      rw [if_neg ho]
      simp only [ho', Prog.ensure_false]
  · have hs' : user.isSigner = false := by simpa using hs
    rw [if_neg hs]
    simp only [hs', Prog.ensure_false]

/-- Past the checks on the handles, `increment` is its second half: the buffer it takes it gives
back, so only the accounts can differ. -/
theorem increment_held {r : Outcome ProgramError Unit} {L : Ledger} (hm : m.Unborrowed)
    (hs : user.isSigner = true) (ho : (m.accounts counter.key).owner = programId)
    (hl : (m.accounts counter.key).data.length = counterLen)
    (h : incrementData R programId user counter amount (m.setBorrow counter.key .exclusive)
      = (r, { m.setBorrow counter.key .exclusive with accounts := L })) :
    increment R programId (user :: counter :: rest) amount m = (r, { m with accounts := L }) := by
  have hback := congrArg Memory.borrows (Memory.setBorrow_release (hm counter.key) .exclusive)
  rw [increment_eq rest hm, if_pos hs, if_pos ho, if_pos hl, h]
  exact congrArg (fun b => (r, Memory.mk L b)) hback

theorem exists_bump {d : Bytes} (h : d.length = counterLen) : ∃ b, d[40]? = some b :=
  ⟨_, List.getElem?_eq_getElem (by rw [h]; decide)⟩

/-- **An accepted increment** adds the amount and returns `Ok`. -/
theorem increment_of_accepts (hm : m.Unborrowed)
    (h : Accepts R programId user counter amount m.accounts) :
    increment R programId (user :: counter :: rest) amount m =
      (.ok (), { m with accounts := incremented counter.key amount m.accounts }) := by
  obtain ⟨bump, hbump, hd⟩ := h.derived
  refine increment_held rest hm h.signed h.owned h.length ?_
  rw [incrementData_eq (m := m.setBorrow counter.key .exclusive) h.length hbump]
  simp only [if_pos h.authority, hd, if_true]
  rw [if_pos h.fits]

/-- The error of a counter that is in order but too full is `ArithmeticOverflow`. -/
theorem increment_of_overflow (hm : m.Unborrowed)
    (h : InOrder R programId user counter m.accounts)
    (hfit : ¬ (countOf (m.accounts counter.key).data).toNat + amount.toNat < 2 ^ 64) :
    increment R programId (user :: counter :: rest) amount m = (.err .arithmeticOverflow, m) := by
  obtain ⟨bump, hbump, hd⟩ := h.derived
  refine increment_held rest (L := m.accounts) hm h.signed h.owned h.length ?_
  rw [incrementData_eq (m := m.setBorrow counter.key .exclusive) h.length hbump]
  simp only [if_pos h.authority, hd, if_true]
  rw [if_neg hfit]

/-- **A rejected increment** returns an error and leaves the memory as it was. -/
theorem increment_of_not_accepts (hm : m.Unborrowed)
    (h : ¬ Accepts R programId user counter amount m.accounts) :
    ∃ e, increment R programId (user :: counter :: rest) amount m = (.err e, m) := by
  by_cases hs : user.isSigner = true
  swap
  · exact ⟨_, by rw [increment_eq rest hm, if_neg hs]⟩
  by_cases ho : (m.accounts counter.key).owner = programId
  swap
  · exact ⟨_, by rw [increment_eq rest hm, if_pos hs, if_neg ho]⟩
  by_cases hl : (m.accounts counter.key).data.length = counterLen
  swap
  · exact ⟨_, by rw [increment_eq rest hm, if_pos hs, if_pos ho, if_neg hl]⟩
  -- the checks on the handles pass, so it is one of the four with the buffer held
  obtain ⟨bump, hbump⟩ := exists_bump hl
  suffices hE : ∃ e, incrementData R programId user counter amount
      (m.setBorrow counter.key .exclusive) = (.err e, m.setBorrow counter.key .exclusive) by
    obtain ⟨e, he⟩ := hE
    exact ⟨e, increment_held rest (L := m.accounts) hm hs ho hl he⟩
  rw [incrementData_eq (m := m.setBorrow counter.key .exclusive) hl hbump]
  split
  · next ha =>
    split
    · exact ⟨_, rfl⟩
    · next expected hd =>
      split
      · next hx =>
        split
        · next hfit => exact absurd ⟨⟨hs, ho, hl, ha, ⟨bump, hbump, hx ▸ hd⟩⟩, hfit⟩ h
        · exact ⟨_, rfl⟩
      · exact ⟨_, rfl⟩
  · exact ⟨_, rfl⟩

/-! ## Through `process_instruction` -/

variable {accounts : List AccountInfo} {data : Bytes}

/--
When an instruction whose data does not start with 0 succeeds, in terms of the bytes of the
instruction and of the accounts alone.
-/
structure IncrementSucceeds (R : Runtime) (programId : Pubkey) (accounts : List AccountInfo)
    (data : Bytes) (L : Ledger) (user counter : AccountInfo) (bump : UInt8) : Prop where
  tag : data.head? = some 1
  operand : 9 ≤ data.length
  accounts : ∃ rest, accounts = user :: counter :: rest
  signed : user.isSigner = true
  owned : (L counter.key).owner = programId
  length : (L counter.key).data.length = 41
  authority : window (L counter.key).data 8 40 = user.key.bytes
  stored : (L counter.key).data[40]? = some bump
  derived : createProgramAddress R.derivation [seedPrefix, user.key.bytes, [bump]] programId
    = .ok counter.key
  fits : LittleEndian.decode (window (L counter.key).data 0 8)
    + LittleEndian.decode (window data 1 9) < 2 ^ 64

/-- The count and the operand, read as the source reads them, are the numbers in the bytes. -/
theorem toNat_countOf {d : Bytes} (h : d.length = counterLen) :
    (countOf d).toNat = LittleEndian.decode (window d 0 8) :=
  U64.toNat_fromLeBytes (length_window (by rw [h]; decide))

theorem toNat_operand (h : 9 ≤ data.length) : (U64.fromLeBytes (window data 1 9)).toNat
    = LittleEndian.decode (window data 1 9) :=
  U64.toNat_fromLeBytes (length_window h)

theorem IncrementSucceeds.decode (h : IncrementSucceeds R programId accounts data m.accounts user
    counter bump) : CounterIx.decode data
      = some (.increment (U64.fromLeBytes (window data 1 9))) := by
  rw [CounterIx.decode, if_neg (by rw [h.tag]; decide), if_pos ⟨h.tag, h.operand⟩]

theorem IncrementSucceeds.accepts (h : IncrementSucceeds R programId accounts data m.accounts user
    counter bump) :
    Accepts R programId user counter (U64.fromLeBytes (window data 1 9)) m.accounts where
  signed := h.signed
  owned := h.owned
  length := h.length
  authority := h.authority
  derived := ⟨bump, h.stored, h.derived⟩
  fits := by rw [toNat_countOf h.length, toNat_operand h.operand]; exact h.fits

theorem Accepts.increments (rest : List AccountInfo)
    (h : Accepts R programId user counter (U64.fromLeBytes (window data 1 9)) m.accounts)
    (htag : data.head? = some 1) (hlen : 9 ≤ data.length) :
    ∃ bump, IncrementSucceeds R programId (user :: counter :: rest) data m.accounts user counter
      bump := by
  obtain ⟨bump, hbump, hd⟩ := h.derived
  have hfit := h.fits
  rw [toNat_countOf h.length, toNat_operand hlen] at hfit
  exact ⟨bump, htag, hlen, ⟨rest, rfl⟩, h.signed, h.owned, h.length, h.authority, hbump, hd, hfit⟩

/-- The eight bytes an accepted increment writes spell the sum. -/
theorem incremented_eq (hl : (m.accounts counter.key).data.length = counterLen)
    (hfit : (countOf (m.accounts counter.key).data).toNat + amount.toNat < 2 ^ 64) :
    incremented counter.key amount m.accounts =
      Function.update m.accounts counter.key
        { m.accounts counter.key with
          data := LittleEndian.encode 8
            (LittleEndian.decode (window (m.accounts counter.key).data 0 8) + amount.toNat)
            ++ (m.accounts counter.key).data.drop 8 } := by
  have hsum : (countOf (m.accounts counter.key).data + amount).toNat
      = LittleEndian.decode (window (m.accounts counter.key).data 0 8) + amount.toNat := by
    rw [UInt64.toNat_add, Nat.mod_eq_of_lt hfit, toNat_countOf hl]
  rw [incremented, copied, U64.toLeBytes, hsum, List.take_zero, List.nil_append]

/-- An instruction that does not start with 0 either runs `increment` or fails at once. -/
theorem processInstruction_cases (R : Runtime) (programId : Pubkey) (accounts : List AccountInfo)
    (hm : m.Unborrowed) (hdata : data.head? ≠ some 0) :
    (∃ user counter bump, IncrementSucceeds R programId accounts data m.accounts user counter bump ∧
      processInstruction R programId accounts data m =
        (.ok (), { m with
          accounts := incremented counter.key (U64.fromLeBytes (window data 1 9)) m.accounts })) ∨
    ((¬ ∃ user counter bump,
      IncrementSucceeds R programId accounts data m.accounts user counter bump) ∧
      ∃ e, processInstruction R programId accounts data m = (.err e, m)) := by
  rw [processInstruction_eq]
  by_cases hix : data.head? = some 1 ∧ 9 ≤ data.length
  · have hdec : CounterIx.decode data = some (.increment (U64.fromLeBytes (window data 1 9))) := by
      rw [CounterIx.decode, if_neg hdata, if_pos hix]
    rw [hdec]
    rcases accounts with _ | ⟨user, _ | ⟨counter, rest⟩⟩
    -- `next_account_info` fails on fewer than two accounts
    · refine Or.inr ⟨?_, _, rfl⟩
      rintro ⟨_, _, _, h⟩
      obtain ⟨_, hc⟩ := h.accounts
      cases hc
    · refine Or.inr ⟨?_, _, rfl⟩
      rintro ⟨_, _, _, h⟩
      obtain ⟨_, hc⟩ := h.accounts
      cases hc
    · by_cases hacc : Accepts R programId user counter (U64.fromLeBytes (window data 1 9)) m.accounts
      · obtain ⟨bump, h⟩ := hacc.increments rest hix.1 hix.2
        exact Or.inl ⟨user, counter, bump, h, increment_of_accepts rest hm hacc⟩
      · obtain ⟨e, he⟩ := increment_of_not_accepts rest hm hacc
        refine Or.inr ⟨?_, e, he⟩
        rintro ⟨_, _, _, h⟩
        obtain ⟨_, hc⟩ := h.accounts
        cases hc
        exact hacc h.accepts
  · have hdec : CounterIx.decode data = none := by
      rw [CounterIx.decode, if_neg hdata, if_neg hix]
    rw [hdec]
    refine Or.inr ⟨?_, _, rfl⟩
    rintro ⟨_, _, _, h⟩
    exact hix ⟨h.tag, h.operand⟩

/--
**The increment path.** An instruction whose data does not start with 0 never panics, succeeds
exactly under `IncrementSucceeds`, writes the little-endian sum over the first eight bytes of
the counter and nothing else, and when it fails leaves every byte as it was.
-/
theorem processInstruction_increment (R : Runtime) (programId : Pubkey)
    (accounts : List AccountInfo) (data : Bytes) (hm : m.Unborrowed) (hdata : data.head? ≠ some 0) :
    (processInstruction R programId accounts data m).1 ≠ .panicked ∧
    ((processInstruction R programId accounts data m).1 = .ok () ↔
      ∃ user counter bump,
        IncrementSucceeds R programId accounts data m.accounts user counter bump) ∧
    (∀ user counter bump,
      IncrementSucceeds R programId accounts data m.accounts user counter bump →
      (processInstruction R programId accounts data m).2 =
        { m with
          accounts := Function.update m.accounts counter.key
            { m.accounts counter.key with
              data := LittleEndian.encode 8
                (LittleEndian.decode (window (m.accounts counter.key).data 0 8)
                  + LittleEndian.decode (window data 1 9))
                ++ (m.accounts counter.key).data.drop 8 } }) ∧
    (∀ e, (processInstruction R programId accounts data m).1 = .err e →
      (processInstruction R programId accounts data m).2 = m) := by
  rcases processInstruction_cases R programId accounts hm hdata
    with ⟨user, counter, bump, h, hr⟩ | ⟨hno, e, hr⟩
  · rw [hr]
    refine ⟨by simp, ⟨fun _ => ⟨user, counter, bump, h⟩, fun _ => rfl⟩, ?_, by simp⟩
    intro user' counter' bump' h'
    -- the account list fixes the two handles
    obtain ⟨rest, hacc⟩ := h.accounts
    obtain ⟨rest', hacc'⟩ := h'.accounts
    rw [hacc] at hacc'
    cases hacc'
    rw [incremented_eq h.length h.accepts.fits, toNat_operand h.operand]
  · rw [hr]
    refine ⟨by simp, ⟨nofun, fun hc => absurd hc hno⟩, ?_, fun _ _ => rfl⟩
    exact fun user counter bump h => absurd ⟨user, counter, bump, h⟩ hno

/-- A ledger on which `alice` has counted to 5. -/
def fiveLedger : Ledger :=
  Function.update sampleLedger aliceCounter
    { lamports := 1176240, data := counterBytes 5 alice 255, owner := sampleProgram }

/-- `alice` adds 37 to it. -/
theorem processInstruction_increment_five :
    (processInstruction sampleRuntime sampleProgram
      [⟨alice, true, true⟩, ⟨aliceCounter, false, true⟩] (1 :: U64.toLeBytes 37)
      (.ofLedger fiveLedger)).1 = .ok () := by
  have h := processInstruction_increment sampleRuntime sampleProgram
    [⟨alice, true, true⟩, ⟨aliceCounter, false, true⟩] (1 :: U64.toLeBytes 37)
    (Memory.unborrowed_ofLedger fiveLedger) (by decide)
  refine h.2.1.mpr ⟨⟨alice, true, true⟩, ⟨aliceCounter, false, true⟩, 255, ?_⟩
  exact ⟨rfl, by decide, ⟨[], rfl⟩, rfl, by decide, by decide, by decide, by decide, by decide,
    by decide⟩

end BootcampSolana.CounterPda
