import Mathlib.Data.List.Dedup
import Mathlib.Data.List.Sort
import BootcampSolana.TransactionLifecycle.Message

/-!
# From instructions to a message and back to the screen

`main` of `04-transaction-lifecycle/src/main.rs` hands its instructions to
`Message::new_with_blockhash` and the message to `dissect`. Instructions carry flags for every
account they name. The message has each account once, with all that any instruction asks of it,
and the flags turn into positions.

* `Compiled` — what the message is, as the crate documents it
* `dissect_compiled` — what was asked for is what is shown
* `compiled_compile` — a message that is what it should be
* `transfer_note` — when the transfer of `main` has four accounts
-/

namespace BootcampSolana.TransactionLifecycle

open Printed

/-! ## What the instructions ask for -/

/-- The accounts of an instruction, and its program, which is only called. -/
def metas (ix : Instruction) : List AccountMeta := ⟨ix.programId, false, false⟩ :: ix.accounts

/-- Everything a transaction asks for. The payer signs and is charged. -/
def requests (payer : Pubkey) (ixs : List Instruction) : List AccountMeta :=
  .new payer true :: ixs.flatMap metas

/-- Somebody asks for a signature of the key. -/
def signs (asked : List AccountMeta) (key : Pubkey) : Bool :=
  asked.any fun a => a.pubkey == key && a.isSigner

def writes (asked : List AccountMeta) (key : Pubkey) : Bool :=
  asked.any fun a => a.pubkey == key && a.isWritable

/-- A compiled instruction stands for `ix` in a message with these keys. -/
structure StandsFor (keys : List Pubkey) (ix : Instruction) (c : CompiledInstruction) : Prop where
  program : keys[c.programIdIndex.toNat]? = some ix.programId
  accounts : c.accounts.map (fun i => keys[i.toNat]?) = ix.accounts.map fun a => some a.pubkey
  data : c.data = ix.data

/--
What `Message::new_with_blockhash` makes of instructions and a payer: every key once, in four
sections by what is asked of it, the payer in front, and instructions that point at the keys. An
index is a byte, so this takes 256 keys at most.
-/
structure Compiled (payer : Pubkey) (ixs : List Instruction) (m : Message)
    (ws rs wu ru : List Pubkey) : Prop where
  laidOut : LaidOut m ws rs wu ru
  writableSigner : ∀ k ∈ ws,
    signs (requests payer ixs) k = true ∧ writes (requests payer ixs) k = true
  readonlySigner : ∀ k ∈ rs,
    signs (requests payer ixs) k = true ∧ writes (requests payer ixs) k = false
  writableUnsigned : ∀ k ∈ wu, signs (requests payer ixs) k = false ∧
    writes (requests payer ixs) k = true
  readonlyUnsigned : ∀ k ∈ ru, signs (requests payer ixs) k = false ∧
    writes (requests payer ixs) k = false
  keys : ∀ k, k ∈ m.accountKeys ↔ k ∈ (requests payer ixs).map AccountMeta.pubkey
  nodup : m.accountKeys.Nodup
  payer : m.accountKeys.head? = some payer
  instructions : List.Forall₂ (StandsFor m.accountKeys) ixs m.instructions

variable {ε : Type} {payer key : Pubkey} {ixs : List Instruction} {m : Message} {tx : Transaction}
  {ws rs wu ru : List Pubkey} {i j : Nat}

/-! ## What is shown -/

/-- In two parts that a test tells apart, the index says what the test says. -/
theorem lt_length_iff {α : Type} {xs ys : List α} {x : α} {p : α → Bool}
    (hxs : ∀ y ∈ xs, p y = true) (hys : ∀ y ∈ ys, p y = false) (h : (xs ++ ys)[i]? = some x) :
    i < xs.length ↔ p x = true := by
  by_cases hi : i < xs.length
  · rw [List.getElem?_append_left hi] at h
    simp [hi, hxs x (List.mem_of_getElem? h)]
  · rw [List.getElem?_append_right (by omega)] at h
    simp [hi, hys x (List.mem_of_getElem? h)]

/-- The position of a key says whether it has been asked to sign. -/
theorem Compiled.signer_iff (h : Compiled payer ixs m ws rs wu ru)
    (hk : (ws ++ rs ++ wu ++ ru)[i]? = some key) :
    i < (ws ++ rs).length ↔ signs (requests payer ixs) key = true := by
  rw [List.append_assoc (ws ++ rs)] at hk
  refine lt_length_iff ?_ ?_ hk
  · intro k hk
    rcases List.mem_append.mp hk with hk | hk
    · exact (h.writableSigner k hk).1
    · exact (h.readonlySigner k hk).1
  · intro k hk
    rcases List.mem_append.mp hk with hk | hk
    · exact (h.writableUnsigned k hk).1
    · exact (h.readonlyUnsigned k hk).1

/-- In either half it says whether it has been asked to change. -/
theorem Compiled.writable_iff (h : Compiled payer ixs m ws rs wu ru)
    (hk : (ws ++ rs ++ wu ++ ru)[i]? = some key) :
    (i < ws.length ∨ (ws ++ rs).length ≤ i ∧ i < (ws ++ rs ++ wu).length) ↔
      writes (requests payer ixs) key = true := by
  rw [List.append_assoc (ws ++ rs)] at hk
  simp only [List.length_append] at hk ⊢
  by_cases hi : i < (ws ++ rs).length
  · rw [List.getElem?_append_left hi] at hk
    rw [List.length_append] at hi
    rw [← lt_length_iff (fun k hk => (h.writableSigner k hk).2)
      (fun k hk => (h.readonlySigner k hk).2) hk]
    omega
  · rw [List.getElem?_append_right (by omega)] at hk
    rw [List.length_append] at hi hk
    rw [← lt_length_iff (fun k hk => (h.writableUnsigned k hk).2)
      (fun k hk => (h.readonlyUnsigned k hk).2) hk]
    omega

/-- The three lines of an instruction. -/
def shownInstruction (j : Nat) (key : Pubkey) (c : CompiledInstruction) : List MessageLine :=
  [.program j key c.programIdIndex, .accounts c.accounts, .data (hex c.data)]

/-- Of a message whose programs are among its keys, each instruction is shown by three lines. -/
theorem dissectInstructions_lines
    (h : ∀ c ∈ m.instructions, c.programIdIndex.toNat < m.accountKeys.length) :
    (dissectInstructions m : Printed MessageLine ε Unit) =
      ⟨(m.instructions.zipIdx 0).flatMap fun p => shownInstruction p.2
        ((m.accountKeys[p.1.programIdIndex.toNat]?).getD systemProgramId) p.1, .ok ()⟩ := by
  refine @forEnumerate_ok _ ε _ (instructionLines m.accountKeys) (fun i c => shownInstruction i
    ((m.accountKeys[c.programIdIndex.toNat]?).getD systemProgramId) c) _ _ fun i _ _ c hc => ?_
  have hkey := List.getElem?_eq_getElem (h c hc)
  rw [hkey]
  unfold instructionLines
  rw [indexVec_eq_ok hkey]
  rfl

theorem Compiled.program_lt (h : Compiled payer ixs m ws rs wu ru) {c : CompiledInstruction}
    (hc : c ∈ m.instructions) : c.programIdIndex.toNat < m.accountKeys.length := by
  obtain ⟨j, hj, rfl⟩ := List.mem_iff_getElem.mp hc
  have hlen := h.instructions.length_eq
  have hs := List.forall₂_iff_get.mp h.instructions |>.2 j (by omega) hj
  exact (List.getElem?_eq_some_iff.mp hs.program).1

theorem Compiled.getElem?_instructions (h : Compiled payer ixs m ws rs wu ru) {ix : Instruction}
    (hix : ixs[j]? = some ix) :
    ∃ c, m.instructions[j]? = some c ∧ StandsFor m.accountKeys ix c := by
  obtain ⟨hj, rfl⟩ := List.getElem?_eq_some_iff.mp hix
  have hlen := h.instructions.length_eq
  refine ⟨m.instructions[j], List.getElem?_eq_getElem (by omega), ?_⟩
  exact List.forall₂_iff_get.mp h.instructions |>.2 j hj (by omega)

/-- A part of what a loop prints is what one round prints. -/
theorem infix_flatMap {α β : Type} {f : α → List β} {xs : List α} {x : α} (h : x ∈ xs) :
    f x <:+: xs.flatMap f := by
  obtain ⟨before, after, rfl⟩ := List.append_of_mem h
  exact ⟨before.flatMap f, after.flatMap f, by simp⟩

/-- What an account's line says, in terms of what is asked for. -/
theorem Compiled.mem_dissect (h : Compiled payer ixs tx.message ws rs wu ru) {s w : String} :
    .account i key s w ∈ (dissect tx : Printed MessageLine ε Unit).lines ↔
      tx.message.accountKeys[i]? = some key ∧
      s = (if signs (requests payer ixs) key then "signer " else "       ") ∧
      w = (if writes (requests payer ixs) key then "writable" else "readonly") := by
  have hlines : .account i key s w ∈ (dissect tx : Printed MessageLine ε Unit).lines ↔
      .account i key s w ∈ permissionLines ws rs wu ru := by
    rw [dissect_eq h.laidOut]
    simp only [List.mem_append]
    constructor
    · rintro ((hmem | hmem) | hmem)
      · exact absurd hmem not_mem_headerLines
      · exact hmem
      · exact absurd hmem not_mem_dissectInstructions
    · exact fun hmem => Or.inl (Or.inr hmem)
  rw [hlines, mem_permissionLines, h.laidOut.accountKeys]
  refine and_congr_right fun hk => ?_
  rw [← if_congr (h.signer_iff hk) rfl rfl, ← if_congr (h.writable_iff hk) rfl rfl]

/--
**What was asked for is what is shown.** `dissect` ends well on a compiled message, which has 256
keys at most. It has one line for every account that an instruction or the fee involves, with the
permissions that they ask for together. Every instruction is shown with its program and its data,
and with indexes of the lines of its accounts, in their order.
-/
theorem dissect_compiled (h : Compiled payer ixs tx.message ws rs wu ru) :
    (dissect tx : Printed MessageLine ε Unit).result = .ok () ∧
    (∀ key signer writable,
      (∃ i, .account i key signer writable ∈ (dissect tx : Printed MessageLine ε Unit).lines) ↔
        key ∈ (requests payer ixs).map AccountMeta.pubkey ∧
        signer = (if signs (requests payer ixs) key then "signer " else "       ") ∧
        writable = (if writes (requests payer ixs) key then "writable" else "readonly")) ∧
    (∀ i j key s w s' w', .account i key s w ∈ (dissect tx : Printed MessageLine ε Unit).lines →
      .account j key s' w' ∈ (dissect tx : Printed MessageLine ε Unit).lines → i = j) ∧
    ∀ j ix, ixs[j]? = some ix → ∃ c, c.data = ix.data ∧
      shownInstruction j ix.programId c <:+: (dissect tx : Printed MessageLine ε Unit).lines ∧
      ∀ (p : Nat) (a : AccountMeta), ix.accounts[p]? = some a →
        ∃ (i : UInt8) (signer writable : String), c.accounts[p]? = some i ∧
          .account i.toNat a.pubkey signer writable
            ∈ (dissect tx : Printed MessageLine ε Unit).lines := by
  have hix := @dissectInstructions_lines ε tx.message fun c hc => h.program_lt hc
  refine ⟨?_, ?_, ?_, ?_⟩
  · rw [dissect_eq h.laidOut, hix]
  · intro key signer writable
    rw [← h.keys, List.mem_iff_getElem?]
    constructor
    · rintro ⟨i, hi⟩
      obtain ⟨hk, hs, hw⟩ := h.mem_dissect.mp hi
      exact ⟨⟨i, hk⟩, hs, hw⟩
    · rintro ⟨⟨i, hk⟩, hs, hw⟩
      exact ⟨i, h.mem_dissect.mpr ⟨hk, hs, hw⟩⟩
  · intro i j key s w s' w' hi hj
    have hi' := (h.mem_dissect.mp hi).1
    have hj' := (h.mem_dissect.mp hj).1
    obtain ⟨hlt, -⟩ := List.getElem?_eq_some_iff.mp hi'
    exact (List.getElem?_inj hlt h.nodup).mp (hi'.trans hj'.symm)
  · intro j ix hj
    obtain ⟨c, hc, hstands⟩ := h.getElem?_instructions hj
    refine ⟨c, hstands.data, ?_, ?_⟩
    · have hmem : (c, j) ∈ tx.message.instructions.zipIdx 0 :=
        List.mk_mem_zipIdx_iff_getElem?.mpr hc
      have hpart := infix_flatMap (f := fun p : CompiledInstruction × Nat => shownInstruction p.2
        ((tx.message.accountKeys[p.1.programIdIndex.toNat]?).getD systemProgramId) p.1) hmem
      rw [dissect_eq h.laidOut, hix]
      refine List.IsInfix.trans ?_ (List.suffix_append _ _).isInfix
      simpa [hstands.program] using hpart
    · intro p a hp
      have hget := congrArg (fun l => l[p]?) hstands.accounts
      simp only [List.getElem?_map, hp, Option.map_some, Option.map_eq_some_iff] at hget
      obtain ⟨i, hi, hk⟩ := hget
      exact ⟨i, _, _, hi, h.mem_dissect.mpr ⟨hk, rfl, rfl⟩⟩

/-! ## A message that is what it should be

`Message::new_with_blockhash` sorts the keys of each section by their bytes.
-/

/-- Keys in the order of their bytes, as one number each. -/
def sortKeys (keys : List Pubkey) : List Pubkey :=
  keys.mergeSort fun a b =>
    decide (LittleEndian.decode a.bytes.reverse ≤ LittleEndian.decode b.bytes.reverse)

/-- The keys of a transaction but for its payer. -/
def otherKeys (payer : Pubkey) (ixs : List Instruction) : List Pubkey :=
  sortKeys (((requests payer ixs).map AccountMeta.pubkey).dedup.erase payer)

/-- Those of whom a signature is asked or not, and which are to be changed or not. -/
def keySection (payer : Pubkey) (ixs : List Instruction) (signer writable : Bool) : List Pubkey :=
  ((otherKeys payer ixs).filter fun k => signs (requests payer ixs) k == signer).filter fun k =>
    writes (requests payer ixs) k == writable

def compiledKeys (payer : Pubkey) (ixs : List Instruction) : List Pubkey :=
  (payer :: keySection payer ixs true true) ++ keySection payer ixs true false ++
    keySection payer ixs false true ++ keySection payer ixs false false

/-- An instruction with indexes for its keys. -/
def compileInstruction (keys : List Pubkey) (ix : Instruction) : CompiledInstruction where
  programIdIndex := UInt8.ofNat (keys.idxOf ix.programId)
  accounts := ix.accounts.map fun a => UInt8.ofNat (keys.idxOf a.pubkey)
  data := ix.data

def compile (payer : Pubkey) (ixs : List Instruction) (blockhash : Hash) : Message where
  header :=
    { numRequiredSignatures := UInt8.ofNat
        ((keySection payer ixs true true).length + 1 + (keySection payer ixs true false).length)
      numReadonlySignedAccounts := UInt8.ofNat (keySection payer ixs true false).length
      numReadonlyUnsignedAccounts := UInt8.ofNat (keySection payer ixs false false).length }
  accountKeys := compiledKeys payer ixs
  recentBlockhash := blockhash
  instructions := ixs.map (compileInstruction (compiledKeys payer ixs))

theorem filter_true_append_false {α : Type} (p : α → Bool) (l : List α) :
    (l.filter (p · == true) ++ l.filter (p · == false)).Perm l := by
  simpa using List.filter_append_perm p l

/-- The sections have every key once. -/
theorem compiledKeys_perm (payer : Pubkey) (ixs : List Instruction) :
    (compiledKeys payer ixs).Perm (payer :: otherKeys payer ixs) := by
  have hs := filter_true_append_false (signs (requests payer ixs)) (otherKeys payer ixs)
  have ht := filter_true_append_false (writes (requests payer ixs))
    ((otherKeys payer ixs).filter fun k => signs (requests payer ixs) k == true)
  have hf := filter_true_append_false (writes (requests payer ixs))
    ((otherKeys payer ixs).filter fun k => signs (requests payer ixs) k == false)
  have h := (ht.append hf).trans hs
  rw [← List.append_assoc] at h
  exact h.cons payer

theorem otherKeys_perm (payer : Pubkey) (ixs : List Instruction) :
    (payer :: otherKeys payer ixs).Perm ((requests payer ixs).map AccountMeta.pubkey).dedup := by
  have hsort : (otherKeys payer ixs).Perm
      (((requests payer ixs).map AccountMeta.pubkey).dedup.erase payer) := List.mergeSort_perm _ _
  have hmem : payer ∈ ((requests payer ixs).map AccountMeta.pubkey).dedup :=
    List.mem_dedup.mpr List.mem_cons_self
  exact (hsort.cons payer).trans (List.perm_cons_erase hmem).symm

theorem mem_keySection {signer writable : Bool} (h : key ∈ keySection payer ixs signer writable) :
    signs (requests payer ixs) key = signer ∧ writes (requests payer ixs) key = writable := by
  simp only [keySection, List.mem_filter, beq_iff_eq] at h
  exact ⟨h.1.2, h.2⟩

theorem standsFor_compileInstruction {keys : List Pubkey} {ix : Instruction}
    (hkeys : keys.length ≤ 256) (hix : ∀ a ∈ metas ix, a.pubkey ∈ keys) :
    StandsFor keys ix (compileInstruction keys ix) := by
  have hget : ∀ k ∈ keys, keys[(UInt8.ofNat (keys.idxOf k)).toNat]? = some k := by
    intro k hk
    have hlt := List.idxOf_lt_length_iff.mpr hk
    rw [UInt8.toNat_ofNat', Nat.mod_eq_of_lt (by omega)]
    exact List.getElem?_idxOf hk
  refine ⟨hget _ (hix _ List.mem_cons_self), ?_, rfl⟩
  simp only [compileInstruction, List.map_map]
  exact List.map_congr_left fun a ha => hget _ (hix a (List.mem_cons_of_mem _ ha))

/-- **Compiling does what it should**, when the counts and the indexes fit into their bytes. -/
theorem compiled_compile (payer : Pubkey) (ixs : List Instruction) (blockhash : Hash)
    (h : (compiledKeys payer ixs).length ≤ 255) :
    Compiled payer ixs (compile payer ixs blockhash) (payer :: keySection payer ixs true true)
      (keySection payer ixs true false) (keySection payer ixs false true)
      (keySection payer ixs false false) where
  laidOut := by
    simp only [compiledKeys, List.length_append, List.length_cons] at h
    refine ⟨rfl, ?_, ?_, ?_⟩
    · exact UInt8.toNat_ofNat_of_lt (by simp [UInt8.size]; omega)
    · exact UInt8.toNat_ofNat_of_lt (by simp [UInt8.size]; omega)
    · exact UInt8.toNat_ofNat_of_lt (by simp [UInt8.size]; omega)
  writableSigner := by
    intro k hk
    rcases List.mem_cons.mp hk with rfl | hk
    · simp [signs, writes, requests, AccountMeta.new]
    · exact mem_keySection hk
  readonlySigner := fun k hk => mem_keySection hk
  writableUnsigned := fun k hk => mem_keySection hk
  readonlyUnsigned := fun k hk => mem_keySection hk
  keys := by
    intro k
    exact ((compiledKeys_perm payer ixs).trans (otherKeys_perm payer ixs)).mem_iff.trans
      List.mem_dedup
  nodup :=
    ((compiledKeys_perm payer ixs).trans (otherKeys_perm payer ixs)).nodup_iff.mpr
      (List.nodup_dedup _)
  payer := rfl
  instructions := by
    show List.Forall₂ _ ixs (ixs.map _)
    rw [List.forall₂_map_right_iff, List.forall₂_same]
    intro ix hix
    refine standsFor_compileInstruction (Nat.le_trans h (by decide)) fun a ha => ?_
    refine ((compiledKeys_perm payer ixs).trans (otherKeys_perm payer ixs)).mem_iff.mpr
      (List.mem_dedup.mpr (List.mem_map_of_mem ?_))
    exact List.mem_cons_of_mem _ (List.mem_flatMap.mpr ⟨ix, hix, ha⟩)

/-! ## The transfer of the exercise -/

/-- The instructions that `main` builds. -/
def transferIxs (payer recipient : Pubkey) : List Instruction :=
  [setCuLimit 10000, setCuPrice 1000, sysTransfer payer recipient 100000000]

/-- A list without repetition is as long as another with the same members, if that has none. -/
theorem length_eq_iff_nodup {α : Type} [DecidableEq α] {l l' : List α} (h : l.Nodup)
    (hmem : ∀ a, a ∈ l ↔ a ∈ l') : l.length = l'.length ↔ l'.Nodup := by
  have hperm : l.Perm l'.dedup := by
    refine (List.perm_ext_iff_of_nodup h (List.nodup_dedup _)).mpr fun a => ?_
    rw [hmem, List.mem_dedup]
  rw [hperm.length_eq, ← List.dedup_eq_self]
  exact ⟨fun hlen => (List.dedup_sublist l').eq_of_length hlen, fun heq => by rw [heq]⟩

/--
**Four distinct accounts.** The three instructions have the four accounts that `main` says, unless
two of payer, recipient and the two programs are the same.
-/
theorem transfer_note {recipient : Pubkey}
    (h : Compiled payer (transferIxs payer recipient) m ws rs wu ru) :
    m.accountKeys.length = 4 ↔
      [payer, recipient, pk SYSTEM isSome_system, pk COMPUTE_BUDGET isSome_computeBudget].Nodup := by
  show m.accountKeys.length = [payer, recipient, pk SYSTEM isSome_system,
    pk COMPUTE_BUDGET isSome_computeBudget].length ↔ _
  refine length_eq_iff_nodup h.nodup fun k => (h.keys k).trans ?_
  generalize hsys : pk SYSTEM isSome_system = system
  generalize hcb : pk COMPUTE_BUDGET isSome_computeBudget = budget
  simp only [requests, transferIxs, metas, setCuLimit, setCuPrice, sysTransfer, AccountMeta.new,
    hsys, hcb, List.flatMap_cons, List.flatMap_nil, List.map_cons, List.map_append, List.map_nil,
    List.mem_cons, List.mem_append, List.not_mem_nil, or_false]
  tauto

theorem length_compiledKeys_le (payer : Pubkey) (ixs : List Instruction) :
    (compiledKeys payer ixs).length ≤ (requests payer ixs).length := by
  have hperm := (compiledKeys_perm payer ixs).trans (otherKeys_perm payer ixs)
  rw [hperm.length_eq, ← List.length_map AccountMeta.pubkey]
  exact (List.dedup_sublist _).length_le

theorem compiled_transfer (payer recipient : Pubkey) (blockhash : Hash) :
    ∃ ws rs wu ru, Compiled payer (transferIxs payer recipient)
      (compile payer (transferIxs payer recipient) blockhash) ws rs wu ru := by
  have hfew : (requests payer (transferIxs payer recipient)).length ≤ 255 := by
    simp [requests, transferIxs, metas, setCuLimit, setCuPrice, sysTransfer]
  exact ⟨_, _, _, _, compiled_compile payer _ blockhash
    (Nat.le_trans (length_compiledKeys_le _ _) hfew)⟩

/-- `bob` is paid: he does not sign, and his account changes. -/
theorem dissect_compiled_transfer : ∃ i, .account i bob "       " "writable" ∈
    (dissect ⟨[], compile alice (transferIxs alice bob) ⟨List.replicate 32 0, rfl⟩⟩ :
      Printed MessageLine Empty Unit).lines := by
  obtain ⟨ws, rs, wu, ru, h⟩ := compiled_transfer alice bob ⟨List.replicate 32 0, rfl⟩
  have hbob := (@dissect_compiled Empty alice (transferIxs alice bob)
    ⟨[], compile alice (transferIxs alice bob) ⟨List.replicate 32 0, rfl⟩⟩ ws rs wu ru h).2.1
    bob "       " "writable"
  have hasked : bob ∈ (requests alice (transferIxs alice bob)).map AccountMeta.pubkey ∧
      signs (requests alice (transferIxs alice bob)) bob = false ∧
      writes (requests alice (transferIxs alice bob)) bob = true := by decide +kernel
  exact hbob.mpr ⟨hasked.1, by simp [hasked.2.1], by simp [hasked.2.2]⟩

/-- With `alice` and `bob` there are four. -/
theorem transfer_note_alice :
    (compile alice (transferIxs alice bob) ⟨List.replicate 32 0, rfl⟩).accountKeys.length = 4 := by
  obtain ⟨ws, rs, wu, ru, h⟩ := compiled_transfer alice bob ⟨List.replicate 32 0, rfl⟩
  exact (transfer_note h).mpr (by decide +kernel)

end BootcampSolana.TransactionLifecycle
