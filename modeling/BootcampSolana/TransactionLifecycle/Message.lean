import BootcampSolana.Clients.Instructions
import BootcampSolana.Console
import BootcampSolana.Solana.System

/-!
# The message of a transaction

`dissect` of `04-transaction-lifecycle/src/main.rs`. A message has no flags. It has three counts,
and the order of its accounts is what makes them mean something: first the accounts that sign,
then those that do not, and in either half the writable ones first.

* `LaidOut` — the layout, as four sections
* `dissect_permissions` — every account is shown with the permissions of its section
-/

namespace BootcampSolana.TransactionLifecycle

/-- The three counts that stand for all permissions. -/
structure MessageHeader where
  numRequiredSignatures : UInt8
  numReadonlySignedAccounts : UInt8
  numReadonlyUnsignedAccounts : UInt8
  deriving DecidableEq

/-- An instruction that names its accounts by their index in the message. -/
structure CompiledInstruction where
  programIdIndex : UInt8
  accounts : List UInt8
  data : Bytes
  deriving DecidableEq

abbrev Hash := { b : Bytes // b.length = 32 }

abbrev Signature := { b : Bytes // b.length = 64 }

structure Message where
  header : MessageHeader
  accountKeys : List Pubkey
  recentBlockhash : Hash
  instructions : List CompiledInstruction
  deriving DecidableEq

structure Transaction where
  signatures : List Signature
  message : Message
  deriving DecidableEq

/-! ## The source -/

/-- `format!("{x:02x}")`. -/
def hexByte (x : UInt8) : String :=
  String.ofList [Nat.digitChar (x.toNat / 16), Nat.digitChar (x.toNat % 16)]

def hex (b : Bytes) : String := "".intercalate (b.map hexByte)

/-- What is printed about a message. -/
inductive MessageLine where
  | numRequiredSignatures (signers : Nat)
  | numReadonlySigned (roSigned : Nat)
  | numReadonlyUnsigned (roUnsigned : Nat)
  | blockhash (hash : Hash)
  | accountsHeading
  | account (i : Nat) (key : Pubkey) (signer writable : String)
  | program (i : Nat) (key : Pubkey) (index : UInt8)
  | accounts (indexes : List UInt8)
  | data (hex : String)
  deriving DecidableEq

open Printed

variable {ε : Type}

/-- The line of the account `key` at the index `i` of `n`. -/
def accountLine (signers roSigned roUnsigned n i : Nat) (key : Pubkey) : Outcome ε MessageLine := do
  let isSigner : Bool := i < signers
  let isWritable : Bool ←
    if isSigner then do
      let writable ← minus signers roSigned
      pure (i < writable : Bool)
    else do
      let writable ← minus n roUnsigned
      pure (i < writable : Bool)
  pure (.account i key (if isSigner then "signer " else "       ")
    (if isWritable then "writable" else "readonly"))

/-- The lines of the instruction `ix`, the `i`th. -/
def instructionLines (keys : List Pubkey) (i : Nat) (ix : CompiledInstruction) :
    Printed MessageLine ε Unit := do
  println (return .program i (← indexVec keys ix.programIdIndex.toNat) ix.programIdIndex)
  print (.accounts ix.accounts)
  print (.data (hex ix.data))

def dissect (tx : Transaction) : Printed MessageLine ε Unit := do
  let m := tx.message
  let h := m.header
  let n := m.accountKeys.length
  let signers := h.numRequiredSignatures.toNat
  let roSigned := h.numReadonlySignedAccounts.toNat
  let roUnsigned := h.numReadonlyUnsignedAccounts.toNat
  print (.numRequiredSignatures signers)
  print (.numReadonlySigned roSigned)
  print (.numReadonlyUnsigned roUnsigned)
  print (.blockhash m.recentBlockhash)
  print .accountsHeading
  forEnumerate (fun i key => println (accountLine signers roSigned roUnsigned n i key)) 0
    m.accountKeys
  forEnumerate (instructionLines m.accountKeys) 0 m.instructions

/-! ## The layout -/

/-- The layout of a message: four sections, and a header that counts three of them. -/
structure LaidOut (m : Message) (ws rs wu ru : List Pubkey) : Prop where
  accountKeys : m.accountKeys = ws ++ rs ++ wu ++ ru
  numRequiredSignatures : m.header.numRequiredSignatures.toNat = ws.length + rs.length
  numReadonlySigned : m.header.numReadonlySignedAccounts.toNat = rs.length
  numReadonlyUnsigned : m.header.numReadonlyUnsignedAccounts.toNat = ru.length

/-- What is printed before the accounts. -/
def headerLines (m : Message) : List MessageLine :=
  [.numRequiredSignatures m.header.numRequiredSignatures.toNat,
    .numReadonlySigned m.header.numReadonlySignedAccounts.toNat,
    .numReadonlyUnsigned m.header.numReadonlyUnsignedAccounts.toNat,
    .blockhash m.recentBlockhash, .accountsHeading]

/-- The accounts of one section, the first of which has the index `k`. -/
def sectionLines (signer writable : String) (k : Nat) (keys : List Pubkey) : List MessageLine :=
  (keys.zipIdx k).map fun p => .account p.2 p.1 signer writable

/-- The four sections, each with its permissions. -/
def permissionLines (ws rs wu ru : List Pubkey) : List MessageLine :=
  sectionLines "signer " "writable" 0 ws ++
  sectionLines "signer " "readonly" ws.length rs ++
  sectionLines "       " "writable" (ws.length + rs.length) wu ++
  sectionLines "       " "readonly" (ws.length + rs.length + wu.length) ru

/-- What is printed after the accounts, and how it ends. -/
def dissectInstructions (m : Message) : Printed MessageLine ε Unit :=
  forEnumerate (instructionLines m.accountKeys) 0 m.instructions

variable {m : Message} {tx : Transaction} {ws rs wu ru keys : List Pubkey}
  {key : Pubkey} {i k signers roSigned roUnsigned n : Nat} {signer writable : String}

theorem accountLine_signer (hi : i < signers) (h : roSigned ≤ signers) :
    (accountLine signers roSigned roUnsigned n i key : Outcome ε MessageLine) =
      .ok (.account i key "signer "
        (if i < signers - roSigned then "writable" else "readonly")) := by
  unfold accountLine
  simp [hi, minus_eq_ok h]

theorem accountLine_unsigned (hi : ¬ i < signers) (h : roUnsigned ≤ n) :
    (accountLine signers roSigned roUnsigned n i key : Outcome ε MessageLine) =
      .ok (.account i key "       " (if i < n - roUnsigned then "writable" else "readonly")) := by
  unfold accountLine
  simp [hi, minus_eq_ok h]

/-- A section is shown with one pair of permissions, if they are those of all its indexes. -/
theorem forEnumerate_section {body : Nat → Pubkey → Outcome ε MessageLine}
    (h : ∀ i, k ≤ i → i < k + keys.length →
      ∀ key, body i key = .ok (.account i key signer writable)) :
    forEnumerate (fun i key => println (body i key)) k keys =
      ⟨sectionLines signer writable k keys, .ok ()⟩ := by
  have hloop := @forEnumerate_ok MessageLine ε Pubkey (fun i key => println (body i key))
    (fun i key => [.account i key signer writable]) k keys
    (fun i hi hlt key _ => by rw [h i hi hlt key]; rfl)
  rw [hloop, sectionLines, List.map_eq_flatMap]

/-- The loop over four sections, if each is shown with its permissions. -/
theorem forEnumerate_sections {body : Nat → Pubkey → Outcome ε MessageLine}
    (hws : ∀ i, i < ws.length →
      ∀ key, body i key = .ok (.account i key "signer " "writable"))
    (hrs : ∀ i, ws.length ≤ i → i < ws.length + rs.length →
      ∀ key, body i key = .ok (.account i key "signer " "readonly"))
    (hwu : ∀ i, ws.length + rs.length ≤ i → i < ws.length + rs.length + wu.length →
      ∀ key, body i key = .ok (.account i key "       " "writable"))
    (hru : ∀ i, ws.length + rs.length + wu.length ≤ i →
      i < ws.length + rs.length + wu.length + ru.length →
      ∀ key, body i key = .ok (.account i key "       " "readonly")) :
    forEnumerate (fun i key => println (body i key)) 0 (ws ++ rs ++ wu ++ ru) =
      ⟨permissionLines ws rs wu ru, .ok ()⟩ := by
  have hws' := @forEnumerate_section ε ws 0 _ _ body fun i _ hlt => hws i (by omega)
  rw [forEnumerate_append, forEnumerate_append, forEnumerate_append, hws']
  simp only [List.length_append, Nat.zero_add, Printed.bind_ok]
  rw [forEnumerate_section hrs, forEnumerate_section hwu, forEnumerate_section hru]
  rfl

/-- The loop over the accounts. No count is larger than what it is subtracted from. -/
theorem dissect_accounts (h : LaidOut m ws rs wu ru) :
    (forEnumerate (fun i key => println (accountLine m.header.numRequiredSignatures.toNat
        m.header.numReadonlySignedAccounts.toNat m.header.numReadonlyUnsignedAccounts.toNat
        m.accountKeys.length i key)) 0 m.accountKeys : Printed MessageLine ε Unit) =
      ⟨permissionLines ws rs wu ru, .ok ()⟩ := by
  have hn : m.accountKeys.length = ws.length + rs.length + wu.length + ru.length := by
    rw [h.accountKeys]
    simp only [List.length_append]
  rw [hn, h.numRequiredSignatures, h.numReadonlySigned, h.numReadonlyUnsigned, h.accountKeys]
  refine forEnumerate_sections ?_ ?_ ?_ ?_
  · intro i hlt key
    rw [accountLine_signer (by omega) (by omega), if_pos (by omega)]
  · intro i hle hlt key
    rw [accountLine_signer (by omega) (by omega), if_neg (by omega)]
  · intro i hle hlt key
    rw [accountLine_unsigned (by omega) (by omega), if_pos (by omega)]
  · intro i hle hlt key
    rw [accountLine_unsigned (by omega) (by omega), if_neg (by omega)]

theorem dissect_eq (h : LaidOut tx.message ws rs wu ru) :
    (dissect tx : Printed MessageLine ε Unit) =
      ⟨headerLines tx.message ++ permissionLines ws rs wu ru ++
          (dissectInstructions tx.message : Printed MessageLine ε Unit).lines,
        (dissectInstructions tx.message).result⟩ := by
  have haccounts := @dissect_accounts ε tx.message ws rs wu ru h
  unfold dissect
  dsimp only
  rw [haccounts]
  rfl

/-! ## The account lines -/

theorem mem_sectionLines {s w : String} :
    .account i key s w ∈ sectionLines signer writable k keys ↔
      k ≤ i ∧ keys[i - k]? = some key ∧ s = signer ∧ w = writable := by
  unfold sectionLines
  rw [List.mem_map]
  constructor
  · rintro ⟨⟨key', i'⟩, hmem, heq⟩
    cases heq
    obtain ⟨hle, hget⟩ := List.mk_mem_zipIdx_iff_le_and_getElem?_sub.mp hmem
    exact ⟨hle, hget, rfl, rfl⟩
  · rintro ⟨hle, hget, rfl, rfl⟩
    exact ⟨(key, i), List.mk_mem_zipIdx_iff_le_and_getElem?_sub.mpr ⟨hle, hget⟩, rfl⟩

theorem not_mem_sectionLines {s w : String} (h : i < k ∨ k + keys.length ≤ i) :
    .account i key s w ∉ sectionLines signer writable k keys := by
  rw [mem_sectionLines]
  rintro ⟨hle, hget, -⟩
  have hlt := (List.getElem?_eq_some_iff.mp hget).1
  omega

/-- Which account has the index `i`, and in which section it is. -/
theorem mem_permissionLines {s w : String} : .account i key s w ∈ permissionLines ws rs wu ru ↔
    (ws ++ rs ++ wu ++ ru)[i]? = some key ∧
      s = (if i < (ws ++ rs).length then "signer " else "       ") ∧
      w = (if i < ws.length ∨ (ws ++ rs).length ≤ i ∧ i < (ws ++ rs ++ wu).length
        then "writable" else "readonly") := by
  have hout : ∀ {xs : List Pubkey} {k' : Nat} {s' w' : String}, i < k' ∨ k' + xs.length ≤ i →
      (.account i key s w ∈ sectionLines s' w' k' xs ↔ False) := by
    intro xs k' s' w' h
    exact iff_false_intro (not_mem_sectionLines h)
  simp only [permissionLines, List.mem_append, List.append_assoc, List.length_append]
  -- the section that `i` falls in, from the first to the last
  by_cases hws : i < ws.length
  · rw [List.getElem?_append_left hws, if_pos (by omega), if_pos (by omega), mem_sectionLines,
      hout (by omega), hout (by omega), hout (by omega)]
    simp
  rw [List.getElem?_append_right (by omega), hout (by omega), false_or]
  by_cases hrs : i < ws.length + rs.length
  · rw [List.getElem?_append_left (by omega), if_pos (by omega), if_neg (by omega),
      mem_sectionLines, hout (by omega), hout (by omega)]
    simp [show ws.length ≤ i by omega]
  rw [List.getElem?_append_right (by omega), hout (by omega), false_or, if_neg (by omega)]
  by_cases hwu : i < ws.length + rs.length + wu.length
  · rw [List.getElem?_append_left (by omega), if_pos (by omega), mem_sectionLines,
      hout (by omega)]
    simp [show ws.length + rs.length ≤ i by omega, Nat.sub_sub]
  · rw [List.getElem?_append_right (by omega), if_neg (by omega), hout (by omega), false_or,
      mem_sectionLines]
    simp [show ws.length + (rs.length + wu.length) ≤ i by omega, Nat.sub_sub, Nat.add_assoc]

theorem not_mem_headerLines {s w : String} : .account i key s w ∉ headerLines m := by
  simp [headerLines]

/-- No line about an instruction is a line about an account. -/
theorem not_mem_dissectInstructions {s w : String} :
    .account i key s w ∉ (dissectInstructions m : Printed MessageLine ε Unit).lines := by
  intro h
  obtain ⟨j, ix, h⟩ := mem_forEnumerate_lines h
  unfold instructionLines at h
  rcases mem_bind_lines h with h | ⟨_, h⟩
  · have hprogram := mem_println_lines.mp h
    rcases hkey : (indexVec m.accountKeys ix.programIdIndex.toNat : Outcome ε Pubkey) with
      key' | e | _
    · rw [hkey] at hprogram
      cases hprogram
    · rw [hkey] at hprogram
      cases hprogram
    · rw [hkey] at hprogram
      cases hprogram
  · simp [print] at h

/--
**The header recovers every account's permissions.** Of a message that is laid out in four
sections, exactly one line is printed for each account: it says `signer` in the first two
sections, and `writable` in the first and the third. Neither subtraction underflows, so what is
left to go wrong is the index of a program.
-/
theorem dissect_permissions (h : LaidOut tx.message ws rs wu ru) :
    (minus tx.message.header.numRequiredSignatures.toNat
      tx.message.header.numReadonlySignedAccounts.toNat : Outcome ε Nat) = .ok ws.length ∧
    (minus tx.message.accountKeys.length
      tx.message.header.numReadonlyUnsignedAccounts.toNat : Outcome ε Nat) =
        .ok (ws.length + rs.length + wu.length) ∧
    (dissect tx : Printed MessageLine ε Unit) =
      ⟨headerLines tx.message ++ permissionLines ws rs wu ru ++
          (dissectInstructions tx.message : Printed MessageLine ε Unit).lines,
        (dissectInstructions tx.message).result⟩ ∧
    ∀ i key signer writable,
      .account i key signer writable ∈ (dissect tx : Printed MessageLine ε Unit).lines ↔
        (ws ++ rs ++ wu ++ ru)[i]? = some key ∧
        signer = (if i < (ws ++ rs).length then "signer " else "       ") ∧
        writable = (if i < ws.length ∨ (ws ++ rs).length ≤ i ∧ i < (ws ++ rs ++ wu).length
          then "writable" else "readonly") := by
  have hn : tx.message.accountKeys.length = ws.length + rs.length + wu.length + ru.length := by
    rw [h.accountKeys]
    simp only [List.length_append]
  refine ⟨?_, ?_, dissect_eq h, ?_⟩
  · rw [h.numRequiredSignatures, h.numReadonlySigned, minus_eq_ok (by omega),
      Nat.add_sub_cancel]
  · rw [hn, h.numReadonlyUnsigned, minus_eq_ok (by omega), Nat.add_sub_cancel]
  · intro i key signer writable
    rw [dissect_eq h, List.mem_append, List.mem_append, mem_permissionLines]
    constructor
    · rintro ((hmem | hmem) | hmem)
      · exact absurd hmem not_mem_headerLines
      · exact hmem
      · exact absurd hmem not_mem_dissectInstructions
    · intro hmem
      exact Or.inl (Or.inr hmem)

/-- A message as it is built for a transfer, with the recipient second and two programs behind. -/
def transferMessage : Message where
  header := ⟨1, 0, 2⟩
  accountKeys := [alice, bob, systemProgramId, pk COMPUTE_BUDGET isSome_computeBudget]
  recentBlockhash := ⟨List.replicate 32 0, rfl⟩
  instructions :=
    [⟨3, [], (setCuLimit 10000).data⟩, ⟨3, [], (setCuPrice 1000).data⟩,
      ⟨2, [0, 1], (sysTransfer alice bob 100000000).data⟩]

/-- No signer and nothing that signs is read-only, so that one of the sections is empty. -/
theorem dissect_permissions_transfer :
    .account 1 bob "       " "writable" ∈
      (dissect ⟨[], transferMessage⟩ : Printed MessageLine Empty Unit).lines :=
  ((@dissect_permissions Empty ⟨[], transferMessage⟩ [alice] [] [bob]
    [systemProgramId, pk COMPUTE_BUDGET isSome_computeBudget] ⟨rfl, rfl, rfl, rfl⟩).2.2.2
      1 bob "       " "writable").mpr ⟨rfl, rfl, rfl⟩

end BootcampSolana.TransactionLifecycle
