import BootcampSolana.Lib.Decimal
import BootcampSolana.Lib.Hex
import BootcampSolana.TransactionLifecycle.Compile

/-!
# Reading a printout

`dissect` of `04-transaction-lifecycle/src/main.rs` is handed a `Transaction`, and nothing has
checked its header and its indexes by then.

* `Sound` — what keeps `dissect` from panicking
* `MessageLine.text` — the lines as they are printed
* `reassemble` — the message, from these lines
* `dissect_reads_back` — it panics on the others, and of a sound message it shows everything
-/

namespace BootcampSolana.TransactionLifecycle

open Printed

/-! ## Printing -/

/-- `{:?}` of a `Vec<u8>`, without its brackets. -/
def indexesText (indexes : List UInt8) : List Char :=
  [',', ' '].intercalate (indexes.map fun i => Nat.toDigits 10 i.toNat)

/-- What the `println!` of a line prints. -/
def MessageLine.text : MessageLine → List Char
  | .numRequiredSignatures signers =>
    "  header      num_required_signatures      ".toList ++ Nat.toDigits 10 signers
  | .numReadonlySigned roSigned =>
    "              num_readonly_signed_accounts ".toList ++ Nat.toDigits 10 roSigned
  | .numReadonlyUnsigned roUnsigned =>
    "              num_readonly_unsigned        ".toList ++ Nat.toDigits 10 roUnsigned
  | .blockhash hash => "  blockhash   ".toList ++ Base58.encode hash.1
  | .accountsHeading => "  accounts    (order is the encoding — flags are positional)".toList
  | .account i key signer writable =>
    "    [".toList ++ (Nat.toDigits 10 i ++ "] ".toList ++ Base58.encode key.bytes ++ "  ".toList ++
      signer.toList ++ writable.toList)
  | .program i key index =>
    "  ix[".toList ++ Nat.toDigits 10 i ++ "]       program ".toList ++ Base58.encode key.bytes ++
      " (index ".toList ++ Nat.toDigits 10 index.toNat ++ ")".toList
  | .accounts indexes => "              accounts [".toList ++ indexesText indexes ++ "]".toList
  | .data hex => "              data     0x".toList ++ hex.toList

/-! ## Reading -/

/-- The text from the first `first` to the next `last`. -/
def between (first last : Char) (text : List Char) : List Char :=
  (text.dropWhile (· != first)).tail.takeWhile (· != last)

def readHash (line : List Char) : Option Hash := do
  let text ← line.dropPrefix? "  blockhash   ".toList
  let bytes ← Base58.decode text
  if h : bytes.length = 32 then some ⟨bytes, h⟩ else none

/-- The key that a line is about. -/
def readKey (line : List Char) : Option Pubkey := do
  let text ← line.dropPrefix? "    [".toList
  let bytes ← Base58.decode (between ' ' ' ' text)
  Pubkey.tryFrom bytes

def readIndexes (line : List Char) : List UInt8 :=
  let text := between '[' ']' line
  if text = [] then [] else (text.splitOn ',').map fun part => UInt8.ofNat (Decimal.readIn part)

def readData (line : List Char) : Option Bytes := do
  let text ← line.dropPrefix? "              data     0x".toList
  Hex.read text

/-- Three lines are an instruction. -/
def readInstructions : List (List Char) → Option (List CompiledInstruction)
  | [] => some []
  | program :: accounts :: data :: lines => do
    let data ← readData data
    let ixs ← readInstructions lines
    some (⟨.ofNat (Decimal.readIn (between '(' ')' program)), readIndexes accounts, data⟩ :: ixs)
  | _ => none

/-- The message that the lines are a printout of. -/
def reassemble : List (List Char) → Option Message
  | signers :: roSigned :: roUnsigned :: hash :: _ :: lines => do
    let hash ← readHash hash
    let keys := lines.filterMap readKey
    let ixs ← readInstructions (lines.drop keys.length)
    some {
      header := ⟨.ofNat (Decimal.readIn signers), .ofNat (Decimal.readIn roSigned),
        .ofNat (Decimal.readIn roUnsigned)⟩
      accountKeys := keys
      recentBlockhash := hash
      instructions := ixs }
  | _ => none

/-! ## What `dissect` needs -/

/-- No count is larger than what it is subtracted from, where it is, and programs are accounts. -/
structure Sound (m : Message) : Prop where
  signed : m.accountKeys ≠ [] → 0 < m.header.numRequiredSignatures.toNat →
    m.header.numReadonlySignedAccounts.toNat ≤ m.header.numRequiredSignatures.toNat
  unsigned : m.header.numRequiredSignatures.toNat < m.accountKeys.length →
    m.header.numReadonlyUnsignedAccounts.toNat ≤ m.accountKeys.length
  programs : ∀ c ∈ m.instructions, c.programIdIndex.toNat < m.accountKeys.length

variable {ε : Type} {m : Message} {tx : Transaction} {key : Pubkey} {keys : List Pubkey}
  {i signers roSigned roUnsigned n : ℕ} {c : CompiledInstruction}

/-- The line of an account with a count that fits. -/
def shownAccount (signers roSigned roUnsigned n i : ℕ) (key : Pubkey) : MessageLine :=
  if i < signers then
    .account i key "signer " (if i < signers - roSigned then "writable" else "readonly")
  else .account i key "       " (if i < n - roUnsigned then "writable" else "readonly")

theorem accountLine_fits (hs : i < signers → roSigned ≤ signers)
    (hu : ¬ i < signers → roUnsigned ≤ n) :
    (accountLine signers roSigned roUnsigned n i key : Outcome ε MessageLine) =
      .ok (shownAccount signers roSigned roUnsigned n i key) := by
  unfold shownAccount
  by_cases hi : i < signers
  · rw [accountLine_signer hi (hs hi), if_pos hi]
  · rw [accountLine_unsigned hi (hu hi), if_neg hi]

theorem accountLine_panicked
    (h : i < signers ∧ ¬ roSigned ≤ signers ∨ ¬ i < signers ∧ ¬ roUnsigned ≤ n) :
    (accountLine signers roSigned roUnsigned n i key : Outcome ε MessageLine) = .panicked := by
  unfold accountLine
  rcases h with ⟨hi, hs⟩ | ⟨hi, hu⟩
  · simp only [hi, decide_true, if_true]
    rw [minus_eq_panicked hs]
    rfl
  · simp only [hi, decide_false, Bool.false_eq_true, if_false]
    rw [minus_eq_panicked hu]
    rfl

theorem accountLine_ne_err {e : ε} :
    accountLine signers roSigned roUnsigned n i key ≠ (.err e : Outcome ε MessageLine) := by
  by_cases h : i < signers ∧ ¬ roSigned ≤ signers ∨ ¬ i < signers ∧ ¬ roUnsigned ≤ n
  · rw [accountLine_panicked h]
    nofun
  · rw [accountLine_fits (fun hi => by tauto) fun hi => by tauto]
    nofun

/-! ## The loops -/

/-- The line of an account of `m`. -/
def messageLine (m : Message) (i : ℕ) (key : Pubkey) : Outcome ε MessageLine :=
  accountLine m.header.numRequiredSignatures.toNat m.header.numReadonlySignedAccounts.toNat
    m.header.numReadonlyUnsignedAccounts.toNat m.accountKeys.length i key

def dissectAccounts (m : Message) : Printed MessageLine ε Unit :=
  forEnumerate (fun i key => println (messageLine m i key)) 0 m.accountKeys

/-- The lines of the accounts of a sound message. -/
def accountLines (m : Message) : List MessageLine :=
  (m.accountKeys.zipIdx 0).map fun p => shownAccount m.header.numRequiredSignatures.toNat
    m.header.numReadonlySignedAccounts.toNat m.header.numReadonlyUnsignedAccounts.toNat
    m.accountKeys.length p.2 p.1

theorem dissect_loops : (dissect tx : Printed MessageLine ε Unit) =
    ⟨headerLines tx.message ++
        (dissectAccounts tx.message >>= fun _ => dissectInstructions tx.message :
          Printed MessageLine ε Unit).lines,
      (dissectAccounts tx.message >>= fun _ => dissectInstructions tx.message).result⟩ := rfl

theorem Sound.dissectAccounts (h : Sound m) :
    (dissectAccounts m : Printed MessageLine ε Unit) = ⟨accountLines m, .ok ()⟩ := by
  have hloop := @forEnumerate_ok MessageLine ε Pubkey (fun i key => println (messageLine m i key))
    (fun i key => [shownAccount m.header.numRequiredSignatures.toNat
      m.header.numReadonlySignedAccounts.toNat m.header.numReadonlyUnsignedAccounts.toNat
      m.accountKeys.length i key]) 0 m.accountKeys fun i _ hlt key _ => ?_
  · rw [TransactionLifecycle.dissectAccounts, hloop, accountLines, List.map_eq_flatMap]
  · rw [Nat.zero_add] at hlt
    have hne : m.accountKeys ≠ [] := List.ne_nil_of_length_pos (by omega)
    rw [messageLine, accountLine_fits (fun hi => h.signed hne (by omega)) fun hi =>
      h.unsigned (by omega)]
    rfl

theorem dissectAccounts_ne_err {e : ε} : (dissectAccounts m).result ≠ .err e :=
  forEnumerate_ne_err fun _ _ => println_ne_err accountLine_ne_err

/-- An account whose count does not fit. -/
theorem dissectAccounts_panicked (hi : i < m.accountKeys.length)
    (h : i < m.header.numRequiredSignatures.toNat ∧
        ¬ m.header.numReadonlySignedAccounts.toNat ≤ m.header.numRequiredSignatures.toNat ∨
      ¬ i < m.header.numRequiredSignatures.toNat ∧
        ¬ m.header.numReadonlyUnsignedAccounts.toNat ≤ m.accountKeys.length) :
    (dissectAccounts m : Printed MessageLine ε Unit).result = .panicked := by
  refine forEnumerate_panicked (fun _ _ _ => println_ne_err accountLine_ne_err)
    (List.getElem?_eq_getElem hi) (println_panicked ?_)
  rw [Nat.zero_add]
  exact accountLine_panicked h

theorem instructionLines_panicked {j : ℕ} (h : ¬ c.programIdIndex.toNat < keys.length) :
    (instructionLines keys j c : Printed MessageLine ε Unit).result = .panicked := by
  have hkey : (indexVec keys c.programIdIndex.toNat : Outcome ε Pubkey) = .panicked := by
    rw [indexVec, List.getElem?_eq_none (Nat.le_of_not_lt h)]
  rw [instructionLines, hkey]
  rfl

theorem instructionLines_ne_err {j : ℕ} {e : ε} :
    (instructionLines keys j c : Printed MessageLine ε Unit).result ≠ .err e := by
  unfold instructionLines indexVec
  rcases keys[c.programIdIndex.toNat]? with _ | key
  · nofun
  · nofun

/-- A program that is not an account. -/
theorem dissectInstructions_panicked (hc : c ∈ m.instructions)
    (h : ¬ c.programIdIndex.toNat < m.accountKeys.length) :
    (dissectInstructions m : Printed MessageLine ε Unit).result = .panicked := by
  obtain ⟨j, hj⟩ := List.mem_iff_getElem?.mp hc
  exact forEnumerate_panicked (fun _ _ _ => instructionLines_ne_err) hj
    (instructionLines_panicked h)

/-- **What is not sound is noticed.** -/
theorem dissect_panicked (h : ¬ Sound tx.message) :
    (dissect tx : Printed MessageLine ε Unit).result = .panicked := by
  rw [dissect_loops]
  by_cases hs : tx.message.accountKeys ≠ [] →
      0 < tx.message.header.numRequiredSignatures.toNat →
      tx.message.header.numReadonlySignedAccounts.toNat ≤
        tx.message.header.numRequiredSignatures.toNat
  · by_cases hu : tx.message.header.numRequiredSignatures.toNat < tx.message.accountKeys.length →
        tx.message.header.numReadonlyUnsignedAccounts.toNat ≤ tx.message.accountKeys.length
    · have hp : ¬ ∀ c ∈ tx.message.instructions,
          c.programIdIndex.toNat < tx.message.accountKeys.length := fun hp => h ⟨hs, hu, hp⟩
      push Not at hp
      obtain ⟨c, hc, hle⟩ := hp
      exact bind_panicked_right (fun _ => dissectAccounts_ne_err) fun _ =>
        dissectInstructions_panicked hc (by omega)
    · rw [Classical.not_imp] at hu
      exact bind_panicked_left _
        (dissectAccounts_panicked hu.1 (Or.inr ⟨Nat.lt_irrefl _, hu.2⟩))
  · rw [Classical.not_imp, Classical.not_imp] at hs
    exact bind_panicked_left _
      (dissectAccounts_panicked (List.length_pos_of_ne_nil hs.1) (Or.inl hs.2))

/-! ## Reading back -/

theorem between_eq {first last : Char} {before text after : List Char} (hbefore : first ∉ before)
    (htext : last ∉ text) :
    between first last (before ++ first :: (text ++ last :: after)) = text := by
  rw [between, Decimal.dropWhile_mark hbefore, List.tail_cons, Decimal.takeWhile_mark htext]

theorem dropPrefix?_label (label text : List Char) :
    (label ++ text).dropPrefix? label = some text :=
  List.dropPrefix?_append_of_beq text BEq.rfl

theorem readHash_text (hash : Hash) : readHash (MessageLine.blockhash hash).text = some hash := by
  unfold readHash MessageLine.text
  rw [dropPrefix?_label]
  simp [Base58.decode_encode, hash.2]

theorem readKey_account {signer writable : String} :
    readKey (MessageLine.account i key signer writable).text = some key := by
  have hbefore : ' ' ∉ Nat.toDigits 10 i ++ [']'] := by
    simp [Decimal.not_mem_toDigits (by decide : ' '.isDigit = false)]
  have hkey := @Base58.not_mem_encode key.bytes ' ' (by decide)
  have hbetween := @between_eq ' ' ' ' _ _ (' ' :: (signer.toList ++ writable.toList)) hbefore hkey
  have htext : Nat.toDigits 10 i ++ "] ".toList ++ Base58.encode key.bytes ++ "  ".toList ++
      signer.toList ++ writable.toList = Nat.toDigits 10 i ++ [']'] ++ ' ' ::
        (Base58.encode key.bytes ++ ' ' :: ' ' :: (signer.toList ++ writable.toList)) := by
    simp
  unfold readKey MessageLine.text
  rw [dropPrefix?_label, htext]
  show (Base58.decode (between ' ' ' ' _)).bind Pubkey.tryFrom = some key
  rw [hbetween, Base58.decode_encode, Option.bind_some, Pubkey.tryFrom_eq_some key.length_bytes]

/-! No line of an instruction begins like that of an account. -/

theorem readKey_program {index : UInt8} :
    readKey (MessageLine.program i key index).text = none := by
  unfold readKey MessageLine.text
  simp [List.dropPrefix?]

theorem readKey_accounts {indexes : List UInt8} :
    readKey (MessageLine.accounts indexes).text = none := by
  unfold readKey MessageLine.text
  simp [List.dropPrefix?]

theorem readKey_data {hex : String} : readKey (MessageLine.data hex).text = none := by
  unfold readKey MessageLine.text
  simp [List.dropPrefix?]

theorem readIndex_program {index : UInt8} :
    UInt8.ofNat (Decimal.readIn (between '(' ')' (MessageLine.program i key index).text)) =
      index := by
  have hbefore : '(' ∉ "  ix[".toList ++ Nat.toDigits 10 i ++ "]       program ".toList ++
      Base58.encode key.bytes ++ [' '] := by
    simp [Decimal.not_mem_toDigits (by decide : '('.isDigit = false),
      @Base58.not_mem_encode key.bytes '(' (by decide)]
  have hindex : ')' ∉ "index ".toList ++ Nat.toDigits 10 index.toNat := by
    simp [Decimal.not_mem_toDigits (by decide : ')'.isDigit = false)]
  have hbetween := @between_eq '(' ')' _ _ [] hbefore hindex
  have htext : (MessageLine.program i key index).text =
      "  ix[".toList ++ Nat.toDigits 10 i ++ "]       program ".toList ++
        Base58.encode key.bytes ++ [' '] ++ '(' ::
          ("index ".toList ++ Nat.toDigits 10 index.toNat ++ ')' :: []) := by
    unfold MessageLine.text
    simp
  rw [htext, hbetween, Decimal.readIn_label (by decide), UInt8.ofNat_toNat]

/-- A comma and a blank are a comma, with the blank in front of what follows. -/
theorem intercalate_blank (x : List Char) : ∀ xs : List (List Char),
    [',', ' '].intercalate (x :: xs) = [','].intercalate (x :: xs.map (' ' :: ·))
  | [] => rfl
  | y :: xs => by
    have ih := intercalate_blank y xs
    rw [List.intercalate_cons_cons, ih, List.map_cons, List.intercalate_cons_cons,
      List.intercalate_cons_cons_left]
    simp

theorem not_mem_intercalate {mark : Char} {sep : List Char} (hsep : mark ∉ sep) :
    ∀ {xs : List (List Char)}, (∀ x ∈ xs, mark ∉ x) → mark ∉ sep.intercalate xs
  | [], _ => by simp
  | [x], h => by simpa using h
  | x :: y :: xs, h => by
    have ih := @not_mem_intercalate mark sep hsep (y :: xs) fun z hz =>
      h z (List.mem_cons_of_mem x hz)
    rw [List.intercalate_cons_cons]
    simp [hsep, ih, h x List.mem_cons_self]

theorem readIndexes_text (indexes : List UInt8) :
    readIndexes (MessageLine.accounts indexes).text = indexes := by
  have hbracket : ']' ∉ indexesText indexes := by
    refine not_mem_intercalate (by decide) ?_
    intro part hpart
    obtain ⟨index, -, rfl⟩ := List.mem_map.mp hpart
    exact Decimal.not_mem_toDigits (by decide)
  have hbetween := @between_eq '[' ']' "              accounts ".toList _ [] (by decide) hbracket
  have htext : (MessageLine.accounts indexes).text =
      "              accounts ".toList ++ '[' :: (indexesText indexes ++ ']' :: []) := by
    unfold MessageLine.text
    simp
  rw [readIndexes, htext, hbetween]
  cases indexes with
  | nil => rfl
  | cons index rest =>
    have hsplit : (indexesText (index :: rest)).splitOn ',' = Nat.toDigits 10 index.toNat ::
        rest.map fun i => ' ' :: Nat.toDigits 10 i.toNat := by
      rw [indexesText, List.map_cons, intercalate_blank, List.map_map]
      refine List.splitOn_intercalate ',' ?_ (List.cons_ne_nil _ _)
      intro part hpart
      rcases List.mem_cons.mp hpart with rfl | hpart
      · exact Decimal.not_mem_toDigits (by decide)
      · obtain ⟨i, -, rfl⟩ := List.mem_map.mp hpart
        simp [Decimal.not_mem_toDigits (by decide : ','.isDigit = false)]
    have hne : indexesText (index :: rest) ≠ [] := by
      intro hnil
      rw [hnil] at hsplit
      simp [Nat.toDigits_ne_nil] at hsplit
    have hfirst : UInt8.ofNat (Decimal.readIn (Nat.toDigits 10 index.toNat)) = index := by
      rw [← List.nil_append (Nat.toDigits 10 _), Decimal.readIn_label (by simp),
        UInt8.ofNat_toNat]
    have hrest : ∀ i : UInt8,
        UInt8.ofNat (Decimal.readIn (' ' :: Nat.toDigits 10 i.toNat)) = i := by
      intro i
      rw [← List.singleton_append, Decimal.readIn_label (by decide), UInt8.ofNat_toNat]
    rw [if_neg hne, hsplit, List.map_cons, List.map_map]
    simp [hfirst, hrest, Function.comp_def]

theorem nil_intercalate {α : Type} (l : List (List α)) : [].intercalate l = l.flatten := by
  induction l with
  | nil => rfl
  | cons a l ih =>
    cases l with
    | nil => simp
    | cons b l => simpa using ih

theorem toList_hex (b : Bytes) : (hex b).toList = b.flatMap Hex.byte := by
  have hbyte : String.toList ∘ hexByte = Hex.byte := by
    funext x
    simp [hexByte, Hex.byte]
  rw [hex, String.toList_intercalate, List.map_map, String.toList_empty, nil_intercalate, hbyte,
    List.flatMap_def]

theorem readData_text (b : Bytes) : readData (MessageLine.data (hex b)).text = some b := by
  unfold readData MessageLine.text
  rw [dropPrefix?_label, toList_hex]
  exact Hex.read_flatMap_byte b

/-- The instructions are read back from their lines. -/
theorem readInstructions_shown (program : CompiledInstruction → Pubkey) :
    ∀ (i : ℕ) (ixs : List CompiledInstruction), readInstructions
      (((ixs.zipIdx i).flatMap fun p => shownInstruction p.2 (program p.1) p.1).map
        MessageLine.text) = some ixs
  | _, [] => rfl
  | i, c :: ixs => by
    have ih := readInstructions_shown program (i + 1) ixs
    rw [List.zipIdx_cons, List.flatMap_cons, List.map_append]
    simp only [shownInstruction, List.map_cons, List.map_nil, List.cons_append,
      List.nil_append] at ih ⊢
    rw [readInstructions, readData_text, ih, readIndex_program, readIndexes_text]
    rfl

theorem readKey_shownAccount :
    readKey (shownAccount signers roSigned roUnsigned n i key).text = some key := by
  unfold shownAccount
  split
  · exact readKey_account
  · exact readKey_account

theorem filterMap_accountLines (m : Message) :
    ((accountLines m).map MessageLine.text).filterMap readKey = m.accountKeys := by
  have hkey : readKey ∘ MessageLine.text ∘ (fun p : Pubkey × ℕ => shownAccount
      m.header.numRequiredSignatures.toNat m.header.numReadonlySignedAccounts.toNat
      m.header.numReadonlyUnsignedAccounts.toNat m.accountKeys.length p.2 p.1) =
        fun p => some p.1 := by
    funext p
    exact readKey_shownAccount
  rw [accountLines, List.map_map, List.filterMap_map, hkey]
  show (m.accountKeys.zipIdx 0).filterMap (some ∘ Prod.fst) = _
  rw [List.filterMap_eq_map, List.zipIdx_map_fst]

/-- No line of an instruction is about an account. -/
theorem filterMap_shown (program : CompiledInstruction → Pubkey)
    (ixs : List (CompiledInstruction × ℕ)) : ((ixs.flatMap fun p =>
      shownInstruction p.2 (program p.1) p.1).map MessageLine.text).filterMap readKey = [] := by
  rw [List.filterMap_map, List.filterMap_eq_nil_iff]
  intro line hline
  obtain ⟨p, -, hp⟩ := List.mem_flatMap.mp hline
  simp only [shownInstruction, List.mem_cons, List.not_mem_nil, or_false] at hp
  rcases hp with rfl | rfl | rfl
  · exact readKey_program
  · exact readKey_accounts
  · exact readKey_data

theorem length_accountLines (m : Message) : (accountLines m).length = m.accountKeys.length := by
  rw [accountLines, List.length_map, List.length_zipIdx]

/-- The program of an instruction, if it is an account. -/
def programOf (m : Message) (c : CompiledInstruction) : Pubkey :=
  (m.accountKeys[c.programIdIndex.toNat]?).getD systemProgramId

/-- The lines after those of the header. -/
def bodyLines (m : Message) : List MessageLine :=
  accountLines m ++
    (m.instructions.zipIdx 0).flatMap fun p => shownInstruction p.2 (programOf m p.1) p.1

theorem Sound.dissect_eq (h : Sound tx.message) : (dissect tx : Printed MessageLine ε Unit) =
    ⟨headerLines tx.message ++ bodyLines tx.message, .ok ()⟩ := by
  rw [dissect_loops, h.dissectAccounts, bind_ok, dissectInstructions_lines h.programs]
  rfl

theorem filterMap_bodyLines (m : Message) :
    ((bodyLines m).map MessageLine.text).filterMap readKey = m.accountKeys := by
  rw [bodyLines, List.map_append, List.filterMap_append, filterMap_accountLines,
    filterMap_shown (programOf m), List.append_nil]

theorem drop_bodyLines (m : Message) :
    ((bodyLines m).map MessageLine.text).drop m.accountKeys.length =
      ((m.instructions.zipIdx 0).flatMap fun p =>
        shownInstruction p.2 (programOf m p.1) p.1).map MessageLine.text := by
  rw [← List.map_drop, bodyLines, ← length_accountLines, List.drop_left]

theorem readIn_headerLines {count : UInt8} :
    UInt8.ofNat (Decimal.readIn (MessageLine.numRequiredSignatures count.toNat).text) = count ∧
    UInt8.ofNat (Decimal.readIn (MessageLine.numReadonlySigned count.toNat).text) = count ∧
    UInt8.ofNat (Decimal.readIn (MessageLine.numReadonlyUnsigned count.toNat).text) = count := by
  unfold MessageLine.text
  dsimp only
  refine ⟨?_, ?_, ?_⟩
  all_goals rw [Decimal.readIn_label (by decide), UInt8.ofNat_toNat]

/-- **`dissect` shows everything.** -/
theorem reassemble_lines (m : Message) :
    reassemble ((headerLines m ++ bodyLines m).map MessageLine.text) = some m := by
  rw [List.map_append]
  simp only [headerLines, List.map_cons, List.map_nil, List.cons_append, List.nil_append,
    reassemble]
  rw [readHash_text, filterMap_bodyLines, drop_bodyLines, readInstructions_shown (programOf m),
    readIn_headerLines.1, readIn_headerLines.2.1, readIn_headerLines.2.2]
  rfl

/--
**A printout is the message.** `dissect` panics exactly on the messages that are not sound, and
from the text that it prints of the others the message can be put together again.
-/
theorem dissect_reads_back (tx : Transaction) :
    ((dissect tx : Printed MessageLine ε Unit).result = .ok () ↔ Sound tx.message) ∧
    ((dissect tx : Printed MessageLine ε Unit).result = .panicked ↔ ¬ Sound tx.message) ∧
    (Sound tx.message →
      reassemble ((dissect tx : Printed MessageLine ε Unit).lines.map MessageLine.text) =
        some tx.message) := by
  by_cases h : Sound tx.message
  · have heq := @Sound.dissect_eq ε tx h
    simp [heq, h, ← reassemble_lines]
  · have hpanicked : (dissect tx : Printed MessageLine ε Unit).result = .panicked :=
      dissect_panicked h
    simp [hpanicked, h]

end BootcampSolana.TransactionLifecycle
