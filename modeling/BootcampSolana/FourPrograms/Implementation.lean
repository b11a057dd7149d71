import BootcampSolana.FourPrograms.Steps
import BootcampSolana.SplToken.Implementation

/-!
# An implementation of the four programs

As much of the System Program, of SPL Token, of Token-2022 and of the Associated Token Account
program as the tour calls. Nothing in this development depends on it. It is here to show that the
promises can be kept, and to run the tour.
-/

namespace BootcampSolana.FourPrograms

open SplToken (Mint TokenAccount IsWallet wrote holding blank)

/-! ## Reading accounts -/

/-- The mint in 82 bytes. -/
def baseMint (d : Bytes) : Option Mint :=
  SplToken.readMint (fun _ => ⟨0, d, SplToken.tokenProgram⟩) systemProgramId

/-- The token account in 165 bytes. -/
def baseToken (d : Bytes) : Option TokenAccount :=
  SplToken.readToken (fun _ => ⟨0, d, SplToken.tokenProgram⟩) systemProgramId

open Codec in
/-- What follows a mint, or one that is going to be: the type of the account, and the fee. -/
def feeEntry : Codec UInt8 (UInt8 × FeeConfig) :=
  prefixed (List.replicate 83 0) (seq letter (prefixed [1, 0, 108, 0] feeConfig))

open Codec in
def withheldEntry : Codec UInt8 UInt64 := prefixed [2, 7, 0, 0, 0, 2, 0, 8, 0] Wire.u64

def readMint (a : Account) : Option (Mint × Option FeeConfig) :=
  if a.owner = tokenProgram then (baseMint a.data).map fun v => (v, none)
  else if a.owner = token2022Program then
    (baseMint (a.data.take 82)).bind fun v =>
      (feeEntry.decode (a.data.drop 82)).map fun entry => (v, some entry.2)
  else none

def readToken (a : Account) : Option (TokenAccount × Option UInt64) :=
  if a.owner = tokenProgram then (baseToken a.data).map fun t => (t, none)
  else if a.owner = token2022Program then
    (baseToken (a.data.take 165)).bind fun t =>
      (withheldEntry.decode (a.data.drop 165)).map fun withheld => (t, some withheld)
  else none

def readFeeSet (a : Account) : Option FeeConfig :=
  if a.owner = token2022Program ∧ a.data.take 82 = List.replicate 82 0 then
    (feeEntry.decode (a.data.drop 82)).map Prod.snd
  else none

theorem programs_differ : tokenProgram ≠ systemProgramId ∧ token2022Program ≠ systemProgramId ∧
    token2022Program ≠ tokenProgram ∧ ataProgram ≠ systemProgramId ∧ ataProgram ≠ tokenProgram ∧
    ataProgram ≠ token2022Program := by decide +kernel

section Reading

variable {a : Account} {v : Mint} {t : TokenAccount} {c : Option FeeConfig} {f : FeeConfig}
  {withheld : Option UInt64} {accountType : UInt8} {s₁ s₂ : SplToken.Stale 32}

theorem baseMint_pack : baseMint (v.pack s₁ s₂) = some v :=
  SplToken.readMint_eq_some.mpr ⟨rfl, s₁, s₂, rfl⟩

theorem baseToken_pack {s₃ : SplToken.Stale 8} : baseToken (t.pack s₁ s₃ s₂) = some t :=
  SplToken.readToken_of_tokenAt ⟨rfl, s₁, s₃, s₂, rfl⟩

theorem decode_feeEntry :
    feeEntry.decode (feeHeader accountType ++ feeConfig.encode f) = some (accountType, f) := by
  rw [Codec.decode_eq_some, feeHeader, List.append_assoc]
  rfl

theorem readMint_of_mintAt (h : MintAt a v c) : readMint a = some (v, c) := by
  obtain ⟨s₁, s₂, hd⟩ := h.packed
  have hlen : (v.pack s₁ s₂).length = 82 := SplToken.length_pack_mint
  cases c with
  | none =>
    have howner : a.owner = tokenProgram := h.owner
    rw [readMint, if_pos howner, hd, extension, List.append_nil, baseMint_pack]
    rfl
  | some c =>
    have howner : a.owner = token2022Program := h.owner
    have hne : a.owner ≠ tokenProgram := fun h => programs_differ.2.2.1 (howner.symm.trans h)
    rw [readMint, if_neg hne, if_pos howner, hd, List.take_left' hlen, List.drop_left' hlen,
      baseMint_pack, extension, Option.bind_some, decode_feeEntry]
    rfl

theorem readToken_of_tokenAt (h : TokenAt a t withheld) : readToken a = some (t, withheld) := by
  obtain ⟨s₁, s₂, s₃, hd⟩ := h.packed
  have hlen : (t.pack s₁ s₂ s₃).length = 165 := SplToken.length_pack_account
  cases withheld with
  | none =>
    have howner : a.owner = tokenProgram := h.owner
    rw [readToken, if_pos howner, hd, accountExtension, List.append_nil, baseToken_pack]
    rfl
  | some w =>
    have howner : a.owner = token2022Program := h.owner
    have hne : a.owner ≠ tokenProgram := fun h => programs_differ.2.2.1 (howner.symm.trans h)
    have hentry : withheldEntry.decode (accountExtension (some w)) = some w :=
      Codec.decode_eq_some.mpr rfl
    rw [readToken, if_neg hne, if_pos howner, hd, List.take_left' hlen, List.drop_left' hlen,
      baseToken_pack, Option.bind_some, hentry]
    rfl

theorem readFeeSet_of_feeSet (h : FeeSet a f) : readFeeSet a = some f := by
  obtain ⟨accountType, hd⟩ := h.packed
  have hlen : (List.replicate 82 (0 : UInt8)).length = 82 := List.length_replicate
  have htake : a.data.take 82 = List.replicate 82 0 := by rw [hd, List.take_left' hlen]
  rw [readFeeSet, if_pos ⟨h.owner, htake⟩, hd, List.drop_left' hlen, decode_feeEntry]
  rfl

end Reading

/-! ## Reading instructions -/

/-- What an instruction asks for. -/
def ofInstruction (ix : Instruction) : Option Request :=
  if ix.programId = systemProgramId then
    match Wire.system.decode ix.data, ix.accounts with
    | some (.createAccount lamports space owner), [source, new] =>
      some (.createAccount source.pubkey new.pubkey lamports space owner)
    | some (.transfer lamports), [source, target] =>
      some (.transfer source.pubkey target.pubkey lamports)
    | _, _ => none
  else if ix.programId = tokenProgram ∨ ix.programId = token2022Program then
    match Wire.token.decode ix.data, ix.accounts with
    | some (.initializeTransferFeeConfig authority withdraw points maximum), [mint] =>
      some (.initializeTransferFeeConfig mint.pubkey authority withdraw ⟨points, maximum⟩)
    | some (.initializeMint2 decimals authority freeze), [mint] =>
      some (.initializeMint2 ix.programId mint.pubkey decimals authority freeze)
    | some (.mintTo amount), [mint, dest, authority] =>
      some (.mintTo ix.programId mint.pubkey dest.pubkey authority.pubkey amount)
    | some (.transferChecked amount decimals), [src, mint, dst, authority] =>
      some (.transferChecked ix.programId src.pubkey mint.pubkey dst.pubkey authority.pubkey amount
        decimals)
    | _, _ => none
  else if ix.programId = ataProgram then
    match ix.data, ix.accounts with
    | [0], [funder, ata, wallet, mint, _, program] =>
      some (.createAta funder.pubkey ata.pubkey wallet.pubkey mint.pubkey program.pubkey)
    | _, _ => none
  else none

/-- The token program that is asked, if it is one of the two. -/
def Request.Known : Request → Prop
  | .initializeMint2 program _ _ _ _ | .mintTo program _ _ _ _
  | .transferChecked program _ _ _ _ _ _ => program = tokenProgram ∨ program = token2022Program
  | _ => True

theorem ofInstruction_of_asks {ix : Instruction} {req : Request} (h : Asks ix req)
    (hknown : req.Known) : ofInstruction ix = some req := by
  obtain ⟨htoken, htoken2022, -, hata, hata', hata''⟩ := programs_differ
  have hsystem : ∀ {program}, program = tokenProgram ∨ program = token2022Program →
      program ≠ systemProgramId := by
    rintro program (rfl | rfl)
    · exact htoken
    · exact htoken2022
  cases h with
  | createAccount decoded => simp [ofInstruction, decoded, AccountMeta.new]
  | transfer decoded => simp [ofInstruction, decoded, AccountMeta.new]
  | initializeTransferFeeConfig decoded =>
    simp [ofInstruction, decoded, htoken2022, AccountMeta.new]
  | initializeMint2 decoded =>
    have hprogram : _ ∨ _ := hknown
    simp [ofInstruction, decoded, hsystem hprogram, hprogram, AccountMeta.new]
  | mintTo decoded =>
    have hprogram : _ ∨ _ := hknown
    simp [ofInstruction, decoded, hsystem hprogram, hprogram, AccountMeta.new,
      AccountMeta.newReadonly]
  | transferChecked decoded =>
    have hprogram : _ ∨ _ := hknown
    simp [ofInstruction, decoded, hsystem hprogram, hprogram, AccountMeta.new,
      AccountMeta.newReadonly]
  | createAta =>
    simp [ofInstruction, hata, hata', hata'', AccountMeta.new, AccountMeta.newReadonly]

/-- The accounts that a request may change. -/
def Request.touched : Request → List Pubkey
  | .createAccount source new _ _ _ => [source, new]
  | .transfer source target _ => [source, target]
  | .initializeTransferFeeConfig mint _ _ _ | .initializeMint2 _ mint _ _ _ => [mint]
  | .mintTo _ mint dest _ _ => [mint, dest]
  | .transferChecked _ src _ dst _ _ _ => [src, dst]
  | .createAta funder ata _ _ _ => [funder, ata]

/-- They are listed. -/
theorem touched_listed {ix : Instruction} {req : Request} (h : ofInstruction ix = some req)
    {a : Pubkey} (ha : a ∈ req.touched) : ∃ m ∈ ix.accounts, m.pubkey = a := by
  unfold ofInstruction at h
  -- each branch has matched the accounts against a list of known length
  split at h
  · split at h
    · next hix =>
      cases h
      simp only [Request.touched, List.mem_cons, List.not_mem_nil, or_false] at ha
      rcases ha with rfl | rfl <;> simp [hix]
    · next hix =>
      cases h
      simp only [Request.touched, List.mem_cons, List.not_mem_nil, or_false] at ha
      rcases ha with rfl | rfl <;> simp [hix]
    · cases h
  · split at h
    · split at h
      · next hix =>
        cases h
        simp only [Request.touched, List.mem_cons, List.not_mem_nil, or_false] at ha
        simp [hix, ha]
      · next hix =>
        cases h
        simp only [Request.touched, List.mem_cons, List.not_mem_nil, or_false] at ha
        simp [hix, ha]
      · next hix =>
        cases h
        simp only [Request.touched, List.mem_cons, List.not_mem_nil, or_false] at ha
        rcases ha with rfl | rfl <;> simp [hix]
      · next hix =>
        cases h
        simp only [Request.touched, List.mem_cons, List.not_mem_nil, or_false] at ha
        rcases ha with rfl | rfl <;> simp [hix]
      · cases h
    · split at h
      · split at h
        · next hix =>
          cases h
          simp only [Request.touched, List.mem_cons, List.not_mem_nil, or_false] at ha
          rcases ha with rfl | rfl <;> simp [hix]
        · cases h
      · cases h

/-! ## Execution -/

def mintBytes (v : Mint) (c : Option FeeConfig) : Bytes :=
  v.pack (blank 32) (blank 32) ++ extension c

def tokenBytes (t : TokenAccount) (withheld : Option UInt64) : Bytes :=
  t.pack (blank 32) (blank 8) (blank 32) ++ accountExtension withheld

section Source

variable (D : Derivation) (rent : Rent)

def perform (S : List Pubkey) (L : Ledger) : Request → Except ProgramError Ledger
  | .createAccount source new lamports space owner =>
    if source ∈ S ∧ new ∈ S ∧ source ≠ new ∧ IsWallet L source ∧ L new = .absent ∧
        lamports.toNat + rent.minimumBalance 0 ≤ (L source).lamports ∧
        rent.minimumBalance space.toNat ≤ lamports.toNat ∧
        space.toNat ≤ maxPermittedDataIncrease then
      .ok (opened L source new
        { lamports := lamports.toNat, data := List.replicate space.toNat 0, owner := owner })
    else .error .invalidAccountData
  | .transfer source target lamports =>
    if source ∈ S ∧ source ≠ target ∧ IsWallet L source ∧
        lamports.toNat + rent.minimumBalance 0 ≤ (L source).lamports ∧
        rent.minimumBalance (L target).data.length ≤ (L target).lamports + lamports.toNat ∧
        (L target).lamports + lamports.toNat < 2 ^ 64 then
      .ok (moved L source target lamports.toNat)
    else .error .invalidAccountData
  | .initializeTransferFeeConfig mint authority withdraw fee =>
    if (L mint).owner = token2022Program ∧ (L mint).data = List.replicate 278 0 ∧
        fee.basisPoints.toNat ≤ 10000 then
      .ok (wrote L mint (List.replicate 82 0 ++ (feeHeader 0 ++ feeConfig.encode
        ⟨authority.getD systemProgramId, withdraw.getD systemProgramId, 0, ⟨0, fee⟩, ⟨0, fee⟩⟩)))
    else .error .invalidAccountData
  | .initializeMint2 program mint decimals authority freeze =>
    if program = tokenProgram then
      if (L mint).owner = tokenProgram ∧ (L mint).data = List.replicate 82 0 ∧
          rent.minimumBalance 82 ≤ (L mint).lamports then
        .ok (wrote L mint (mintBytes ⟨some authority, 0, decimals, true, freeze⟩ none))
      else .error .invalidAccountData
    else
      match readFeeSet (L mint) with
      | some c =>
        if rent.minimumBalance 278 ≤ (L mint).lamports then
          .ok (wrote L mint (mintBytes ⟨some authority, 0, decimals, true, freeze⟩ (some c)))
        else .error .invalidAccountData
      | none => .error .invalidAccountData
  | .mintTo program mint dest authority amount =>
    match readMint (L mint), readToken (L dest) with
    | some (v, c), some (t, withheld) =>
      if program = programOf c ∧ c.isSome = withheld.isSome ∧ v.isInitialized = true ∧
          v.mintAuthority = some authority ∧ t.mint = mint ∧ t.state = .initialized ∧
          t.isNative = none ∧ authority ∈ S ∧ IsWallet L authority ∧
          v.supply.toNat + amount.toNat < 2 ^ 64 ∧ t.amount.toNat + amount.toNat < 2 ^ 64 then
        .ok (wrote (wrote L mint (mintBytes { v with supply := v.supply + amount } c)) dest
          (tokenBytes { t with amount := t.amount + amount } withheld))
      else .error .invalidAccountData
    | _, _ => .error .invalidAccountData
  | .transferChecked program src mint dst authority amount decimals =>
    match readMint (L mint), readToken (L src), readToken (L dst) with
    | some (v, some c), some (t, some out), some (u, some inn) =>
      let fee := UInt64.ofNat (c.charge 0 amount.toNat)
      if program = token2022Program ∧ src ≠ dst ∧ v.isInitialized = true ∧
          v.decimals = decimals ∧ t.mint = mint ∧ t.owner = authority ∧ t.delegate = none ∧
          t.state = .initialized ∧ t.isNative = none ∧ u.mint = mint ∧ u.state = .initialized ∧
          u.isNative = none ∧ authority ∈ S ∧ IsWallet L authority ∧ amount ≤ t.amount ∧
          u.amount.toNat + amount.toNat < 2 ^ 64 ∧ inn.toNat + amount.toNat < 2 ^ 64 ∧
          c.charge 0 amount.toNat ≤ amount.toNat then
        .ok (wrote (wrote L src (tokenBytes { t with amount := t.amount - amount } (some out))) dst
          (tokenBytes { u with amount := u.amount + (amount - fee) } (some (inn + fee))))
      else .error .invalidAccountData
    | _, _, _ => .error .invalidAccountData
  | .createAta funder ata wallet mint program =>
    match readMint (L mint) with
    | some (v, c) =>
      if program = programOf c ∧ funder ≠ ata ∧
          (deriveAta D wallet mint program).map Prod.fst = some ata ∧ v.isInitialized = true ∧
          v.mintAuthority ≠ none ∧ funder ∈ S ∧ IsWallet L funder ∧ L ata = .absent ∧
          rent.minimumBalance (accountLen c) + rent.minimumBalance 0 ≤ (L funder).lamports then
        .ok (opened L funder ata
          { lamports := rent.minimumBalance (accountLen c)
            data := tokenBytes (holding wallet mint 0) (c.map fun _ => 0)
            owner := programOf c })
      else .error .invalidAccountData
    | none => .error .invalidAccountData

def execute (S : List Pubkey) (ix : Instruction) (L : Ledger) : Except ProgramError Ledger :=
  match ofInstruction ix with
  | some req => perform D rent S L req
  | none => .error .invalidInstructionData

/-- A cluster with these programs, at 5000 lamports a signature. -/
def cluster : Cluster ProgramError where
  derivation := D
  rent := rent
  executable _ := false
  reserved _ := false
  fee tx := 5000 * tx.signers.dedup.length
  execute := execute D rent

end Source

section Executed

variable {D : Derivation} {rent : Rent} {S : List Pubkey} {L L' : Ledger} {ix : Instruction}
  {req : Request} {a : Pubkey}

theorem update_two {x y : Pubkey} {v w : Account} (hx : a ≠ x) (hy : a ≠ y) :
    Function.update (Function.update L x v) y w a = L a := by
  rw [Function.update_of_ne hy, Function.update_of_ne hx]

theorem wrote_two {x y : Pubkey} {d d' : Bytes} (hx : a ≠ x) (hy : a ≠ y) :
    wrote (wrote L x d) y d' a = L a := by
  rw [SplToken.wrote_other hy, SplToken.wrote_other hx]

/-- **The frame**: nothing else changes. -/
theorem perform_frame (h : perform D rent S L req = .ok L') (ha : a ∉ req.touched) :
    L' a = L a := by
  cases req with
  | createAccount source new lamports space owner =>
    simp only [Request.touched, List.mem_cons, List.not_mem_nil, or_false, not_or] at ha
    simp only [perform] at h
    split at h
    · cases h
      exact update_two ha.1 ha.2
    · cases h
  | transfer source target lamports =>
    simp only [Request.touched, List.mem_cons, List.not_mem_nil, or_false, not_or] at ha
    simp only [perform] at h
    split at h
    · cases h
      exact update_two ha.1 ha.2
    · cases h
  | initializeTransferFeeConfig mint authority withdraw fee =>
    simp only [Request.touched, List.mem_cons, List.not_mem_nil, or_false] at ha
    simp only [perform] at h
    split at h
    · cases h
      exact SplToken.wrote_other ha
    · cases h
  | initializeMint2 program mint decimals authority freeze =>
    simp only [Request.touched, List.mem_cons, List.not_mem_nil, or_false] at ha
    simp only [perform] at h
    split at h
    · split at h
      · cases h
        exact SplToken.wrote_other ha
      · cases h
    · split at h
      · split at h
        · cases h
          exact SplToken.wrote_other ha
        · cases h
      · cases h
  | mintTo program mint dest authority amount =>
    simp only [Request.touched, List.mem_cons, List.not_mem_nil, or_false, not_or] at ha
    simp only [perform] at h
    split at h
    · split at h
      · cases h
        exact wrote_two ha.1 ha.2
      · cases h
    · cases h
  | transferChecked program src mint dst authority amount decimals =>
    simp only [Request.touched, List.mem_cons, List.not_mem_nil, or_false, not_or] at ha
    simp only [perform] at h
    split at h
    · split at h
      · cases h
        exact wrote_two ha.1 ha.2
      · cases h
    · cases h
  | createAta funder ata wallet mint program =>
    simp only [Request.touched, List.mem_cons, List.not_mem_nil, or_false, not_or] at ha
    simp only [perform] at h
    split at h
    · split at h
      · cases h
        exact update_two ha.1 ha.2
      · cases h
    · cases h

theorem execute_frame (h : execute D rent S ix L = .ok L')
    (ha : ∀ m ∈ ix.accounts, m.pubkey ≠ a) : L' a = L a := by
  unfold execute at h
  split at h
  · next req hreq =>
    refine perform_frame h fun htouched => ?_
    obtain ⟨m, hm, rfl⟩ := touched_listed hreq htouched
    exact ha m hm rfl
  · cases h

/-- What a request does, when it is understood. -/
theorem execute_eq (h : Asks ix req) (hknown : req.Known) :
    execute D rent S ix L = perform D rent S L req := by
  rw [execute, ofInstruction_of_asks h hknown]

end Executed

/-! ## The promises -/

theorem programOf_known {α : Type} (c : Option α) :
    programOf c = tokenProgram ∨ programOf c = token2022Program := by
  cases c with
  | none => exact Or.inl rfl
  | some _ => exact Or.inr rfl

theorem mintAt_mintBytes {a : Account} {v v' : Mint} {c : Option FeeConfig} (h : MintAt a v c) :
    MintAt { a with data := mintBytes v' c } v' c := ⟨h.owner, _, _, rfl⟩

theorem tokenAt_tokenBytes {a : Account} {t t' : TokenAccount} {withheld withheld' : Option UInt64}
    (h : TokenAt a t withheld) (hsame : programOf withheld = programOf withheld') :
    TokenAt { a with data := tokenBytes t' withheld' } t' withheld' :=
  ⟨h.owner.trans hsame, _, _, _, rfl⟩

/-- **The promises are kept.** -/
theorem programs {D : Derivation} {rent : Rent} : Programs (cluster D rent) where
  unlisted := execute_frame
  createAccount := by
    intro S ix L source new lamports space owner _ hasks hne hpays hsigns hwallet hvacant hfunds hrent
      hspace
    show execute D rent S ix L = _
    rw [execute_eq hasks trivial]
    exact if_pos ⟨hpays, hsigns, hne, hwallet, hvacant, hfunds, hrent, hspace⟩
  transfer := by
    intro S ix L source target lamports _ hasks hne hpays hwallet hfunds hrent hfits
    show execute D rent S ix L = _
    rw [execute_eq hasks trivial]
    exact if_pos ⟨hpays, hne, hwallet, hfunds, hrent, hfits⟩
  initializeTransferFeeConfig := by
    intro S ix L m authority withdraw fee _ hasks howner hdata hpoints
    have hset : ∀ c, FeeSet { L m with
        data := List.replicate 82 0 ++ (feeHeader 0 ++ feeConfig.encode c) } c :=
      fun c => ⟨howner, 0, rfl⟩
    refine ⟨_, _, ⟨rfl, rfl⟩, hset ⟨authority.getD systemProgramId, withdraw.getD systemProgramId,
      0, ⟨0, fee⟩, ⟨0, fee⟩⟩, ?_⟩
    show execute D rent S ix L = _
    rw [execute_eq hasks trivial]
    exact if_pos ⟨howner, hdata, hpoints⟩
  initializeMint2 := by
    intro S ix L m decimals authority freeze _ hasks howner hdata hrent
    refine ⟨mintBytes ⟨some authority, 0, decimals, true, freeze⟩ none, ⟨howner, _, _, rfl⟩, ?_⟩
    show execute D rent S ix L = _
    rw [execute_eq hasks (Or.inl rfl), perform, if_pos rfl]
    exact if_pos ⟨howner, hdata, hrent⟩
  initializeMint2_feeSet := by
    intro S ix L m decimals authority freeze c _ hasks hset hrent
    refine ⟨mintBytes ⟨some authority, 0, decimals, true, freeze⟩ (some c),
      ⟨hset.owner, _, _, rfl⟩, ?_⟩
    show execute D rent S ix L = _
    rw [execute_eq hasks (Or.inr rfl), perform, if_neg programs_differ.2.2.1,
      readFeeSet_of_feeSet hset]
    exact if_pos hrent
  createAta := by
    intro S ix L funder ata wallet m v c bump _ hasks hne hderived hmint hinit hauthority hpays hwallet
      hvacant hfunds
    have haddress : (deriveAta D wallet m (programOf c)).map Prod.fst = some ata :=
      congrArg (Option.map Prod.fst) hderived
    have hprogram : programOf c = programOf (c.map fun _ => (0 : UInt64)) := by cases c <;> rfl
    refine ⟨{ lamports := rent.minimumBalance (accountLen c)
              data := tokenBytes (holding wallet m 0) (c.map fun _ => 0)
              owner := programOf c }, rfl, ⟨hprogram, _, _, _, rfl⟩, ?_⟩
    show execute D rent S ix L = _
    rw [execute_eq hasks trivial, perform, readMint_of_mintAt hmint]
    exact if_pos ⟨rfl, hne, haddress, hinit, hauthority, hpays, hwallet, hvacant, hfunds⟩
  mintTo := by
    intro S ix L m dest authority amount v t c withheld _ hasks hmint hinit hauthority htoken hsame
      htm hstate hnative hsigns hwallet hsupply hamount
    refine ⟨_, _, mintAt_mintBytes hmint, tokenAt_tokenBytes htoken rfl, ?_⟩
    show execute D rent S ix L = _
    rw [execute_eq hasks (programOf_known c), perform, readMint_of_mintAt hmint,
      readToken_of_tokenAt htoken]
    exact if_pos ⟨rfl, hsame, hinit, hauthority, htm, hstate, hnative, hsigns, hwallet, hsupply,
      hamount⟩
  transferChecked_fee := by
    intro S ix L src m dst authority amount decimals v c t u out inn _ hasks hne hmint hinit hdecimals
      hsrc htm howner hdelegate hstate hnative hdst hum hustate hunative hsigns hwallet henough
      hfits hwithheld hcharge
    refine ⟨0, _, _, _, rfl, tokenAt_tokenBytes hsrc rfl, tokenAt_tokenBytes hdst rfl, ?_⟩
    show execute D rent S ix L = _
    rw [execute_eq hasks (Or.inr rfl), perform, readMint_of_mintAt hmint,
      readToken_of_tokenAt hsrc, readToken_of_tokenAt hdst]
    exact if_pos ⟨rfl, hne, hinit, hdecimals, htm, howner, hdelegate, hstate, hnative, hum, hustate,
      hunative, hsigns, hwallet, henough, hfits, hwithheld, hcharge 0⟩

end BootcampSolana.FourPrograms
