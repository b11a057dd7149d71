import BootcampSolana.Clients.Addresses
import BootcampSolana.SplToken.Programs

/-!
# An implementation of the token programs

As much of the System Program, of SPL Token and of the Associated Token Account program as the
exercise calls. Nothing else in this development depends on it. It is here to show that what is
assumed of the programs can be met, and to run the exercise.

* `execute_ok` — what an instruction that is executed was, and what it has done
* `programs`, `keyPair` — the promises are kept
-/

namespace BootcampSolana.SplToken

/-! ## Reading the ledger -/

instance (d : Bytes) : Decidable (IsMint d) :=
  decidable_of_iff (d.length = 82 ∧ TagOk (window d 0 36) ∧ (d.getD 45 0 = 0 ∨ d.getD 45 0 = 1) ∧
      TagOk (window d 46 82))
    ⟨fun h => ⟨h.1, h.2.1, h.2.2.1, h.2.2.2⟩,
      fun h => ⟨h.length, h.mintAuthority, h.isInitialized, h.freezeAuthority⟩⟩

instance (d : Bytes) : Decidable (IsTokenAccount d) :=
  decidable_of_iff (d.length = 165 ∧ TagOk (window d 72 108) ∧ (d.getD 108 0).toNat ≤ 2 ∧
      TagOk (window d 109 121) ∧ TagOk (window d 129 165))
    ⟨fun h => ⟨h.1, h.2.1, h.2.2.1, h.2.2.2.1, h.2.2.2.2⟩,
      fun h => ⟨h.length, h.delegate, h.state, h.isNative, h.closeAuthority⟩⟩

instance (L : Ledger) (a : Pubkey) : Decidable (IsWallet L a) :=
  decidable_of_iff ((L a).owner = systemProgramId ∧ (L a).data = [])
    ⟨fun h => ⟨h.1, h.2⟩, fun h => ⟨h.owner, h.data⟩⟩

def readMint (L : Ledger) (m : Pubkey) : Option Mint :=
  if (L m).owner = tokenProgram ∧ IsMint (L m).data then some (Mint.read (L m).data) else none

def stateOf (b : UInt8) : AccountState :=
  if b = 0 then .uninitialized else if b = 1 then .initialized else .frozen

def TokenFields.toAccount (v : TokenFields) (state : AccountState) : TokenAccount where
  mint := v.mint
  owner := v.owner
  amount := v.amount
  delegate := v.delegate
  state := state
  isNative := v.isNative
  delegatedAmount := v.delegatedAmount
  closeAuthority := v.closeAuthority

def readToken (L : Ledger) (a : Pubkey) : Option TokenAccount :=
  if h : (L a).owner = tokenProgram ∧ IsTokenAccount (L a).data then
    some ((TokenFields.read (L a).data (Nat.le_of_eq h.2.length.symm)).toAccount
      (stateOf ((L a).data.getD 108 0)))
  else none

section Reading

variable {L : Ledger} {a m : Pubkey} {v : Mint} {t : TokenAccount}

theorem readMint_eq_some : readMint L m = some v ↔ MintAt L m v := by
  unfold readMint
  constructor
  · intro h
    split at h
    · next hm =>
      cases h
      obtain ⟨v, s₁, s₂, hd⟩ := packs_mint.mp hm.2
      refine ⟨hm.1, s₁, s₂, ?_⟩
      rw [hd, read_pack_mint]
    · cases h
  · intro h
    obtain ⟨s₁, s₂, hd⟩ := h.packed
    rw [if_pos ⟨h.owner, packs_mint.mpr ⟨v, s₁, s₂, hd⟩⟩, h.read]

theorem readToken_of_tokenAt (h : TokenAt L a t) : readToken L a = some t := by
  obtain ⟨s₁, s₂, s₃, hd⟩ := h.packed
  have hstate : stateOf ((L a).data.getD 108 0) = t.state := by
    rw [hd, getD_of_window (t.windows s₁ s₂ s₃).2.2.2.2.1]
    cases t.state <;> rfl
  unfold readToken
  rw [dif_pos ⟨h.owner, packs_account.mpr ⟨t, s₁, s₂, s₃, hd⟩⟩, h.read, hstate]
  rfl

theorem readToken_eq_some : readToken L a = some t ↔ TokenAt L a t := by
  refine ⟨fun h => ?_, readToken_of_tokenAt⟩
  by_cases ht : (L a).owner = tokenProgram ∧ IsTokenAccount (L a).data
  · obtain ⟨t', s₁, s₂, s₃, hd⟩ := packs_account.mp ht.2
    have ht' : TokenAt L a t' := ⟨ht.1, s₁, s₂, s₃, hd⟩
    rw [readToken_of_tokenAt ht'] at h
    cases h
    exact ht'
  · rw [readToken, dif_neg ht] at h
    cases h

end Reading

/-! ## Reading instructions -/

/-- What an instruction asks for. -/
def ofInstruction (ix : Instruction) : Option Request :=
  if ix.programId = systemProgramId then
    match Wire.system.decode ix.data, ix.accounts with
    | some (.createAccount lamports space owner), [source, new] =>
      some (.createAccount source.pubkey new.pubkey lamports space owner)
    | _, _ => none
  else if ix.programId = tokenProgram then
    match Wire.token.decode ix.data, ix.accounts with
    | some (.initializeMint2 decimals authority freeze), [mint] =>
      some (.initializeMint2 mint.pubkey decimals authority freeze)
    | some (.mintTo amount), [mint, dest, authority] =>
      some (.mintTo mint.pubkey dest.pubkey authority.pubkey amount)
    | some (.transferChecked amount decimals), [src, mint, dst, authority] =>
      some (.transferChecked src.pubkey mint.pubkey dst.pubkey authority.pubkey amount decimals)
    | _, _ => none
  else if ix.programId = ataProgram then
    match ix.data, ix.accounts with
    | [0], [funder, ata, wallet, mint, _, _] =>
      some (.createAta funder.pubkey ata.pubkey wallet.pubkey mint.pubkey)
    | _, _ => none
  else none

theorem programs_differ : tokenProgram ≠ systemProgramId ∧ ataProgram ≠ systemProgramId ∧
    ataProgram ≠ tokenProgram := by decide +kernel

theorem ofInstruction_of_asks {ix : Instruction} {req : Request} (h : Asks ix req) :
    ofInstruction ix = some req := by
  obtain ⟨htoken, hata, hne⟩ := programs_differ
  cases h with
  | createAccount decoded => simp [ofInstruction, decoded, AccountMeta.new]
  | initializeMint2 decoded => simp [ofInstruction, decoded, htoken, AccountMeta.new]
  | mintTo decoded =>
    simp [ofInstruction, decoded, htoken, AccountMeta.new, AccountMeta.newReadonly]
  | transferChecked decoded =>
    simp [ofInstruction, decoded, htoken, AccountMeta.new, AccountMeta.newReadonly]
  | createAta => simp [ofInstruction, hata, hne, AccountMeta.new, AccountMeta.newReadonly]

/-! ## Execution -/

/-- Nothing is left behind an option that was never there. -/
def blank (n : Nat) : Stale n := ⟨List.replicate n 0, by simp⟩

def Mint.packed (v : Mint) : Bytes := v.pack (blank 32) (blank 32)

def TokenAccount.packed (v : TokenAccount) : Bytes := v.pack (blank 32) (blank 8) (blank 32)

section Source

variable (D : Derivation) (rent : Rent)

/-- The rent of a token account, as far as it is not paid already, and its first data. -/
def createdAta (L : Ledger) (funder ata wallet mint : Pubkey) : Ledger :=
  let due := rent.minimumBalance 165 - (L ata).lamports
  Function.update
    (Function.update L funder { L funder with lamports := (L funder).lamports - due }) ata
    { lamports := (L ata).lamports + due
      data := (holding wallet mint 0).packed
      owner := tokenProgram }

def perform (S : List Pubkey) (L : Ledger) : Request → Except ProgramError Ledger
  | .createAccount source new lamports space owner =>
    if source ∈ S ∧ new ∈ S ∧ source ≠ new ∧ L new = .absent ∧ IsWallet L source ∧
        lamports.toNat ≤ (L source).lamports ∧ space.toNat ≤ maxPermittedDataIncrease then
      .ok (CreateAccount.apply ⟨source, new, lamports.toNat, space.toNat, owner⟩ L)
    else .error .invalidAccountData
  | .initializeMint2 mint decimals authority freeze =>
    if (L mint).owner = tokenProgram ∧ (L mint).data = List.replicate 82 0 ∧
        rent.minimumBalance 82 ≤ (L mint).lamports then
      .ok (wrote L mint (Mint.packed ⟨some authority, 0, decimals, true, freeze⟩))
    else .error .invalidAccountData
  | .mintTo mint dest authority amount =>
    match readMint L mint, readToken L dest with
    | some v, some t =>
      if v.isInitialized = true ∧ v.mintAuthority = some authority ∧ t.mint = mint ∧
          t.state = .initialized ∧ t.isNative = none ∧ authority ∈ S ∧ IsWallet L authority ∧
          v.supply.toNat + amount.toNat < 2 ^ 64 ∧ t.amount.toNat + amount.toNat < 2 ^ 64 then
        .ok (wrote (wrote L mint (Mint.packed { v with supply := v.supply + amount })) dest
          (TokenAccount.packed { t with amount := t.amount + amount }))
      else .error .invalidAccountData
    | _, _ => .error .invalidAccountData
  | .transferChecked src mint dst authority amount decimals =>
    match readMint L mint, readToken L src, readToken L dst with
    | some v, some t, some u =>
      if src ≠ dst ∧ v.isInitialized = true ∧ v.decimals = decimals ∧ t.mint = mint ∧
          t.owner = authority ∧ t.delegate = none ∧ t.state = .initialized ∧ t.isNative = none ∧
          u.mint = mint ∧ u.state = .initialized ∧ u.isNative = none ∧ authority ∈ S ∧
          IsWallet L authority ∧ amount ≤ t.amount ∧ u.amount.toNat + amount.toNat < 2 ^ 64 then
        .ok (wrote (wrote L src (TokenAccount.packed { t with amount := t.amount - amount })) dst
          (TokenAccount.packed { u with amount := u.amount + amount }))
      else .error .invalidAccountData
    | _, _, _ => .error .invalidAccountData
  | .createAta funder ata wallet mint =>
    match readMint L mint with
    | some v =>
      if funder ≠ ata ∧ deriveAta D wallet mint = some ata ∧ v.isInitialized = true ∧
          v.mintAuthority ≠ none ∧ funder ∈ S ∧ IsWallet L funder ∧ IsWallet L ata ∧
          rent.minimumBalance 165 ≤ (L funder).lamports then
        .ok (createdAta rent L funder ata wallet mint)
      else .error .invalidAccountData
    | none => .error .invalidAccountData

/-- The signatures are verified first. -/
def execute (S : List Pubkey) (ix : Instruction) (L : Ledger) : Except ProgramError Ledger :=
  if S.all D.isOnCurve then
    match ofInstruction ix with
    | some req => perform D rent S L req
    | none => .error .invalidInstructionData
  else .error .missingRequiredSignature

/-- A cluster with these programs, at 5000 lamports a signature. -/
def cluster : Cluster ProgramError where
  derivation := D
  rent := rent
  executable _ := false
  reserved _ := false
  fee tx := 5000 * tx.signers.dedup.length
  execute := execute D rent

end Source

/-! ## What has been executed -/

/-- What a request has found, and what it has done. -/
inductive Done (D : Derivation) (rent : Rent) (S : List Pubkey) (L : Ledger) :
    Request → Ledger → Prop where
  | createAccount {source new : Pubkey} {lamports space : UInt64} {owner : Pubkey}
      (payer : source ∈ S) (signed : new ∈ S) (ne : source ≠ new) (vacant : L new = .absent) :
      Done D rent S L (.createAccount source new lamports space owner)
        (CreateAccount.apply ⟨source, new, lamports.toNat, space.toNat, owner⟩ L)
  | initializeMint2 {mint : Pubkey} {decimals : UInt8} {authority : Pubkey}
      {freeze : Option Pubkey} (owned : (L mint).owner = tokenProgram)
      (unused : (L mint).data = List.replicate 82 0) :
      Done D rent S L (.initializeMint2 mint decimals authority freeze)
        (wrote L mint (Mint.packed ⟨some authority, 0, decimals, true, freeze⟩))
  | mintTo {mint dest authority : Pubkey} {amount : UInt64} {v : Mint} {t : TokenAccount}
      (mintAt : MintAt L mint v) (tokenAt : TokenAt L dest t) (same : t.mint = mint)
      (authorised : v.mintAuthority = some authority) (signed : authority ∈ S)
      (supplyFits : v.supply.toNat + amount.toNat < 2 ^ 64)
      (amountFits : t.amount.toNat + amount.toNat < 2 ^ 64) :
      Done D rent S L (.mintTo mint dest authority amount)
        (wrote (wrote L mint (Mint.packed { v with supply := v.supply + amount })) dest
          (TokenAccount.packed { t with amount := t.amount + amount }))
  | transferChecked {src mint dst authority : Pubkey} {amount : UInt64} {decimals : UInt8}
      {t u : TokenAccount} (ne : src ≠ dst) (srcAt : TokenAt L src t) (dstAt : TokenAt L dst u)
      (srcMint : t.mint = mint) (dstMint : u.mint = mint) (native : t.isNative = none)
      (owned : t.owner = authority) (signed : authority ∈ S) (enough : amount ≤ t.amount)
      (fits : u.amount.toNat + amount.toNat < 2 ^ 64) :
      Done D rent S L (.transferChecked src mint dst authority amount decimals)
        (wrote (wrote L src (TokenAccount.packed { t with amount := t.amount - amount })) dst
          (TokenAccount.packed { u with amount := u.amount + amount }))
  | createAta {funder ata wallet mint : Pubkey} {v : Mint} (ne : funder ≠ ata)
      (derived : deriveAta D wallet mint = some ata) (mintAt : MintAt L mint v)
      (signed : funder ∈ S) (payer : IsWallet L funder) (vacant : IsWallet L ata) :
      Done D rent S L (.createAta funder ata wallet mint)
        (createdAta rent L funder ata wallet mint)

section Executed

variable {D : Derivation} {rent : Rent} {S : List Pubkey} {L L' : Ledger} {ix : Instruction}
  {req : Request}

theorem perform_ok (h : perform D rent S L req = .ok L') : Done D rent S L req L' := by
  cases req with
  | createAccount source new lamports space owner =>
    simp only [perform] at h
    split at h
    · next hc =>
      cases h
      exact .createAccount hc.1 hc.2.1 hc.2.2.1 hc.2.2.2.1
    · cases h
  | initializeMint2 mint decimals authority freeze =>
    simp only [perform] at h
    split at h
    · next hc =>
      cases h
      exact .initializeMint2 hc.1 hc.2.1
    · cases h
  | mintTo mint dest authority amount =>
    simp only [perform] at h
    split at h
    · next v t hv ht =>
      split at h
      · next hc =>
        cases h
        obtain ⟨-, hauth, hsame, -, -, hsigned, -, hsupply, hamount⟩ := hc
        exact .mintTo (readMint_eq_some.mp hv) (readToken_eq_some.mp ht) hsame hauth hsigned
          hsupply hamount
      · cases h
    · cases h
  | transferChecked src mint dst authority amount decimals =>
    simp only [perform] at h
    split at h
    · next v t u hv ht hu =>
      split at h
      · next hc =>
        cases h
        obtain ⟨hne, -, -, htm, howner, -, -, htn, hum, -, -, hsigned, -, henough, hfits⟩ := hc
        exact .transferChecked hne (readToken_eq_some.mp ht) (readToken_eq_some.mp hu) htm hum
          htn howner hsigned henough hfits
      · cases h
    · cases h
  | createAta funder ata wallet mint =>
    simp only [perform] at h
    split at h
    · next v hv =>
      split at h
      · next hc =>
        cases h
        obtain ⟨hne, hderived, -, -, hsigned, hpayer, hvacant, -⟩ := hc
        exact .createAta hne hderived (readMint_eq_some.mp hv) hsigned hpayer hvacant
      · cases h
    · cases h

/-- **What an instruction that is executed was**, and what it has done. -/
theorem execute_ok (h : execute D rent S ix L = .ok L') :
    (∀ a ∈ S, D.isOnCurve a = true) ∧
      ∃ req, ofInstruction ix = some req ∧ Done D rent S L req L' := by
  unfold execute at h
  split at h
  · next hS =>
    split at h
    · next req hreq =>
      exact ⟨by simpa using hS, req, hreq, perform_ok h⟩
    · cases h
  · cases h

/-- What a request does, when it is understood. -/
theorem execute_eq (hS : ∀ a ∈ S, D.isOnCurve a = true) (h : Asks ix req) :
    execute D rent S ix L = perform D rent S L req := by
  have hall : S.all D.isOnCurve = true := by simpa using hS
  simp [execute, hall, ofInstruction_of_asks h]

theorem execute_succeeds (hS : Signed (cluster D rent) S) (h : Asks ix req)
    (hp : ∃ L', perform D rent S L req = .ok L') :
    ∃ L', (cluster D rent).execute S ix L = .ok L' := by
  obtain ⟨L', hp⟩ := hp
  exact ⟨L', (execute_eq hS h).trans hp⟩

theorem done_of_asks (h : Asks ix req) (hx : execute D rent S ix L = .ok L') :
    Done D rent S L req L' := by
  obtain ⟨-, req', hreq, hdone⟩ := execute_ok hx
  rw [ofInstruction_of_asks h] at hreq
  cases hreq
  exact hdone

end Executed

/-! ## Supplies and amounts -/

section Amounts

variable {D : Derivation} {rent : Rent} {S : List Pubkey} {L L' : Ledger} {a m : Pubkey}
  {v : Mint} {t u : TokenAccount} {d : Bytes} {n : ℕ} {req : Request}

theorem TokenAt.amount_eq (h : TokenAt L a t) :
    t.amount = U64.fromLeBytes (window (L a).data 64 72) :=
  (congrArg TokenFields.amount (h.read (Nat.le_of_eq h.length.symm))).symm

theorem MintAt.supply_eq (h : MintAt L m v) :
    v.supply = U64.fromLeBytes (window (L m).data 36 44) := (congrArg Mint.supply h.read).symm

/-- A token account without any data written holds nothing. -/
theorem TokenAt.amount_of_zeros (h : TokenAt L a t) (hd : (L a).data = List.replicate n 0) :
    t.amount = 0 := by
  have hlen := h.length
  rw [hd, List.length_replicate] at hlen
  rw [h.amount_eq, hd, hlen]
  decide

theorem MintAt.supply_of_zeros (h : MintAt L m v) (hd : (L m).data = List.replicate n 0) :
    v.supply = 0 := by
  have hlen := h.length
  rw [hd, List.length_replicate] at hlen
  rw [h.supply_eq, hd, hlen]
  decide

/-- What is in an account after a write is what was written. -/
theorem TokenAt.of_wrote (h : TokenAt (wrote L a (t.packed)) a u) : u = t := by
  have ht : TokenAt (wrote L a t.packed) a t :=
    ⟨h.owner, blank 32, blank 8, blank 32, by rw [wrote_self]; rfl⟩
  exact h.unique ht

theorem not_tokenAt_mint {v : Mint} (h : TokenAt (wrote L m v.packed) m u) : False := by
  have hlen := h.length
  rw [wrote_self] at hlen
  have : (Mint.packed v).length = 82 := length_pack_mint
  simp only at hlen
  omega

theorem tokenAt_other {c : Pubkey} (hc : c ≠ a) :
    TokenAt (wrote L a d) c t ↔ TokenAt L c t := by
  have hsame : wrote L a d c = L c := wrote_other hc
  exact ⟨fun h => h.congr (by rw [hsame]) (by rw [hsame]),
    fun h => h.congr (by rw [hsame]) (by rw [hsame])⟩

theorem mintAt_other {c : Pubkey} (hc : c ≠ a) :
    MintAt (wrote L a d) c v ↔ MintAt L c v := by
  have hsame : wrote L a d c = L c := wrote_other hc
  exact ⟨fun h => h.congr (by rw [hsame]) (by rw [hsame]),
    fun h => h.congr (by rw [hsame]) (by rw [hsame])⟩

/-- Accounts that hold nothing can be added. -/
theorem Solvent.added (htoken : ∀ a t, TokenAt L' a t → t.amount = 0 ∨ TokenAt L a t)
    (hmint : ∀ m v, MintAt L m v → v.supply = 0 ∨ MintAt L' m v) (h : Solvent L) :
    Solvent L' := by
  intro m
  obtain ⟨f, supply, hcovered, hheld, hsupply⟩ := h m
  refine ⟨f, supply, hcovered, fun a t ht htm htn => ?_, ?_⟩
  · rcases htoken a t ht with h0 | h0
    · simp [h0]
    · exact hheld a t h0 htm htn
  · rcases hsupply with h0 | ⟨v, hv, hle⟩
    · exact Or.inl h0
    · rcases hmint m v hv with hzero | hv'
      · refine Or.inl ?_
        simpa [hzero] using hle
      · exact Or.inr ⟨v, hv', hle⟩

theorem toNat_add {a b : UInt64} (h : a.toNat + b.toNat < 2 ^ 64) :
    (a + b).toNat = a.toNat + b.toNat := by
  rw [UInt64.toNat_add, Nat.mod_eq_of_lt h]

/-- The supply grows with the account. -/
theorem Solvent.mintTo {mint dest : Pubkey} {amount : UInt64}
    (hm : MintAt L mint v) (ht : TokenAt L dest t) (hsame : t.mint = mint)
    (hsupply : v.supply.toNat + amount.toNat < 2 ^ 64)
    (hamount : t.amount.toNat + amount.toNat < 2 ^ 64) (h : Solvent L) :
    Solvent (wrote (wrote L mint (Mint.packed { v with supply := v.supply + amount })) dest
      (TokenAccount.packed { t with amount := t.amount + amount })) := by
  have hne : mint ≠ dest := hm.ne_token ht
  intro m
  obtain ⟨f, supply, hcovered, hheld, hbound⟩ := h m
  by_cases hmm : m = mint
  · subst hmm
    refine ⟨Function.update f dest (f dest + amount.toNat), supply + amount.toNat,
      hcovered.credit (a := dest) ?_ ?_, ?_,
      Or.inr ⟨{ v with supply := v.supply + amount }, ?_, ?_⟩⟩
    · rw [Function.update_self]
    · intro k hk
      rw [Function.update_of_ne hk]
    · intro c u hu hum hun
      by_cases hc : c = dest
      · subst hc
        have hfc := hheld c t ht hsame (by rw [hu.of_wrote] at hun; exact hun)
        rw [hu.of_wrote, Function.update_self]
        simp only
        rw [toNat_add hamount]
        omega
      · rw [Function.update_of_ne hc]
        rw [tokenAt_other hc] at hu
        by_cases hcm : c = m
        · subst hcm
          exact (not_tokenAt_mint hu).elim
        · exact hheld c u ((tokenAt_other hcm).mp hu) hum hun
    · rw [mintAt_other hne]
      exact ⟨by rw [wrote_self]; exact hm.owner, blank 32, blank 32, by rw [wrote_self]; rfl⟩
    · simp only
      rw [toNat_add hsupply]
      rcases hbound with h0 | ⟨v', hv', hle⟩
      · omega
      · rw [hm.unique hv']
        omega
  · refine ⟨f, supply, hcovered, ?_, hbound.imp_right ?_⟩
    · intro c u hu hum hun
      by_cases hc : c = dest
      · subst hc
        rw [hu.of_wrote] at hum
        exact absurd (hum.symm.trans hsame) hmm
      · rw [tokenAt_other hc] at hu
        by_cases hcm : c = mint
        · subst hcm
          exact (not_tokenAt_mint hu).elim
        · exact hheld c u ((tokenAt_other hcm).mp hu) hum hun
    · rintro ⟨v', hv', hle⟩
      refine ⟨v', ?_, hle⟩
      rw [mintAt_other (hv'.ne_token ht), mintAt_other hmm]
      exact hv'

/-- What one account loses the other gains. -/
theorem Solvent.transferred {src dst : Pubkey} {amount : UInt64} (hne : src ≠ dst)
    (ht : TokenAt L src t) (hu : TokenAt L dst u) (hsame : t.mint = u.mint)
    (henough : amount ≤ t.amount) (hfits : u.amount.toNat + amount.toNat < 2 ^ 64)
    (htn : t.isNative = none) (h : Solvent L) :
    Solvent (wrote (wrote L src (TokenAccount.packed { t with amount := t.amount - amount })) dst
      (TokenAccount.packed { u with amount := u.amount + amount })) := by
  have hle := UInt64.le_iff_toNat_le.mp henough
  intro m
  obtain ⟨f, supply, hcovered, hheld, hbound⟩ := h m
  have hbound' : supply = 0 ∨ ∃ v, MintAt (wrote (wrote L src
      (TokenAccount.packed { t with amount := t.amount - amount })) dst
      (TokenAccount.packed { u with amount := u.amount + amount })) m v ∧
        supply ≤ v.supply.toNat := by
    refine hbound.imp_right ?_
    rintro ⟨v, hv, hsupply⟩
    refine ⟨v, ?_, hsupply⟩
    rw [mintAt_other (hv.ne_token hu), mintAt_other (hv.ne_token ht)]
    exact hv
  by_cases hmm : t.mint = m
  · have hft := hheld src t ht hmm htn
    refine ⟨Function.update (Function.update f src (f src - amount.toNat)) dst
      (f dst + amount.toNat), supply, hcovered.move hne ?_ ?_, ?_, hbound'⟩
    · rw [Function.update_self, Function.update_of_ne hne, Function.update_self]
      omega
    · intro k hk hk'
      rw [Function.update_of_ne hk', Function.update_of_ne hk]
    · intro c w hw hwm hwn
      by_cases hc : c = dst
      · subst hc
        have hfu := hheld c u hu (hsame.symm.trans hmm) (by rw [hw.of_wrote] at hwn; exact hwn)
        rw [hw.of_wrote, Function.update_self]
        simp only
        rw [toNat_add hfits]
        omega
      · rw [tokenAt_other hc] at hw
        rw [Function.update_of_ne hc]
        by_cases hcs : c = src
        · subst hcs
          rw [hw.of_wrote, Function.update_self]
          simp only
          rw [UInt64.toNat_sub_of_le _ _ henough]
          omega
        · rw [Function.update_of_ne hcs]
          exact hheld c w ((tokenAt_other hcs).mp hw) hwm hwn
  · refine ⟨f, supply, hcovered, ?_, hbound'⟩
    intro c w hw hwm hwn
    by_cases hc : c = dst
    · subst hc
      rw [hw.of_wrote] at hwm
      exact absurd (hsame.trans hwm) hmm
    · rw [tokenAt_other hc] at hw
      by_cases hcs : c = src
      · subst hcs
        rw [hw.of_wrote] at hwm
        exact absurd hwm hmm
      · exact hheld c w ((tokenAt_other hcs).mp hw) hwm hwn

end Amounts

/-! ## The promises are kept -/

section Kept

variable {D : Derivation} {rent : Rent} {S : List Pubkey} {L L' : Ledger} {ix : Instruction}
  {req : Request} {a m : Pubkey} {v : Mint} {t : TokenAccount}

/-- `create_account` gives its payer's data and owner back. -/
theorem apply_data_owner {call : CreateAccount} (h : a ≠ call.target) :
    (call.apply L a).data = (L a).data ∧ (call.apply L a).owner = (L a).owner := by
  rw [CreateAccount.apply, Function.update_of_ne h]
  exact update_lamports L call.source a _

theorem createdAta_data_owner {funder ata wallet : Pubkey} (h : a ≠ ata) :
    (createdAta rent L funder ata wallet m a).data = (L a).data ∧
      (createdAta rent L funder ata wallet m a).owner = (L a).owner := by
  rw [createdAta, Function.update_of_ne h]
  exact update_lamports L funder a _

theorem tokenAt_createdAta {funder ata wallet : Pubkey} :
    TokenAt (createdAta rent L funder ata wallet m) ata (holding wallet m 0) := by
  refine ⟨?_, blank 32, blank 8, blank 32, ?_⟩
  · rw [createdAta, Function.update_self]
  · rw [createdAta, Function.update_self]
    rfl

theorem not_mintAt_absent (h : L a = .absent) : ¬ MintAt L a v := by
  intro hv
  exact hv.not_absent h

theorem Done.solvent (h : Done D rent S L req L') (hL : Solvent L) : Solvent L' := by
  cases h with
  | @createAccount source new lamports space owner _ _ _ vacant =>
    refine hL.added (fun a t ht => ?_) (fun m v hv => Or.inr ?_)
    · by_cases ha : a = new
      · subst ha
        exact Or.inl (ht.amount_of_zeros (by rw [CreateAccount.apply_target]))
      · have hsame := @apply_data_owner L a ⟨source, new, lamports.toNat, space.toNat, owner⟩ ha
        exact Or.inr (ht.congr hsame.1.symm hsame.2.symm)
    · have hm : m ≠ new := by
        rintro rfl
        exact not_mintAt_absent vacant hv
      have hsame := @apply_data_owner L m ⟨source, new, lamports.toNat, space.toNat, owner⟩ hm
      exact hv.congr hsame.1 hsame.2
  | @initializeMint2 mint decimals authority freeze _ unused =>
    refine hL.added (fun a t ht => Or.inr ?_) (fun m v hv => ?_)
    · by_cases ha : a = mint
      · subst ha
        exact (not_tokenAt_mint ht).elim
      · exact (tokenAt_other ha).mp ht
    · by_cases hm : m = mint
      · subst hm
        exact Or.inl (hv.supply_of_zeros unused)
      · exact Or.inr ((mintAt_other hm).mpr hv)
  | mintTo mintAt tokenAt same _ _ supplyFits amountFits =>
    exact hL.mintTo mintAt tokenAt same supplyFits amountFits
  | transferChecked ne srcAt dstAt srcMint dstMint native _ _ enough fits =>
    exact hL.transferred ne srcAt dstAt (srcMint.trans dstMint.symm) enough fits native
  | @createAta funder ata wallet mint _ _ _ _ _ _ vacant =>
    refine hL.added (fun a t ht => ?_) (fun m v hv => Or.inr ?_)
    · by_cases ha : a = ata
      · subst ha
        rw [ht.unique tokenAt_createdAta]
        exact Or.inl rfl
      · have hsame := @createdAta_data_owner rent L a mint funder ata wallet ha
        exact Or.inr (ht.congr hsame.1.symm hsame.2.symm)
    · have hm : m ≠ ata := by
        rintro rfl
        exact vacant.not_mint hv
      have hsame := @createdAta_data_owner rent L m mint funder ata wallet hm
      exact hv.congr hsame.1 hsame.2

/-- **The programs keep their promises.** -/
theorem programs : Programs (cluster D rent) where
  createAccount_ok := by
    intro S ix L L' source new lamports space owner h hne hx
    cases done_of_asks h hx with
    | createAccount => rfl
  createAccount_succeeds := by
    intro S ix L source new lamports space owner hS _ h hne hsource hnew hwallet habsent hfunds
      hspace
    refine execute_succeeds hS h ?_
    simp only [perform]
    rw [if_pos ⟨hsource, hnew, hne, habsent, hwallet, hfunds, hspace⟩]
    exact ⟨_, rfl⟩
  initializeMint2_ok := by
    intro S ix L L' m decimals authority freeze h howner hdata hx
    cases done_of_asks h hx with
    | initializeMint2 => exact ⟨blank 32, blank 32, rfl⟩
  initializeMint2_succeeds := by
    intro S ix L m decimals authority freeze hS _ h howner hdata hrent
    refine execute_succeeds hS h ?_
    simp only [perform]
    rw [if_pos ⟨howner, hdata, hrent⟩]
    exact ⟨_, rfl⟩
  mintTo_ok := by
    intro S ix L L' m dest authority amount v t h hm ht hn hx
    cases done_of_asks h hx with
    | mintTo mintAt tokenAt same authorised signed supplyFits amountFits =>
      cases hm.unique mintAt
      cases ht.unique tokenAt
      exact ⟨supplyFits, blank 32, blank 32, blank 32, blank 8, blank 32, rfl⟩
  mintTo_succeeds := by
    intro S ix L m dest authority amount v t hS _ h hm hinit hauth ht hsame hstate hn hsigned
      hwallet hsupply hamount
    refine execute_succeeds hS h ?_
    simp only [perform, readMint_eq_some.mpr hm, readToken_eq_some.mpr ht]
    rw [if_pos ⟨hinit, hauth, hsame, hstate, hn, hsigned, hwallet, hsupply, hamount⟩]
    exact ⟨_, rfl⟩
  transferChecked_ok := by
    intro S ix L L' src m dst authority amount decimals t u h hne ht howner hd hn hu hun hx
    cases done_of_asks h hx with
    | transferChecked ne srcAt dstAt srcMint dstMint native owned signed enough fits =>
      cases ht.unique srcAt
      cases hu.unique dstAt
      exact ⟨enough, fits, blank 32, blank 8, blank 32, blank 32, blank 8, blank 32, rfl⟩
  transferChecked_succeeds := by
    intro S ix L src m dst authority amount decimals v t u hS _ h hne hm hinit hdec ht htm howner hd
      hstate hn hu hum hustate hun hsigned hwallet henough hfits
    refine execute_succeeds hS h ?_
    simp only [perform, readMint_eq_some.mpr hm, readToken_eq_some.mpr ht,
      readToken_eq_some.mpr hu]
    rw [if_pos ⟨hne, hinit, hdec, htm, howner, hd, hstate, hn, hum, hustate, hun, hsigned,
      hwallet, henough, hfits⟩]
    exact ⟨_, rfl⟩
  transferChecked_absent := by
    intro S ix L src m dst authority amount decimals h hempty
    rcases hx : (cluster D rent).execute S ix L with e | L'
    · exact ⟨e, rfl⟩
    · cases done_of_asks h hx with
      | transferChecked ne srcAt dstAt =>
        have hlen := dstAt.length
        simp [hempty] at hlen
  createAta_ok := by
    intro S ix L L' funder ata wallet m v h hne hm hauth hwallet hx
    cases done_of_asks h hx with
    | createAta ne derived mintAt signed payer vacant =>
      have hsame := @createdAta_data_owner rent L funder m funder ata wallet hne
      refine ⟨vacant.data, tokenAt_createdAta, ?_, hwallet.congr hsame.1 hsame.2, ?_, ?_⟩
      · rw [createdAta, Function.update_self]
        show rent.minimumBalance 165 ≤
          (L ata).lamports + (rent.minimumBalance 165 - (L ata).lamports)
        omega
      · rw [createdAta, Function.update_of_ne hne, Function.update_self]
        show _ ≤ (L funder).lamports - _ + rent.minimumBalance 165
        omega
      · intro a ha hata
        rw [createdAta, Function.update_of_ne hata, Function.update_of_ne ha]
  createAta_succeeds := by
    intro S ix L funder ata wallet m v hS _ h hne hderived hm hinit hauth hsigned hpayer hvacant
      hrent
    refine execute_succeeds hS h ?_
    simp only [perform, readMint_eq_some.mpr hm]
    rw [if_pos ⟨hne, hderived, hinit, hauth, hsigned, hpayer, hvacant, hrent⟩]
    exact ⟨_, rfl⟩
  solvent := by
    intro S ix L L' hx hL
    obtain ⟨-, req, -, hdone⟩ := execute_ok hx
    exact hdone.solvent hL

/-! ### What is not touched -/

theorem le_add {x y : UInt64} (h : x.toNat + y.toNat < 2 ^ 64) : x ≤ x + y := by
  rw [UInt64.le_iff_toNat_le, toNat_add h]
  exact Nat.le_add_right _ _

/-- Which accounts a request touches: those that sign, those with data of the token program, and
an associated account that is created. -/
theorem Done.touched (h : Done D rent S L req L') (a : Pubkey) :
    L' a = L a ∨ a ∈ S ∨ (L a).owner = tokenProgram ∧ (L a).data ≠ [] ∨
      ∃ wallet mint v, deriveAta D wallet mint = some a ∧ MintAt L mint v ∧
        TokenAt L' a (holding wallet mint 0) := by
  have hdata : ∀ {c n}, (L c).data.length = n + 1 → (L c).data ≠ [] := by
    intro c n hlen hc
    simp [hc] at hlen
  cases h with
  | @createAccount source new _ _ _ payer signed _ _ =>
    by_cases hs : a = source
    · exact Or.inr (Or.inl (hs ▸ payer))
    · by_cases hn : a = new
      · exact Or.inr (Or.inl (hn ▸ signed))
      · refine Or.inl ?_
        rw [CreateAccount.apply, Function.update_of_ne hn, Function.update_of_ne hs]
  | @initializeMint2 mint _ _ _ owned unused =>
    by_cases hm : a = mint
    · subst hm
      exact Or.inr (Or.inr (Or.inl ⟨owned, hdata (n := 81) (by rw [unused]; rfl)⟩))
    · exact Or.inl (wrote_other hm)
  | @mintTo mint dest _ _ _ _ mintAt tokenAt =>
    by_cases hd : a = dest
    · subst hd
      exact Or.inr (Or.inr (Or.inl ⟨tokenAt.owner, hdata tokenAt.length⟩))
    · by_cases hm : a = mint
      · subst hm
        exact Or.inr (Or.inr (Or.inl ⟨mintAt.owner, hdata mintAt.length⟩))
      · exact Or.inl ((wrote_other hd).trans (wrote_other hm))
  | @transferChecked src _ dst _ _ _ _ _ _ srcAt dstAt =>
    by_cases hd : a = dst
    · subst hd
      exact Or.inr (Or.inr (Or.inl ⟨dstAt.owner, hdata dstAt.length⟩))
    · by_cases hs : a = src
      · subst hs
        exact Or.inr (Or.inr (Or.inl ⟨srcAt.owner, hdata srcAt.length⟩))
      · exact Or.inl ((wrote_other hd).trans (wrote_other hs))
  | @createAta funder ata wallet mint v _ derived mintAt signed _ _ =>
    by_cases hata : a = ata
    · subst hata
      exact Or.inr (Or.inr (Or.inr ⟨wallet, mint, v, derived, mintAt, tokenAt_createdAta⟩))
    · by_cases hf : a = funder
      · exact Or.inr (Or.inl (hf ▸ signed))
      · refine Or.inl ?_
        rw [createdAta, Function.update_of_ne hata, Function.update_of_ne hf]

/-- A mint changes with the signature of its authority. -/
theorem Done.mint (h : Done D rent S L req L') (hv : MintAt L m v) (hfree : Free v) :
    MintAt L' m v ∨ ∃ authority ∈ S, v.mintAuthority = some authority := by
  cases h with
  | @createAccount source new lamports space owner _ _ _ vacant =>
    have hm : m ≠ new := by
      rintro rfl
      exact not_mintAt_absent vacant hv
    have hsame := @apply_data_owner L m ⟨source, new, lamports.toNat, space.toNat, owner⟩ hm
    exact Or.inl (hv.congr hsame.1 hsame.2)
  | @initializeMint2 mint _ _ _ _ unused =>
    have hm : m ≠ mint := by
      rintro rfl
      have hinit := hfree.isInitialized
      rw [← hv.read, unused] at hinit
      exact absurd hinit (by decide)
    exact Or.inl ((mintAt_other hm).mpr hv)
  | @mintTo mint dest authority _ _ _ mintAt tokenAt _ authorised signed =>
    by_cases hm : m = mint
    · subst hm
      rw [hv.unique mintAt]
      exact Or.inr ⟨authority, signed, authorised⟩
    · exact Or.inl ((mintAt_other (hv.ne_token tokenAt)).mpr ((mintAt_other hm).mpr hv))
  | transferChecked _ srcAt dstAt =>
    exact Or.inl ((mintAt_other (hv.ne_token dstAt)).mpr
      ((mintAt_other (hv.ne_token srcAt)).mpr hv))
  | @createAta funder ata wallet mint _ _ _ _ _ _ vacant =>
    have hm : m ≠ ata := by
      rintro rfl
      exact vacant.not_mint hv
    have hsame := @createdAta_data_owner rent L m mint funder ata wallet hm
    exact Or.inl (hv.congr hsame.1 hsame.2)

/-- An amount shrinks with the signature of its owner. -/
theorem Done.token (h : Done D rent S L req L') (ht : TokenAt L a t) :
    t.owner ∈ S ∨ ∃ more, t.amount ≤ more ∧ TokenAt L' a { t with amount := more } := by
  have hkept : TokenAt L' a t → ∃ more, t.amount ≤ more ∧ TokenAt L' a { t with amount := more } :=
    fun h => ⟨t.amount, UInt64.le_refl _, h⟩
  cases h with
  | @createAccount source new lamports space owner _ _ _ vacant =>
    have ha : a ≠ new := by
      rintro rfl
      exact ht.not_absent vacant
    have hsame := @apply_data_owner L a ⟨source, new, lamports.toNat, space.toNat, owner⟩ ha
    exact Or.inr (hkept (ht.congr hsame.1 hsame.2))
  | @initializeMint2 mint _ _ _ _ unused =>
    have ha : a ≠ mint := by
      rintro rfl
      have hlen := ht.length
      rw [unused, List.length_replicate] at hlen
      omega
    exact Or.inr (hkept ((tokenAt_other ha).mpr ht))
  | @mintTo mint dest _ amount _ _ mintAt tokenAt _ _ _ _ amountFits =>
    by_cases ha : a = dest
    · subst ha
      cases ht.unique tokenAt
      refine Or.inr ⟨t.amount + amount, le_add amountFits, ?_, blank 32, blank 8, blank 32, ?_⟩
      · rw [wrote_self, wrote_other (mintAt.ne_token ht).symm]
        exact ht.owner
      · rw [wrote_self]
        rfl
    · exact Or.inr (hkept ((tokenAt_other ha).mpr
        ((tokenAt_other (mintAt.ne_token ht).symm).mpr ht)))
  | @transferChecked src _ dst _ amount _ _ _ ne srcAt dstAt _ _ _ owned signed _ fits =>
    by_cases ha : a = dst
    · subst ha
      cases ht.unique dstAt
      refine Or.inr ⟨t.amount + amount, le_add fits, ?_, blank 32, blank 8, blank 32, ?_⟩
      · rw [wrote_self, wrote_other ne.symm]
        exact ht.owner
      · rw [wrote_self]
        rfl
    · by_cases has : a = src
      · subst has
        cases ht.unique srcAt
        exact Or.inl (owned ▸ signed)
      · exact Or.inr (hkept ((tokenAt_other ha).mpr ((tokenAt_other has).mpr ht)))
  | @createAta funder ata wallet mint _ _ _ _ _ _ vacant =>
    have ha : a ≠ ata := by
      rintro rfl
      exact vacant.not_token ht
    have hsame := @createdAta_data_owner rent L a mint funder ata wallet ha
    exact Or.inr (hkept (ht.congr hsame.1 hsame.2))

/-- Two accounts at one address are of one wallet and one mint. -/
theorem deriveAta_inj {w w' m' : Pubkey} (hD : NoCollision D Set.univ)
    (h : deriveAta D w m = some a) (h' : deriveAta D w' m' = some a) : w = w' ∧ m = m' := by
  obtain ⟨⟨a₁, bump⟩, hfind, rfl⟩ := Option.map_eq_some_iff.mp h
  obtain ⟨⟨a₂, bump'⟩, hfind', ha⟩ := Option.map_eq_some_iff.mp h'
  cases ha
  have hD' : NoCollision D (candidates [w.bytes, tokenProgram.bytes, m.bytes] ataProgram ∪
      candidates [w'.bytes, tokenProgram.bytes, m'.bytes] ataProgram) :=
    fun s hs s' hs' heq => hD ⟨Set.mem_univ s, hs.2⟩ ⟨Set.mem_univ s', hs'.2⟩ heq
  have hkeys := keys_inj (preimage_eq_of_address_eq hD' hfind hfind')
  exact ⟨hkeys.1, hkeys.2.2⟩

/-- **Every point of the curve is a key pair**, if the hash does not collide. -/
theorem keyPair {w : Pubkey} (hw : D.isOnCurve w = true) (hD : NoCollision D Set.univ) :
    KeyPair (cluster D rent) w where
  isOnCurve := hw
  wallet := by
    intro S ix L L' hx hS hwallet
    obtain ⟨-, req, -, hdone⟩ := execute_ok hx
    rcases hdone.touched w with hsame | hsigned | ⟨howner, -⟩ | ⟨wallet, mint, v, hderived, -⟩
    · exact ⟨hwallet.congr (by rw [hsame]) (by rw [hsame]), by rw [hsame]⟩
    · exact absurd hsigned hS
    · exact absurd (howner.symm.trans hwallet.owner) programs_differ.1
    · have hoff := (deriveAta_isPda hderived).isOnCurve
      simp [hw] at hoff
  mint := by
    intro S ix L L' m v hx hS hwallet hv hfree hauth
    obtain ⟨-, req, -, hdone⟩ := execute_ok hx
    rcases hdone.mint hv hfree with hkept | ⟨authority, hsigned, hauthority⟩
    · exact ⟨v.supply, UInt64.le_refl _, hkept⟩
    · rw [hauth] at hauthority
      cases hauthority
      exact absurd hsigned hS
  token := by
    intro S ix L L' a m v amount hx hS hwallet hv hfree ht
    obtain ⟨-, req, -, hdone⟩ := execute_ok hx
    exact (hdone.token ht).resolve_left hS
  ata := by
    intro S ix L L' a m v hx hS hderived hv hfree hempty
    obtain ⟨hcurve, req, -, hdone⟩ := execute_ok hx
    rcases hdone.touched a with hsame | hsigned | ⟨-, hdata⟩ |
      ⟨wallet, mint, v', hderived', -, htoken⟩
    · exact Or.inl (by rw [hsame, hempty])
    · have hoff := (deriveAta_isPda hderived).isOnCurve
      have hon := hcurve a hsigned
      exact absurd (hon.symm.trans hoff) (by decide)
    · exact absurd hempty hdata
    · obtain ⟨rfl, rfl⟩ := deriveAta_inj hD hderived hderived'
      exact Or.inr ⟨0, htoken⟩
  unminted := by
    intro S ix L L' wallet a hx hS hwallet hderived hempty
    obtain ⟨hcurve, req, -, hdone⟩ := execute_ok hx
    rcases hdone.touched a with hsame | hsigned | ⟨-, hdata⟩ |
      ⟨wallet', mint, v', hderived', hmint, -⟩
    · rw [hsame, hempty]
    · have hoff := (deriveAta_isPda hderived).isOnCurve
      have hon := hcurve a hsigned
      exact absurd (hon.symm.trans hoff) (by decide)
    · exact absurd hempty hdata
    · obtain ⟨-, rfl⟩ := deriveAta_inj hD hderived hderived'
      exact (hwallet.not_mint hmint).elim

end Kept

end BootcampSolana.SplToken
