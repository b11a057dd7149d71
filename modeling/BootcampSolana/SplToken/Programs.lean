import BootcampSolana.Clients.TokenLayout
import BootcampSolana.Clients.WireFormat
import BootcampSolana.Lib.Ledger
import BootcampSolana.Solana.Cluster

/-!
# What the token programs promise

The clients of `06-spl-token` call three programs that are not part of this development: the
System Program, SPL Token and the Associated Token Account program. What the exercise relies on is
stated here, as properties of a `Cluster`.

* `Asks` — which bytes and accounts ask a program for what
* `Programs` — what an instruction that is executed has done, and which ones are executed
* `KeyPair` — what is not done in the name of a key that has not signed
* `Solvent` — the token accounts of a mint hold no more than its supply

`BootcampSolana.SplToken.Implementation` has programs that keep all of it.
-/

namespace BootcampSolana.SplToken

/-- `pk(TOKEN)`. -/
def tokenProgram : Pubkey := pk TOKEN isSome_token

/-- `pk(ATA)`. -/
def ataProgram : Pubkey := pk ATA isSome_ata

/-! ## What is on a ledger -/

/-- System-owned, zero data. -/
structure IsWallet (L : Ledger) (a : Pubkey) : Prop where
  owner : (L a).owner = systemProgramId
  data : (L a).data = []

structure MintAt (L : Ledger) (m : Pubkey) (v : Mint) : Prop where
  owner : (L m).owner = tokenProgram
  packed : ∃ s₁ s₂, (L m).data = v.pack s₁ s₂

structure TokenAt (L : Ledger) (a : Pubkey) (v : TokenAccount) : Prop where
  owner : (L a).owner = tokenProgram
  packed : ∃ s₁ s₂ s₃, (L a).data = v.pack s₁ s₂ s₃

/-- Other data in the same account. -/
def wrote (L : Ledger) (a : Pubkey) (d : Bytes) : Ledger :=
  Function.update L a { L a with data := d }

/-- A token account of `wallet` with nothing but an amount. -/
def holding (wallet mint : Pubkey) (amount : UInt64) : TokenAccount where
  mint := mint
  owner := wallet
  amount := amount
  delegate := none
  state := .initialized
  isNative := none
  delegatedAmount := 0
  closeAuthority := none

/-- The mint of the exercise. -/
def minted (authority : Pubkey) (supply : UInt64) : Mint where
  mintAuthority := some authority
  supply := supply
  decimals := DECIMALS
  isInitialized := true
  freezeAuthority := none

/--
Whatever token accounts of a mint there are, they hold no more than its supply, and nothing as
long as there is no mint. Wrapped SOL is not counted, it has a mint without a supply.
-/
def Solvent (L : Ledger) : Prop :=
  ∀ m, ∃ (f : Pubkey → ℕ) (supply : ℕ), Covered f supply ∧
    (∀ t v, TokenAt L t v → v.mint = m → v.isNative = none → v.amount.toNat ≤ f t) ∧
    (supply = 0 ∨ ∃ v, MintAt L m v ∧ supply ≤ v.supply.toNat)

section Contents

variable {L L' : Ledger} {a m w : Pubkey} {v v' : Mint} {t t' : TokenAccount} {d : Bytes}

@[simp] theorem wrote_self : wrote L a d a = { L a with data := d } := Function.update_self _ _ _

theorem wrote_other (h : w ≠ a) : wrote L a d w = L w := Function.update_of_ne h _ _

@[simp] theorem wrote_lamports : (wrote L a d w).lamports = (L w).lamports := by
  by_cases h : w = a
  · subst h
    rw [wrote_self]
  · rw [wrote_other h]

theorem MintAt.length (h : MintAt L m v) : (L m).data.length = 82 := by
  obtain ⟨s₁, s₂, hd⟩ := h.packed
  rw [hd, length_pack_mint]

theorem MintAt.read (h : MintAt L m v) : Mint.read (L m).data = v := by
  obtain ⟨s₁, s₂, hd⟩ := h.packed
  rw [hd, read_pack_mint]

theorem MintAt.unique (h : MintAt L m v) (h' : MintAt L m v') : v = v' :=
  h.read.symm.trans h'.read

theorem TokenAt.length (h : TokenAt L a t) : (L a).data.length = 165 := by
  obtain ⟨s₁, s₂, s₃, hd⟩ := h.packed
  rw [hd, length_pack_account]

theorem TokenAt.read (h : TokenAt L a t) (hlen : 165 ≤ (L a).data.length) :
    TokenFields.read (L a).data hlen = t.shown := by
  obtain ⟨s₁, s₂, s₃, hd⟩ := h.packed
  generalize (L a).data = d at hd hlen
  subst hd
  exact read_pack_account hlen

/-- The state is shown by its name, so nothing is lost. -/
theorem TokenAccount.shown_inj (h : t.shown = t'.shown) : t = t' := by
  have hstate : t.shown.state = t'.shown.state := by rw [h]
  obtain ⟨mint, owner, amount, delegate, state, native, delegated, close⟩ := t
  obtain ⟨mint', owner', amount', delegate', state', native', delegated', close'⟩ := t'
  have hs : state = state' := by
    revert hstate
    cases state <;> cases state' <;> simp [TokenAccount.shown]
  simp only [TokenAccount.shown, TokenFields.mk.injEq] at h
  obtain ⟨rfl, rfl, rfl, rfl, -, rfl, rfl, rfl⟩ := h
  rw [hs]

theorem TokenAt.unique (h : TokenAt L a t) (h' : TokenAt L a t') : t = t' :=
  TokenAccount.shown_inj ((h.read (Nat.le_of_eq h.length.symm)).symm.trans (h'.read _))

/-- What the rent of a mint and of a token account is. -/
theorem MintAt.clear {rent : Rent} (h : MintAt L m v)
    (hpaid : rent.minimumBalance 82 ≤ (L m).lamports) : rent.Clear (L m) := by
  refine Or.inr ?_
  rw [h.length]
  exact hpaid

theorem TokenAt.clear {rent : Rent} (h : TokenAt L a t)
    (hpaid : rent.minimumBalance 165 ≤ (L a).lamports) : rent.Clear (L a) := by
  refine Or.inr ?_
  rw [h.length]
  exact hpaid

theorem MintAt.steady {rent : Rent} (h : MintAt L m v) (h' : MintAt L' m v')
    (hl : (L' m).lamports = (L m).lamports) : rent.Steady (L m) (L' m) :=
  Or.inr ⟨hl, h'.length.trans h.length.symm⟩

theorem TokenAt.steady {rent : Rent} (h : TokenAt L a t) (h' : TokenAt L' a t')
    (hl : (L' a).lamports = (L a).lamports) : rent.Steady (L a) (L' a) :=
  Or.inr ⟨hl, h'.length.trans h.length.symm⟩

theorem MintAt.ne_token (h : MintAt L m v) (h' : TokenAt L a t) : m ≠ a := by
  rintro rfl
  have := h.length.symm.trans h'.length
  omega

theorem IsWallet.not_mint (h : IsWallet L m) (h' : MintAt L m v) : False := by
  have := h'.length
  simp [h.data] at this

theorem IsWallet.not_token (h : IsWallet L a) (h' : TokenAt L a t) : False := by
  have := h'.length
  simp [h.data] at this

theorem MintAt.not_absent (h : MintAt L m v) : L m ≠ .absent := by
  intro hc
  have := h.length
  simp [hc, Account.absent] at this

theorem TokenAt.not_absent (h : TokenAt L a t) : L a ≠ .absent := by
  intro hc
  have := h.length
  simp [hc, Account.absent] at this

/-! Nothing here depends on lamports. -/

theorem IsWallet.congr (hd : (L' a).data = (L a).data) (ho : (L' a).owner = (L a).owner)
    (h : IsWallet L a) : IsWallet L' a := ⟨ho.trans h.owner, hd.trans h.data⟩

theorem MintAt.congr (hd : (L' m).data = (L m).data) (ho : (L' m).owner = (L m).owner)
    (h : MintAt L m v) : MintAt L' m v := by
  refine ⟨ho.trans h.owner, ?_⟩
  rw [hd]
  exact h.packed

theorem TokenAt.congr (hd : (L' a).data = (L a).data) (ho : (L' a).owner = (L a).owner)
    (h : TokenAt L a t) : TokenAt L' a t := by
  refine ⟨ho.trans h.owner, ?_⟩
  rw [hd]
  exact h.packed

theorem Solvent.congr (hL : ∀ a, (L' a).data = (L a).data ∧ (L' a).owner = (L a).owner)
    (h : Solvent L) : Solvent L' := by
  intro m
  obtain ⟨f, supply, hcovered, hheld, hsupply⟩ := h m
  refine ⟨f, supply, hcovered, fun t v ht => ?_, ?_⟩
  · exact hheld t v (ht.congr (hL t).1.symm (hL t).2.symm)
  · rcases hsupply with h0 | ⟨v, hv, hle⟩
    · exact Or.inl h0
    · exact Or.inr ⟨v, hv.congr (hL m).1 (hL m).2, hle⟩

/-- An account of a mint does not hold more than its supply. -/
theorem Solvent.single (h : Solvent L) (hm : MintAt L m v) (ht : TokenAt L a t) (htm : t.mint = m)
    (htn : t.isNative = none) : t.amount ≤ v.supply := by
  obtain ⟨f, supply, hcovered, hheld, hsupply⟩ := h m
  have hle := hcovered.single a
  have hft := hheld a t ht htm htn
  rw [UInt64.le_iff_toNat_le]
  rcases hsupply with h0 | ⟨v', hv', hle'⟩
  · omega
  · rw [hm.unique hv']
    omega

/-- And two of them do not. -/
theorem Solvent.pair {b : Pubkey} {u : TokenAccount} (h : Solvent L) (hm : MintAt L m v)
    (ht : TokenAt L a t) (hu : TokenAt L b u) (hne : a ≠ b) (htm : t.mint = m) (hum : u.mint = m)
    (htn : t.isNative = none) (hun : u.isNative = none) :
    t.amount.toNat + u.amount.toNat ≤ v.supply.toNat := by
  obtain ⟨f, supply, hcovered, hheld, hsupply⟩ := h m
  have hpair := hcovered.pair hne
  have hft := hheld a t ht htm htn
  have hfu := hheld b u hu hum hun
  rcases hsupply with h0 | ⟨v', hv', hle⟩
  · omega
  · rw [hm.unique hv']
    omega

end Contents

/-! ## Requests -/

inductive Request where
  | createAccount (source new : Pubkey) (lamports space : UInt64) (owner : Pubkey)
  | initializeMint2 (mint : Pubkey) (decimals : UInt8) (authority : Pubkey) (freeze : Option Pubkey)
  | mintTo (mint dest authority : Pubkey) (amount : UInt64)
  | transferChecked (src mint dst authority : Pubkey) (amount : UInt64) (decimals : UInt8)
  | createAta (funder ata wallet mint : Pubkey)
  deriving DecidableEq

/-- The data is read by the grammars of the READMEs, and the accounts come in this order. -/
inductive Asks : Instruction → Request → Prop where
  | createAccount {data : Bytes} {source new : Pubkey} {lamports space : UInt64} {owner : Pubkey}
      (decoded : Wire.system.decode data = some (.createAccount lamports space owner)) :
      Asks ⟨systemProgramId, [.new source true, .new new true], data⟩
        (.createAccount source new lamports space owner)
  | initializeMint2 {data : Bytes} {mint : Pubkey} {decimals : UInt8} {authority : Pubkey}
      {freeze : Option Pubkey}
      (decoded : Wire.token.decode data = some (.initializeMint2 decimals authority freeze)) :
      Asks ⟨tokenProgram, [.new mint false], data⟩ (.initializeMint2 mint decimals authority freeze)
  | mintTo {data : Bytes} {mint dest authority : Pubkey} {amount : UInt64}
      (decoded : Wire.token.decode data = some (.mintTo amount)) :
      Asks ⟨tokenProgram, [.new mint false, .new dest false, .newReadonly authority true], data⟩
        (.mintTo mint dest authority amount)
  | transferChecked {data : Bytes} {src mint dst authority : Pubkey} {amount : UInt64}
      {decimals : UInt8}
      (decoded : Wire.token.decode data = some (.transferChecked amount decimals)) :
      Asks ⟨tokenProgram, [.new src false, .newReadonly mint false, .new dst false,
          .newReadonly authority true], data⟩
        (.transferChecked src mint dst authority amount decimals)
  | createAta {funder ata wallet mint : Pubkey} :
      Asks ⟨ataProgram, [.new funder true, .new ata false, .newReadonly wallet false,
          .newReadonly mint false, .newReadonly systemProgramId false,
          .newReadonly tokenProgram false], [0]⟩
        (.createAta funder ata wallet mint)

section Encoders

variable {source new owner mint authority dest src dst : Pubkey} {lamports space amount : UInt64}
  {freeze : Option Pubkey}

theorem asks_sysCreateAccount : Asks (sysCreateAccount source new lamports space owner)
    (.createAccount source new lamports space owner) := by
  have hsystem : pk SYSTEM isSome_system = systemProgramId :=
    Option.get_of_eq_some _ fromStr_system
  have hdata := Codec.decode_eq_some.mpr
    (Wire.Builds.splCreateAccount source new lamports space owner).data_eq
  have h := @Asks.createAccount _ source new _ _ _ hdata
  rwa [← hsystem] at h

theorem asks_initializeMint2 : Asks (initializeMint2 mint authority freeze)
    (.initializeMint2 mint DECIMALS authority freeze) :=
  .initializeMint2 (Codec.decode_eq_some.mpr
    (Wire.Builds.splInitializeMint2 mint authority freeze).data_eq)

theorem asks_mintTo : Asks (mintTo mint dest authority amount)
    (.mintTo mint dest authority amount) :=
  .mintTo (Codec.decode_eq_some.mpr (Wire.Builds.splMintTo mint dest authority amount).data_eq)

theorem asks_transferChecked : Asks (transferChecked src mint dst authority amount)
    (.transferChecked src mint dst authority amount DECIMALS) :=
  .transferChecked (Codec.decode_eq_some.mpr
    (Wire.Builds.splTransferChecked src mint dst authority amount).data_eq)

end Encoders

theorem deriveAta_isPda {D : Derivation} {w m a : Pubkey} (h : deriveAta D w m = some a) :
    IsPda D ataProgram a := by
  obtain ⟨⟨a', bump⟩, hfind, rfl⟩ := Option.map_eq_some_iff.mp h
  exact findProgramAddress_isPda hfind

/-! ## Promises -/

section Promises

variable {E : Type}

/-- Only a point of the curve has a key to sign with. -/
def Signed (C : Cluster E) (S : List Pubkey) : Prop := ∀ a ∈ S, C.derivation.isOnCurve a = true

/-- What the instructions of the exercise do, and when they are executed. -/
structure Programs (C : Cluster E) : Prop where
  createAccount_ok : ∀ {S ix L L' source new lamports space owner},
    Asks ix (.createAccount source new lamports space owner) → source ≠ new →
    C.execute S ix L = .ok L' →
    L' = CreateAccount.apply ⟨source, new, lamports.toNat, space.toNat, owner⟩ L
  createAccount_succeeds : ∀ {S ix L source new lamports space owner},
    Signed C S → C.Grants ix → Asks ix (.createAccount source new lamports space owner) →
    source ≠ new → source ∈ S → new ∈ S → IsWallet L source → L new = .absent →
    lamports.toNat ≤ (L source).lamports → space.toNat ≤ maxPermittedDataIncrease →
    ∃ L', C.execute S ix L = .ok L'
  initializeMint2_ok : ∀ {S ix L L' m decimals authority freeze},
    Asks ix (.initializeMint2 m decimals authority freeze) →
    (L m).owner = tokenProgram → (L m).data = List.replicate 82 0 →
    C.execute S ix L = .ok L' →
    ∃ s₁ s₂, L' = wrote L m (Mint.pack ⟨some authority, 0, decimals, true, freeze⟩ s₁ s₂)
  initializeMint2_succeeds : ∀ {S ix L m decimals authority freeze},
    Signed C S → C.Grants ix → Asks ix (.initializeMint2 m decimals authority freeze) →
    (L m).owner = tokenProgram → (L m).data = List.replicate 82 0 →
    C.rent.minimumBalance 82 ≤ (L m).lamports →
    ∃ L', C.execute S ix L = .ok L'
  mintTo_ok : ∀ {S ix L L' m dest authority amount v t},
    Asks ix (.mintTo m dest authority amount) →
    MintAt L m v → TokenAt L dest t → t.isNative = none →
    C.execute S ix L = .ok L' →
    v.supply.toNat + amount.toNat < 2 ^ 64 ∧ ∃ s₁ s₂ s₃ s₄ s₅,
      L' = wrote (wrote L m (Mint.pack { v with supply := v.supply + amount } s₁ s₂)) dest
        (TokenAccount.pack { t with amount := t.amount + amount } s₃ s₄ s₅)
  mintTo_succeeds : ∀ {S ix L m dest authority amount v t},
    Signed C S → C.Grants ix → Asks ix (.mintTo m dest authority amount) →
    MintAt L m v → v.isInitialized = true → v.mintAuthority = some authority →
    TokenAt L dest t → t.mint = m → t.state = .initialized → t.isNative = none →
    authority ∈ S → IsWallet L authority →
    v.supply.toNat + amount.toNat < 2 ^ 64 → t.amount.toNat + amount.toNat < 2 ^ 64 →
    ∃ L', C.execute S ix L = .ok L'
  transferChecked_ok : ∀ {S ix L L' src m dst authority amount decimals t u},
    Asks ix (.transferChecked src m dst authority amount decimals) → src ≠ dst →
    TokenAt L src t → t.owner = authority → t.delegate = none → t.isNative = none →
    TokenAt L dst u → u.isNative = none →
    C.execute S ix L = .ok L' →
    amount ≤ t.amount ∧ u.amount.toNat + amount.toNat < 2 ^ 64 ∧ ∃ s₁ s₂ s₃ s₄ s₅ s₆,
      L' = wrote (wrote L src (TokenAccount.pack { t with amount := t.amount - amount } s₁ s₂ s₃))
        dst (TokenAccount.pack { u with amount := u.amount + amount } s₄ s₅ s₆)
  transferChecked_succeeds : ∀ {S ix L src m dst authority amount decimals v t u},
    Signed C S → C.Grants ix → Asks ix (.transferChecked src m dst authority amount decimals) →
    src ≠ dst → MintAt L m v → v.isInitialized = true → v.decimals = decimals →
    TokenAt L src t → t.mint = m → t.owner = authority → t.delegate = none →
    t.state = .initialized → t.isNative = none →
    TokenAt L dst u → u.mint = m → u.state = .initialized → u.isNative = none →
    authority ∈ S → IsWallet L authority →
    amount ≤ t.amount → u.amount.toNat + amount.toNat < 2 ^ 64 →
    ∃ L', C.execute S ix L = .ok L'
  /-- A derivable address is not an account. -/
  transferChecked_absent : ∀ {S ix L src m dst authority amount decimals},
    Asks ix (.transferChecked src m dst authority amount decimals) → (L dst).data = [] →
    ∃ e, C.execute S ix L = .error e
  /-- An account is created once, and for a mint that has an authority it is an ordinary one. -/
  createAta_ok : ∀ {S ix L L' funder ata wallet m v},
    Asks ix (.createAta funder ata wallet m) → funder ≠ ata →
    MintAt L m v → v.mintAuthority ≠ none → IsWallet L funder →
    C.execute S ix L = .ok L' →
    (L ata).data = [] ∧ TokenAt L' ata (holding wallet m 0) ∧
      C.rent.minimumBalance 165 ≤ (L' ata).lamports ∧ IsWallet L' funder ∧
      (L funder).lamports ≤ (L' funder).lamports + C.rent.minimumBalance 165 ∧
      ∀ a, a ≠ funder → a ≠ ata → L' a = L a
  createAta_succeeds : ∀ {S ix L funder ata wallet m v},
    Signed C S → C.Grants ix → Asks ix (.createAta funder ata wallet m) → funder ≠ ata →
    deriveAta C.derivation wallet m = some ata →
    MintAt L m v → v.isInitialized = true → v.mintAuthority ≠ none →
    funder ∈ S → IsWallet L funder → IsWallet L ata →
    C.rent.minimumBalance 165 ≤ (L funder).lamports →
    ∃ L', C.execute S ix L = .ok L'
  /-- The token program's arithmetic keeps mints and accounts in step. -/
  solvent : ∀ {S ix L L'}, C.execute S ix L = .ok L' → Solvent L → Solvent L'

/-- A mint that nobody can freeze accounts of. -/
structure Free (v : Mint) : Prop where
  isInitialized : v.isInitialized = true
  mintAuthority : v.mintAuthority ≠ none
  freezeAuthority : v.freezeAuthority = none

/--
`w` is the public key of a key pair. An instruction that is executed without its signature leaves
alone what is in its name: its wallet, its mints and its token accounts. Tokens may arrive.
-/
structure KeyPair (C : Cluster E) (w : Pubkey) : Prop where
  isOnCurve : C.derivation.isOnCurve w = true
  wallet : ∀ {S ix L L'}, C.execute S ix L = .ok L' → w ∉ S → IsWallet L w →
    IsWallet L' w ∧ (L w).lamports ≤ (L' w).lamports
  /-- Without its authority a supply does not grow. The holders can burn what they have. -/
  mint : ∀ {S ix L L' m v}, C.execute S ix L = .ok L' → w ∉ S → IsWallet L w →
    MintAt L m v → Free v → v.mintAuthority = some w →
    ∃ supply ≤ v.supply, MintAt L' m { v with supply }
  /-- Without its owner an amount does not shrink. -/
  token : ∀ {S ix L L' a m v amount}, C.execute S ix L = .ok L' → w ∉ S → IsWallet L w →
    MintAt L m v → Free v → TokenAt L a (holding w m amount) →
    ∃ more, amount ≤ more ∧ TokenAt L' a (holding w m more)
  /-- An associated token account of a mint is empty or of its wallet. -/
  ata : ∀ {S ix L L' a m v}, C.execute S ix L = .ok L' → w ∉ S →
    deriveAta C.derivation w m = some a → MintAt L m v → Free v → (L a).data = [] →
    (L' a).data = [] ∨ ∃ amount, TokenAt L' a (holding w m amount)
  /-- And it is empty as long as `w` is the address of a mint to come. -/
  unminted : ∀ {S ix L L' wallet a}, C.execute S ix L = .ok L' → w ∉ S → IsWallet L w →
    deriveAta C.derivation wallet w = some a → (L a).data = [] → (L' a).data = []

end Promises

end BootcampSolana.SplToken
