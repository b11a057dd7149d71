import BootcampSolana.SplToken.Programs
import Mathlib.Algebra.Order.Floor.Div

/-!
# What the four programs promise

The client of `03-four-programs` calls the System Program, SPL Token, Token-2022 and the
Associated Token Account program. None of them is part of this development. What the exercise
relies on is stated here, for a cluster and the requests the client makes of it:

* `extension`, `accountExtension` — what Token-2022 appends to a mint that charges a fee, and to
  the accounts of such a mint
* `Asks` — which bytes and accounts ask a program for what
* `Programs` — what is done when a program is asked, and finds what it needs

`BootcampSolana.FourPrograms.Implementation` has programs that keep all of it.
-/

namespace BootcampSolana.FourPrograms

open SplToken (Mint TokenAccount Stale IsWallet wrote holding)

def tokenProgram : Pubkey := pk TOKEN isSome_token

def token2022Program : Pubkey := pk TOKEN_2022 isSome_token2022

def ataProgram : Pubkey := pk ATA isSome_ata

/-! ## Transfer fees -/

structure TransferFee where
  basisPoints : UInt16
  maximumFee : UInt64
  deriving DecidableEq

/-- Rounded up, and never more than the maximum. -/
def TransferFee.charge (f : TransferFee) (amount : ℕ) : ℕ :=
  min f.maximumFee.toNat ((amount * f.basisPoints.toNat) ⌈/⌉ 10000)

/-- A fee, and the epoch it is charged from. -/
structure EpochFee where
  epoch : UInt64
  fee : TransferFee
  deriving DecidableEq

/-- `TransferFeeConfig`. No authority is thirty-two zero bytes. -/
structure FeeConfig where
  authority : Pubkey
  withdrawAuthority : Pubkey
  withheldAmount : UInt64
  older : EpochFee
  newer : EpochFee
  deriving DecidableEq

/-- The fee is the same in every epoch. -/
def FeeConfig.Charges (c : FeeConfig) (f : TransferFee) : Prop := c.older.fee = f ∧ c.newer.fee = f

def FeeConfig.charge (c : FeeConfig) (epoch : UInt64) (amount : ℕ) : ℕ :=
  if epoch < c.newer.epoch then c.older.fee.charge amount else c.newer.fee.charge amount

/-- **A fee is never more than the amount**, if it is at most the whole of it. -/
theorem TransferFee.charge_le {f : TransferFee} {amount : ℕ} (h : f.basisPoints.toNat ≤ 10000) :
    f.charge amount ≤ amount := by
  refine (Nat.min_le_right _ _).trans ?_
  rw [ceilDiv_le_iff_le_mul (by decide), Nat.mul_comm]
  exact Nat.mul_le_mul_right amount h

theorem FeeConfig.charge_eq {c : FeeConfig} {f : TransferFee} {epoch : UInt64} {amount : ℕ}
    (h : c.Charges f) : c.charge epoch amount = f.charge amount := by
  rw [FeeConfig.charge, h.1, h.2, ite_self]

/-! ### Their layout -/

def EpochFee.equiv : UInt64 × UInt64 × UInt16 ≃ EpochFee where
  toFun p := ⟨p.1, ⟨p.2.2, p.2.1⟩⟩
  invFun v := (v.epoch, v.fee.maximumFee, v.fee.basisPoints)
  left_inv _ := rfl
  right_inv _ := rfl

def FeeConfig.equiv : Pubkey × Pubkey × UInt64 × EpochFee × EpochFee ≃ FeeConfig where
  toFun p := ⟨p.1, p.2.1, p.2.2.1, p.2.2.2.1, p.2.2.2.2⟩
  invFun v := (v.authority, v.withdrawAuthority, v.withheldAmount, v.older, v.newer)
  left_inv _ := rfl
  right_inv _ := rfl

open Codec Wire in
def epochFee : Codec UInt8 EpochFee := (seq u64 (seq u64 u16)).map EpochFee.equiv

open Codec Wire in
def feeConfig : Codec UInt8 FeeConfig :=
  (seq pubkey (seq pubkey (seq u64 (seq epochFee epochFee)))).map FeeConfig.equiv

/--
Behind a mint: padding up to the length of a token account, the type of the account, and the
type and the length of the entry.
-/
def feeHeader (accountType : UInt8) : Bytes :=
  List.replicate 83 0 ++ [accountType, 1, 0, 108, 0]

/-- What follows a mint. -/
def extension : Option FeeConfig → Bytes
  | none => []
  | some c => feeHeader 1 ++ feeConfig.encode c

/-- What follows a token account: an immutable owner, and what is withheld. -/
def accountExtension : Option UInt64 → Bytes
  | none => []
  | some withheld => [2, 7, 0, 0, 0, 2, 0, 8, 0] ++ Wire.u64.encode withheld

/-- The program of the mints with such an extension. -/
def programOf {α : Type} : Option α → Pubkey
  | none => tokenProgram
  | some _ => token2022Program

def accountLen {α : Type} : Option α → ℕ
  | none => 165
  | some _ => 182

/-! ## What is in an account -/

structure MintAt (a : Account) (v : Mint) (c : Option FeeConfig) : Prop where
  owner : a.owner = programOf c
  packed : ∃ s₁ s₂, a.data = v.pack s₁ s₂ ++ extension c

structure TokenAt (a : Account) (t : TokenAccount) (withheld : Option UInt64) : Prop where
  owner : a.owner = programOf withheld
  packed : ∃ s₁ s₂ s₃, a.data = t.pack s₁ s₂ s₃ ++ accountExtension withheld

/-- A mint that has its fee, and is no mint yet. -/
structure FeeSet (a : Account) (c : FeeConfig) : Prop where
  owner : a.owner = token2022Program
  packed : ∃ accountType,
    a.data = List.replicate 82 0 ++ (feeHeader accountType ++ feeConfig.encode c)

section Contents

variable {a : Account} {v : Mint} {t : TokenAccount} {c : FeeConfig} {fee : Option FeeConfig}
  {withheld : Option UInt64}

theorem length_u64 (n : UInt64) : (Wire.u64.encode n).length = 8 := Codec.length_fixed _ n

theorem length_epochFee (f : EpochFee) : (epochFee.encode f).length = 18 := by
  have hencode : epochFee.encode f = Wire.u64.encode f.epoch ++
      (Wire.u64.encode f.fee.maximumFee ++ Wire.u16.encode f.fee.basisPoints) := rfl
  have hpoints : (Wire.u16.encode f.fee.basisPoints).length = 2 := Codec.length_fixed _ _
  rw [hencode, List.length_append, List.length_append, length_u64, length_u64, hpoints]

theorem length_feeConfig : (feeConfig.encode c).length = 108 := by
  have hencode : feeConfig.encode c = Wire.pubkey.encode c.authority ++
      (Wire.pubkey.encode c.withdrawAuthority ++ (Wire.u64.encode c.withheldAmount ++
        (epochFee.encode c.older ++ epochFee.encode c.newer))) := rfl
  have hkey : ∀ a : Pubkey, (Wire.pubkey.encode a).length = 32 := Codec.length_fixed _
  simp only [hencode, List.length_append, hkey, length_u64, length_epochFee]

theorem length_accountExtension (withheld : UInt64) :
    (accountExtension (some withheld)).length = 17 := by
  rw [accountExtension, List.length_append, length_u64]
  rfl

theorem MintAt.length (h : MintAt a v fee) :
    a.data.length = 82 ∧ fee = none ∨ a.data.length = 278 ∧ fee ≠ none := by
  obtain ⟨s₁, s₂, hd⟩ := h.packed
  rw [hd, List.length_append, SplToken.length_pack_mint]
  cases fee with
  | none => exact Or.inl ⟨rfl, rfl⟩
  | some c => exact Or.inr ⟨by simp [extension, feeHeader, length_feeConfig], nofun⟩

theorem TokenAt.length (h : TokenAt a t withheld) : a.data.length = accountLen withheld := by
  obtain ⟨s₁, s₂, s₃, hd⟩ := h.packed
  rw [hd, List.length_append, SplToken.length_pack_account]
  cases withheld with
  | none => rfl
  | some w => rw [length_accountExtension, accountLen]

/-- The amount, where `token_amount` slices. -/
theorem TokenAt.readU64 (h : TokenAt a t withheld) : readU64 a.data 64 72 = .ok t.amount := by
  have hlen := h.length
  have hword : window a.data 64 72 = U64.toLeBytes t.amount := by
    obtain ⟨s₁, s₂, s₃, hd⟩ := h.packed
    have hpack : (t.pack s₁ s₂ s₃).length = 165 := SplToken.length_pack_account
    rw [hd, window_append_left (by omega), (t.windows s₁ s₂ s₃).2.2.1]
  have hlong : 72 ≤ a.data.length := by
    rw [hlen]
    cases withheld with
    | none => decide
    | some w => exact (by decide : 72 ≤ 182)
  rw [SplToken.readU64_eq rfl, if_pos hlong, hword, U64.fromLeBytes_toLeBytes]

end Contents

/-! ## Requests -/

inductive Request where
  | createAccount (source new : Pubkey) (lamports space : UInt64) (owner : Pubkey)
  | transfer (source target : Pubkey) (lamports : UInt64)
  | initializeTransferFeeConfig (mint : Pubkey) (authority withdrawAuthority : Option Pubkey)
    (fee : TransferFee)
  | initializeMint2 (program mint : Pubkey) (decimals : UInt8) (authority : Pubkey)
    (freeze : Option Pubkey)
  | mintTo (program mint dest authority : Pubkey) (amount : UInt64)
  | transferChecked (program src mint dst authority : Pubkey) (amount : UInt64) (decimals : UInt8)
  | createAta (funder ata wallet mint program : Pubkey)
  deriving DecidableEq

/-- The data is read by the grammars of the README, and the accounts come in this order. -/
inductive Asks : Instruction → Request → Prop where
  | createAccount {data : Bytes} {source new : Pubkey} {lamports space : UInt64} {owner : Pubkey}
      (decoded : Wire.system.decode data = some (.createAccount lamports space owner)) :
      Asks ⟨systemProgramId, [.new source true, .new new true], data⟩
        (.createAccount source new lamports space owner)
  | transfer {data : Bytes} {source target : Pubkey} {lamports : UInt64}
      (decoded : Wire.system.decode data = some (.transfer lamports)) :
      Asks ⟨systemProgramId, [.new source true, .new target false], data⟩
        (.transfer source target lamports)
  | initializeTransferFeeConfig {data : Bytes} {mint : Pubkey}
      {authority withdrawAuthority : Option Pubkey} {fee : TransferFee}
      (decoded : Wire.token.decode data = some
        (.initializeTransferFeeConfig authority withdrawAuthority fee.basisPoints fee.maximumFee)) :
      Asks ⟨token2022Program, [.new mint false], data⟩
        (.initializeTransferFeeConfig mint authority withdrawAuthority fee)
  | initializeMint2 {data : Bytes} {program mint : Pubkey} {decimals : UInt8} {authority : Pubkey}
      {freeze : Option Pubkey}
      (decoded : Wire.token.decode data = some (.initializeMint2 decimals authority freeze)) :
      Asks ⟨program, [.new mint false], data⟩
        (.initializeMint2 program mint decimals authority freeze)
  | mintTo {data : Bytes} {program mint dest authority : Pubkey} {amount : UInt64}
      (decoded : Wire.token.decode data = some (.mintTo amount)) :
      Asks ⟨program, [.new mint false, .new dest false, .newReadonly authority true], data⟩
        (.mintTo program mint dest authority amount)
  | transferChecked {data : Bytes} {program src mint dst authority : Pubkey} {amount : UInt64}
      {decimals : UInt8}
      (decoded : Wire.token.decode data = some (.transferChecked amount decimals)) :
      Asks ⟨program, [.new src false, .newReadonly mint false, .new dst false,
          .newReadonly authority true], data⟩
        (.transferChecked program src mint dst authority amount decimals)
  | createAta {funder ata wallet mint program : Pubkey} :
      Asks ⟨ataProgram, [.new funder true, .new ata false, .newReadonly wallet false,
          .newReadonly mint false, .newReadonly systemProgramId false,
          .newReadonly program false], [0]⟩
        (.createAta funder ata wallet mint program)

section Encoders

variable {source target new owner program mint authority dest src dst : Pubkey}
  {lamports space amount : UInt64} {decimals : UInt8} {fee : TransferFee}
  {feeAuthority withdrawAuthority : Option Pubkey}

theorem system_eq : pk SYSTEM isSome_system = systemProgramId :=
  Option.get_of_eq_some _ fromStr_system

theorem asks_sysCreateAccount : Asks (sysCreateAccount source new lamports space owner)
    (.createAccount source new lamports space owner) := by
  have hdata := Codec.decode_eq_some.mpr
    (Wire.Builds.sysCreateAccount source new lamports space owner).data_eq
  have h := @Asks.createAccount _ source new _ _ _ hdata
  rwa [← system_eq] at h

theorem asks_sysTransfer : Asks (sysTransfer source target lamports)
    (.transfer source target lamports) := by
  have hdata := Codec.decode_eq_some.mpr (Wire.Builds.sysTransfer source target lamports).data_eq
  have h := @Asks.transfer _ source target _ hdata
  rwa [← system_eq] at h

theorem asks_initializeTransferFeeConfig :
    Asks (initializeTransferFeeConfig mint feeAuthority withdrawAuthority fee.basisPoints
        fee.maximumFee)
      (.initializeTransferFeeConfig mint feeAuthority withdrawAuthority fee) :=
  .initializeTransferFeeConfig (Codec.decode_eq_some.mpr
    (Wire.Builds.initializeTransferFeeConfig mint feeAuthority withdrawAuthority fee.basisPoints
      fee.maximumFee).data_eq)

theorem asks_initializeMint2 : Asks (initializeMint2 program mint authority decimals)
    (.initializeMint2 program mint decimals authority none) :=
  .initializeMint2 (Codec.decode_eq_some.mpr
    (Wire.Builds.initializeMint2 program mint authority decimals).data_eq)

theorem asks_mintTo : Asks (mintTo program mint dest authority amount)
    (.mintTo program mint dest authority amount) :=
  .mintTo (Codec.decode_eq_some.mpr
    (Wire.Builds.mintTo program mint dest authority amount).data_eq)

theorem asks_transferChecked :
    Asks (transferChecked program src mint dst authority amount decimals)
      (.transferChecked program src mint dst authority amount decimals) :=
  .transferChecked (Codec.decode_eq_some.mpr
    (Wire.Builds.transferChecked program src mint dst authority amount decimals).data_eq)

theorem asks_ataInstruction {funder ata wallet : Pubkey} :
    Asks (ataInstruction funder ata wallet mint program)
      (.createAta funder ata wallet mint program) := by
  have h := @Asks.createAta funder ata wallet mint program
  rwa [← system_eq] at h

end Encoders

/-! ## Promises -/

/-- `n` lamports from one account to another. -/
def moved (L : Ledger) (source target : Pubkey) (n : ℕ) : Ledger :=
  Function.update (Function.update L source { L source with lamports := (L source).lamports - n })
    target { L target with lamports := (L target).lamports + n }

/-- A new account, the rent of which `funder` has paid. -/
def opened (L : Ledger) (funder new : Pubkey) (a : Account) : Ledger :=
  Function.update
    (Function.update L funder { L funder with lamports := (L funder).lamports - a.lamports }) new a

/--
What the instructions of the exercise do, where they are granted what they write to and nobody is
left to owe rent.
-/
structure Programs {E : Type} (C : Cluster E) : Prop where
  /-- An instruction is about the accounts that it lists. -/
  unlisted : ∀ {S ix L L' a},
    C.execute S ix L = .ok L' → (∀ m ∈ ix.accounts, m.pubkey ≠ a) → L' a = L a
  createAccount : ∀ {S ix L source new lamports space owner},
    C.Grants ix → Asks ix (.createAccount source new lamports space owner) → source ≠ new →
    source ∈ S → new ∈ S → IsWallet L source → L new = .absent →
    lamports.toNat + C.rent.minimumBalance 0 ≤ (L source).lamports →
    C.rent.minimumBalance space.toNat ≤ lamports.toNat → space.toNat ≤ maxPermittedDataIncrease →
    C.execute S ix L = .ok (opened L source new
      { lamports := lamports.toNat, data := List.replicate space.toNat 0, owner := owner })
  transfer : ∀ {S ix L source target lamports},
    C.Grants ix → Asks ix (.transfer source target lamports) → source ≠ target → source ∈ S →
    IsWallet L source → lamports.toNat + C.rent.minimumBalance 0 ≤ (L source).lamports →
    C.rent.minimumBalance (L target).data.length ≤ (L target).lamports + lamports.toNat →
    (L target).lamports + lamports.toNat < 2 ^ 64 →
    C.execute S ix L = .ok (moved L source target lamports.toNat)
  initializeTransferFeeConfig : ∀ {S ix L m authority withdrawAuthority fee},
    C.Grants ix → Asks ix (.initializeTransferFeeConfig m authority withdrawAuthority fee) →
    (L m).owner = token2022Program → (L m).data = List.replicate 278 0 →
    fee.basisPoints.toNat ≤ 10000 →
    ∃ c d, c.Charges fee ∧ FeeSet { L m with data := d } c ∧
      C.execute S ix L = .ok (wrote L m d)
  initializeMint2 : ∀ {S ix L m decimals authority freeze},
    C.Grants ix → Asks ix (.initializeMint2 tokenProgram m decimals authority freeze) →
    (L m).owner = tokenProgram → (L m).data = List.replicate 82 0 →
    C.rent.minimumBalance 82 ≤ (L m).lamports →
    ∃ d, MintAt { L m with data := d } ⟨some authority, 0, decimals, true, freeze⟩ none ∧
      C.execute S ix L = .ok (wrote L m d)
  initializeMint2_feeSet : ∀ {S ix L m decimals authority freeze c},
    C.Grants ix → Asks ix (.initializeMint2 token2022Program m decimals authority freeze) →
    FeeSet (L m) c → C.rent.minimumBalance 278 ≤ (L m).lamports →
    ∃ d, MintAt { L m with data := d } ⟨some authority, 0, decimals, true, freeze⟩ (some c) ∧
      C.execute S ix L = .ok (wrote L m d)
  /-- For a mint that has an authority the account is an ordinary one. -/
  createAta : ∀ {S ix L funder ata wallet m v c bump},
    C.Grants ix → Asks ix (.createAta funder ata wallet m (programOf c)) → funder ≠ ata →
    deriveAta C.derivation wallet m (programOf c) = some (ata, bump) →
    MintAt (L m) v c → v.isInitialized = true → v.mintAuthority ≠ none → funder ∈ S →
    IsWallet L funder → L ata = .absent →
    C.rent.minimumBalance (accountLen c) + C.rent.minimumBalance 0 ≤ (L funder).lamports →
    ∃ a, a.lamports = C.rent.minimumBalance (accountLen c) ∧
      TokenAt a (holding wallet m 0) (c.map fun _ => 0) ∧
      C.execute S ix L = .ok (opened L funder ata a)
  mintTo : ∀ {S ix L m dest authority amount v t c withheld},
    C.Grants ix → Asks ix (.mintTo (programOf c) m dest authority amount) →
    MintAt (L m) v c → v.isInitialized = true → v.mintAuthority = some authority →
    TokenAt (L dest) t withheld → c.isSome = withheld.isSome → t.mint = m →
    t.state = .initialized → t.isNative = none → authority ∈ S → IsWallet L authority →
    v.supply.toNat + amount.toNat < 2 ^ 64 → t.amount.toNat + amount.toNat < 2 ^ 64 →
    ∃ d d', MintAt { L m with data := d } { v with supply := v.supply + amount } c ∧
      TokenAt { L dest with data := d' } { t with amount := t.amount + amount } withheld ∧
      C.execute S ix L = .ok (wrote (wrote L m d) dest d')
  /-- The fee of the epoch is withheld from what is sent, in the account it is sent to. -/
  transferChecked_fee : ∀ {S ix L src m dst authority amount decimals v c t u out inn},
    C.Grants ix →
    Asks ix (.transferChecked token2022Program src m dst authority amount decimals) → src ≠ dst →
    MintAt (L m) v (some c) → v.isInitialized = true → v.decimals = decimals →
    TokenAt (L src) t (some out) → t.mint = m → t.owner = authority → t.delegate = none →
    t.state = .initialized → t.isNative = none →
    TokenAt (L dst) u (some inn) → u.mint = m → u.state = .initialized → u.isNative = none →
    authority ∈ S → IsWallet L authority → amount ≤ t.amount →
    u.amount.toNat + amount.toNat < 2 ^ 64 → inn.toNat + amount.toNat < 2 ^ 64 →
    (∀ epoch, c.charge epoch amount.toNat ≤ amount.toNat) →
    ∃ epoch fee d d', fee = UInt64.ofNat (c.charge epoch amount.toNat) ∧
      TokenAt { L src with data := d } { t with amount := t.amount - amount } (some out) ∧
      TokenAt { L dst with data := d' } { u with amount := u.amount + (amount - fee) }
        (some (inn + fee)) ∧
      C.execute S ix L = .ok (wrote (wrote L src d) dst d')

end BootcampSolana.FourPrograms
