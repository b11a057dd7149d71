import BootcampSolana.FourPrograms.Programs
import BootcampSolana.Lib.Ledger

/-!
# Instructions on the accounts of the tour

The tour has seven accounts. A `Sheet` says what is in each of them, and there is one lemma an
instruction: which lines of the sheet it needs, and which lines it changes.

The payer's line only says what the payer has at least, so paying is subtracting.
-/

namespace BootcampSolana.FourPrograms

open Cells
open SplToken (Mint TokenAccount IsWallet wrote holding)

inductive Place where
  | payer
  | blank
  | mint
  | ata
  | mint22
  | src
  | dst
  deriving DecidableEq

/-! ## Contents -/

def Vacant (a : Account) : Prop := a = .absent

/-- `n` lamports beyond what a wallet has to keep. -/
structure Purse {E : Type} (C : Cluster E) (n : ℕ) (a : Account) : Prop where
  owner : a.owner = systemProgramId
  data : a.data = []
  funds : n + C.rent.minimumBalance 0 ≤ a.lamports

/-- Zeros. -/
def Allocated (owner : Pubkey) (lamports space : ℕ) (a : Account) : Prop :=
  a = { lamports := lamports, data := List.replicate space 0, owner := owner }

def FeeSetOf (lamports : ℕ) (f : TransferFee) (a : Account) : Prop :=
  a.lamports = lamports ∧ ∃ c, c.Charges f ∧ FeeSet a c

/-- A mint with a fee, or without. -/
inductive Charging : Option FeeConfig → Option TransferFee → Prop where
  | never : Charging none none
  | always {c : FeeConfig} {f : TransferFee} (charges : c.Charges f) : Charging (some c) (some f)

def MintOf (lamports : ℕ) (v : Mint) (fee : Option TransferFee) (a : Account) : Prop :=
  a.lamports = lamports ∧ ∃ c, Charging c fee ∧ MintAt a v c

def TokenOf (lamports : ℕ) (t : TokenAccount) (withheld : Option UInt64) (a : Account) : Prop :=
  a.lamports = lamports ∧ TokenAt a t withheld

theorem Charging.programOf_eq {c : Option FeeConfig} {fee : Option TransferFee}
    (h : Charging c fee) : programOf c = programOf fee := by cases h <;> rfl

theorem Charging.accountLen_eq {c : Option FeeConfig} {fee : Option TransferFee}
    (h : Charging c fee) : accountLen c = accountLen fee := by cases h <;> rfl

/-! Who owes no rent. -/

section Rents

variable {rent : Rent} {a : Account} {lamports space : ℕ} {owner : Pubkey} {v : Mint}
  {t : TokenAccount} {fee : Option TransferFee} {withheld : Option UInt64}

theorem Vacant.clear (h : Vacant a) : rent.Clear a := by
  rw [h]
  exact Or.inl rfl

theorem Purse.clear {E : Type} {C : Cluster E} {n : ℕ} (h : Purse C n a) : C.rent.Clear a := by
  refine Or.inr ?_
  rw [h.data]
  exact (Nat.le_add_left _ _).trans h.funds

theorem Allocated.clear (h : Allocated owner lamports space a)
    (hpaid : rent.minimumBalance space ≤ lamports) : rent.Clear a := by
  refine Or.inr ?_
  rw [h, List.length_replicate]
  exact hpaid

theorem MintOf.length (h : MintOf lamports v fee a) :
    a.data.length = fee.elim 82 fun _ => 278 := by
  obtain ⟨-, c, hcharging, hmint⟩ := h
  cases hcharging with
  | never => exact (hmint.length.resolve_right fun h => h.2 rfl).1
  | always => exact (hmint.length.resolve_left nofun).1

theorem MintOf.clear (h : MintOf lamports v fee a)
    (hpaid : rent.minimumBalance (fee.elim 82 fun _ => 278) ≤ lamports) : rent.Clear a := by
  refine Or.inr ?_
  rw [h.length, h.1]
  exact hpaid

theorem TokenOf.clear (h : TokenOf lamports t withheld a)
    (hpaid : rent.minimumBalance (accountLen withheld) ≤ lamports) : rent.Clear a := by
  refine Or.inr ?_
  rw [h.2.length, h.1]
  exact hpaid

end Rents

section Steps

variable {E : Type} {C : Cluster E} {addr : Place → Pubkey} {s : Place → Account → Prop}
  {S : List Pubkey} {L : Ledger} {n : ℕ} {p q r : Place} {owner wallet authority : Pubkey}
  {lamports space amount : UInt64} {decimals : UInt8} {v : Mint} {t : TokenAccount}
  {f : TransferFee} {withheld : Option UInt64}

theorem purse_of_holds (h : Holds addr s L) (hs : s .payer = Purse C n) :
    IsWallet L (addr .payer) ∧ n + C.rent.minimumBalance 0 ≤ (L (addr .payer)).lamports := by
  have hpurse : Purse C n (L (addr .payer)) := hs ▸ h .payer
  exact ⟨⟨hpurse.owner, hpurse.data⟩, hpurse.funds⟩

/-- The payer pays `k`, and somebody gets something for it. -/
theorem holds_paid {k : ℕ} {φ : Account → Prop} {a : Account} (hinj : Function.Injective addr)
    (h : Holds addr s L) (hs : s .payer = Purse C (n + k)) (ha : φ a) :
    Holds addr (Function.update (Function.update s .payer (Purse C n)) p φ)
      (Function.update (Function.update L (addr .payer)
        { L (addr .payer) with lamports := (L (addr .payer)).lamports - k }) (addr p) a) := by
  have hpurse : Purse C (n + k) (L (addr .payer)) := hs ▸ h .payer
  have hfunds := hpurse.funds
  refine Holds.write hinj (Holds.write hinj h ⟨hpurse.owner, hpurse.data, ?_⟩) ha
  show n + C.rent.minimumBalance 0 ≤ (L (addr .payer)).lamports - k
  omega

variable (hP : Programs C) (hinj : Function.Injective addr)
  (hgranted : ∀ p, C.reserved (addr p) = false)

include hP hinj hgranted

theorem createAccount_step {k : ℕ} (hp : .payer ≠ p) (hk : lamports.toNat = k)
    (hs : s .payer = Purse C (n + k)) (hvacant : s p = Vacant) (hpays : addr .payer ∈ S)
    (hsigns : addr p ∈ S) (hrent : C.rent.minimumBalance space.toNat ≤ k)
    (hspace : space.toNat ≤ maxPermittedDataIncrease) (h : Holds addr s L) :
    ∃ L', C.execute S (sysCreateAccount (addr .payer) (addr p) lamports space owner) L = .ok L' ∧
      Holds addr (Function.update (Function.update s .payer (Purse C n)) p
        (Allocated owner k space.toNat)) L' := by
  subst hk
  obtain ⟨hwallet, hfunds⟩ := purse_of_holds h hs
  have habsent : L (addr p) = .absent := by
    have := h p
    rwa [hvacant] at this
  have hgrants : C.Grants (sysCreateAccount (addr .payer) (addr p) lamports space owner) := by
    simp [Cluster.Grants, sysCreateAccount, AccountMeta.new, hgranted]
  refine ⟨_, hP.createAccount hgrants asks_sysCreateAccount (hinj.ne hp) hpays hsigns hwallet
    habsent (by omega) hrent hspace, ?_⟩
  exact holds_paid hinj h hs rfl

theorem transfer_step {k : ℕ} (hp : .payer ≠ p) (hs : s .payer = Purse C (n + lamports.toNat))
    (hwallet : s p = Allocated systemProgramId k 0) (hpays : addr .payer ∈ S)
    (hrent : C.rent.minimumBalance 0 ≤ k) (hfits : k + lamports.toNat < 2 ^ 64)
    (h : Holds addr s L) :
    ∃ L', C.execute S (sysTransfer (addr .payer) (addr p) lamports) L = .ok L' ∧
      Holds addr (Function.update (Function.update s .payer (Purse C n)) p
        (Allocated systemProgramId (k + lamports.toNat) 0)) L' := by
  obtain ⟨hpayer, hfunds⟩ := purse_of_holds h hs
  have hat : L (addr p) = { lamports := k, data := [], owner := systemProgramId } := by
    have := h p
    rwa [hwallet] at this
  have hgrants : C.Grants (sysTransfer (addr .payer) (addr p) lamports) := by
    simp [Cluster.Grants, sysTransfer, AccountMeta.new, hgranted]
  refine ⟨_, hP.transfer hgrants asks_sysTransfer (hinj.ne hp) hpays hpayer (by omega) ?_ ?_, ?_⟩
  · rw [hat]
    exact hrent.trans (Nat.le_add_right k _)
  · rwa [hat]
  · refine holds_paid hinj h hs ?_
    rw [hat]
    rfl

theorem feeConfig_step {k : ℕ} {feeAuthority withdrawAuthority : Option Pubkey}
    (hs : s p = Allocated token2022Program k 278) (hf : f.basisPoints.toNat ≤ 10000)
    (h : Holds addr s L) :
    ∃ L', C.execute S (initializeTransferFeeConfig (addr p) feeAuthority withdrawAuthority
        f.basisPoints f.maximumFee) L = .ok L' ∧
      Holds addr (Function.update s p (FeeSetOf k f)) L' := by
  have hat : L (addr p) =
      { lamports := k, data := List.replicate 278 0, owner := token2022Program } := by
    have := h p
    rwa [hs] at this
  have hgrants : C.Grants (initializeTransferFeeConfig (addr p) feeAuthority withdrawAuthority
      f.basisPoints f.maximumFee) := by
    simp [Cluster.Grants, initializeTransferFeeConfig, AccountMeta.new, hgranted]
  obtain ⟨c, d, hcharges, hset, hx⟩ := hP.initializeTransferFeeConfig
    (L := L) (S := S) hgrants asks_initializeTransferFeeConfig (by rw [hat]) (by rw [hat]) hf
  refine ⟨_, hx, Holds.write hinj h ⟨?_, c, hcharges, hset⟩⟩
  show (L (addr p)).lamports = k
  rw [hat]

theorem mint_step {k : ℕ} (hs : s p = Allocated tokenProgram k 82)
    (hrent : C.rent.minimumBalance 82 ≤ k) (h : Holds addr s L) :
    ∃ L', C.execute S (initializeMint2 tokenProgram (addr p) authority decimals) L = .ok L' ∧
      Holds addr (Function.update s p (MintOf k ⟨some authority, 0, decimals, true, none⟩ none))
        L' := by
  have hat : L (addr p) =
      { lamports := k, data := List.replicate 82 0, owner := tokenProgram } := by
    have := h p
    rwa [hs] at this
  have hgrants : C.Grants (initializeMint2 tokenProgram (addr p) authority decimals) := by
    simp [Cluster.Grants, initializeMint2, AccountMeta.new, hgranted]
  obtain ⟨d, hmint, hx⟩ := hP.initializeMint2 (L := L) (S := S) hgrants asks_initializeMint2
    (by rw [hat]) (by rw [hat]) (by rwa [hat])
  refine ⟨_, hx, Holds.write hinj h ⟨?_, none, .never, hmint⟩⟩
  show (L (addr p)).lamports = k
  rw [hat]

theorem mint22_step {k : ℕ} (hs : s p = FeeSetOf k f)
    (hrent : C.rent.minimumBalance 278 ≤ k) (h : Holds addr s L) :
    ∃ L', C.execute S (initializeMint2 token2022Program (addr p) authority decimals) L = .ok L' ∧
      Holds addr
        (Function.update s p (MintOf k ⟨some authority, 0, decimals, true, none⟩ (some f))) L' := by
  obtain ⟨hk, c, hcharges, hset⟩ : FeeSetOf k f (L (addr p)) := hs ▸ h p
  have hgrants : C.Grants (initializeMint2 token2022Program (addr p) authority decimals) := by
    simp [Cluster.Grants, initializeMint2, AccountMeta.new, hgranted]
  obtain ⟨d, hmint, hx⟩ := hP.initializeMint2_feeSet (L := L) (S := S) hgrants
    asks_initializeMint2 hset (by rwa [hk])
  exact ⟨_, hx, Holds.write hinj h ⟨hk, some c, .always hcharges, hmint⟩⟩

theorem ata_step {bump : UInt8} {k : ℕ} (fee : Option TransferFee) (hp : .payer ≠ p)
    (hs : s .payer = Purse C (n + C.rent.minimumBalance (accountLen fee))) (hvacant : s p = Vacant)
    (hmint : s q = MintOf k v fee) (hinit : v.isInitialized = true)
    (hauthority : v.mintAuthority ≠ none)
    (hderived : deriveAta C.derivation wallet (addr q) (programOf fee) = some (addr p, bump))
    (hpays : addr .payer ∈ S) (h : Holds addr s L) :
    ∃ L', C.execute S (ataInstruction (addr .payer) (addr p) wallet (addr q) (programOf fee)) L
        = .ok L' ∧
      Holds addr (Function.update (Function.update s .payer (Purse C n)) p
        (TokenOf (C.rent.minimumBalance (accountLen fee)) (holding wallet (addr q) 0)
          (fee.map fun _ => 0))) L' := by
  obtain ⟨hwallet, hfunds⟩ := purse_of_holds h hs
  have habsent : L (addr p) = .absent := by
    have := h p
    rwa [hvacant] at this
  obtain ⟨-, c, hcharging, hmintAt⟩ : MintOf k v fee (L (addr q)) := hmint ▸ h q
  rw [← hcharging.programOf_eq] at hderived ⊢
  rw [← hcharging.accountLen_eq] at hs hfunds ⊢
  have hgrants : C.Grants (ataInstruction (addr .payer) (addr p) wallet (addr q) (programOf c)) := by
    simp [Cluster.Grants, ataInstruction, AccountMeta.new, AccountMeta.newReadonly, hgranted]
  obtain ⟨a, hlamports, htoken, hx⟩ := hP.createAta (S := S) hgrants asks_ataInstruction
    (hinj.ne hp) hderived hmintAt hinit hauthority hpays hwallet habsent (by omega)
  have hzero : (c.map fun _ => 0 : Option UInt64) = fee.map fun _ => 0 := by
    cases hcharging <;> rfl
  rw [hzero] at htoken
  refine ⟨_, hx, holds_paid hinj h ?_ ⟨hlamports, htoken⟩⟩
  rw [hs, hlamports]

theorem mintTo_step {k k' : ℕ} {x y : UInt64} (fee : Option TransferFee) (hpq : p ≠ q)
    (hs : s .payer = Purse C n)
    (hmint : s p = MintOf k v fee) (hinit : v.isInitialized = true)
    (hauthority : v.mintAuthority = some (addr .payer)) (hdest : s q = TokenOf k' t withheld)
    (hsame : fee.isSome = withheld.isSome) (htm : t.mint = addr p)
    (hstate : t.state = .initialized) (hnative : t.isNative = none) (hsigns : addr .payer ∈ S)
    (hsupply : v.supply.toNat + amount.toNat < 2 ^ 64)
    (hamount : t.amount.toNat + amount.toNat < 2 ^ 64) (hx : v.supply + amount = x)
    (hy : t.amount + amount = y) (h : Holds addr s L) :
    ∃ L', C.execute S (mintTo (programOf fee) (addr p) (addr q) (addr .payer) amount) L = .ok L' ∧
      Holds addr (Function.update
        (Function.update s p (MintOf k { v with supply := x } fee)) q
        (TokenOf k' { t with amount := y } withheld)) L' := by
  subst hx hy
  obtain ⟨hk, c, hcharging, hmintAt⟩ : MintOf k v fee (L (addr p)) := hmint ▸ h p
  obtain ⟨hk', htoken⟩ : TokenOf k' t withheld (L (addr q)) := hdest ▸ h q
  have hsome : c.isSome = withheld.isSome := by
    rw [← hsame]
    cases hcharging <;> rfl
  have hgrants : C.Grants (mintTo (programOf c) (addr p) (addr q) (addr .payer) amount) := by
    simp [Cluster.Grants, mintTo, AccountMeta.new, AccountMeta.newReadonly, hgranted]
  obtain ⟨d, d', hmintAt', htoken', hx⟩ := hP.mintTo (S := S) hgrants asks_mintTo hmintAt
    hinit hauthority htoken hsome htm hstate hnative hsigns (purse_of_holds h hs).1 hsupply hamount
  rw [hcharging.programOf_eq] at hx
  refine ⟨_, hx, Holds.write hinj (Holds.write hinj h ⟨hk, c, hcharging, hmintAt'⟩) ?_⟩
  have hframe : wrote L (addr p) d (addr q) = L (addr q) := SplToken.wrote_other (hinj.ne hpq).symm
  rw [hframe]
  exact ⟨hk', htoken'⟩

/-- The receiver gets what the fee leaves. -/
theorem transferChecked_step {k k' k'' : ℕ} {x y x' y' out inn inn' kept : UInt64} (hpq : p ≠ q)
    (hs : s .payer = Purse C n) (hmint : s r = MintOf k v (some f))
    (hinit : v.isInitialized = true) (hdecimals : v.decimals = decimals)
    (hsrc : s p = TokenOf k' (holding (addr .payer) (addr r) x) (some out))
    (hdst : s q = TokenOf k'' (holding wallet (addr r) y) (some inn))
    (hsigns : addr .payer ∈ S) (hf : f.basisPoints.toNat ≤ 10000) (henough : amount ≤ x)
    (hfits : y.toNat + amount.toNat < 2 ^ 64) (hwithheld : inn.toNat + amount.toNat < 2 ^ 64)
    (hkept : UInt64.ofNat (f.charge amount.toNat) = kept) (hx : x - amount = x')
    (hy : y + (amount - kept) = y') (hinn : inn + kept = inn') (h : Holds addr s L) :
    ∃ L', C.execute S (transferChecked token2022Program (addr p) (addr r) (addr q) (addr .payer)
        amount decimals) L = .ok L' ∧
      Holds addr (Function.update
        (Function.update s p (TokenOf k' (holding (addr .payer) (addr r) x') (some out))) q
        (TokenOf k'' (holding wallet (addr r) y') (some inn'))) L' := by
  subst hkept hx hy hinn
  obtain ⟨-, c, hcharging, hmintAt⟩ : MintOf k v (some f) (L (addr r)) := hmint ▸ h r
  obtain ⟨hk', htoken⟩ := hsrc ▸ h p
  obtain ⟨hk'', htoken'⟩ := hdst ▸ h q
  cases hcharging with
  | @always c _ hcharges =>
    have hle : ∀ epoch, c.charge epoch amount.toNat ≤ amount.toNat := by
      intro epoch
      rw [FeeConfig.charge_eq hcharges]
      exact TransferFee.charge_le hf
    have hgrants : C.Grants (transferChecked token2022Program (addr p) (addr r) (addr q)
        (addr .payer) amount decimals) := by
      simp [Cluster.Grants, transferChecked, AccountMeta.new, AccountMeta.newReadonly, hgranted]
    obtain ⟨epoch, fee, d, d', hfee, hleft, harrived, hx⟩ := hP.transferChecked_fee (S := S)
      hgrants asks_transferChecked (hinj.ne hpq) hmintAt hinit hdecimals htoken rfl rfl rfl rfl rfl
      htoken' rfl rfl rfl hsigns (purse_of_holds h hs).1 henough hfits hwithheld hle
    rw [FeeConfig.charge_eq hcharges] at hfee
    subst hfee
    refine ⟨_, hx, Holds.write hinj (Holds.write hinj h ⟨hk', hleft⟩) ?_⟩
    have hframe : wrote L (addr p) d (addr q) = L (addr q) :=
      SplToken.wrote_other (hinj.ne hpq).symm
    rw [hframe]
    exact ⟨hk'', harrived⟩

end Steps

end BootcampSolana.FourPrograms
