import BootcampSolana.SplToken.Implementation

/-!
# The exercise as a whole

`main` of `06-spl-token/src/main.rs`, from the funded wallet on: every request it makes of the
node, in order, and every line with a value in it. The node serves others at the same time. They
can do anything that is not signed by alice, by bob or with the key of the mint.

`main_balances` is what the exercise teaches. A mint of `1000000000` is shared `750000000` to
`250000000`, and what the two accounts hold is the supply. That is so whatever others do, because
alice and bob hold all there is.
-/

namespace BootcampSolana.SplToken

/-! ## The source -/

def MINT_LEN : UInt64 := 82

/-- What `create_ata` builds once it has the address. -/
def ataInstruction (funder ata wallet mint : Pubkey) : Instruction where
  programId := pk ATA isSome_ata
  accounts :=
    [AccountMeta.new funder true, AccountMeta.new ata false,
      AccountMeta.newReadonly wallet false, AccountMeta.newReadonly mint false,
      AccountMeta.newReadonly (pk SYSTEM isSome_system) false,
      AccountMeta.newReadonly (pk TOKEN isSome_token) false]
  data := [0]

def createAta {ε : Type} (D : Derivation) (funder wallet mint : Pubkey) :
    Outcome ε Instruction := do
  let ata ← .unwrap (deriveAta D wallet mint)
  pure (ataInstruction funder ata wallet mint)

/-- The lines of `main` with a value in them. -/
inductive ExerciseLine (E : Type) where
  | alice (wallet : Pubkey)
  | bob (wallet : Pubkey)
  | shown (line : Line)
  | aliceAta (ata : Pubkey)
  | bobAta (ata : Pubkey)
  | err (err : Option (TransactionError E))
  | supply (n : UInt64)
  | aliceAmount (n : UInt64)
  | bobAmount (n : UInt64)
  | total (n : UInt64) (balanced : Bool)

/-- `main`, for the keys of the three key pairs. -/
def main {E : Type} (C : Cluster E) (alice bob mint : Pubkey) :
    ClusterClient E (ExerciseLine E) Unit := do
  Session.print (.alice alice)
  Session.print (.bob bob)
  -- 1. THE WALLETS
  let _ ← C.display .shown (showRuntime · alice)
  -- 2. CREATE THE MINT
  let rent ← C.getMinimumBalanceForRentExemption MINT_LEN.toNat
  C.send alice
    [sysCreateAccount alice mint rent MINT_LEN (pk TOKEN isSome_token),
      initializeMint2 mint alice none] [mint]
  C.display .shown (showMint · mint)
  -- 3. CREATE ALICE'S ATA
  let aliceAta ← Session.lift (.unwrap (deriveAta C.derivation alice mint))
  Session.print (.aliceAta aliceAta)
  let ix ← Session.lift (createAta C.derivation alice alice mint)
  C.send alice [ix] []
  C.display .shown (showTokenAccount · "alice" aliceAta)
  -- 4. MINT SUPPLY TO ALICE
  C.send alice [mintTo mint aliceAta alice 1000000000] []
  C.display .shown (showMint · mint)
  C.display .shown (showTokenAccount · "alice" aliceAta)
  -- 5. TRANSFER BEFORE BOB HAS AN ATA
  let bobAta ← Session.lift (.unwrap (deriveAta C.derivation bob mint))
  Session.print (.bobAta bobAta)
  C.getLatestBlockhash
  let doomed ← Session.lift
    (Cluster.newSignedWithPayer [transferChecked aliceAta mint bobAta alice 1] alice [alice])
  let err ← C.simulateTransaction doomed
  Session.print (.err err)
  -- 6. CREATE BOB'S ATA AND TRANSFER
  let ix ← Session.lift (createAta C.derivation alice bob mint)
  C.send alice [ix, transferChecked aliceAta mint bobAta alice 250000000] []
  C.display .shown (showTokenAccount · "alice" aliceAta)
  C.display .shown (showTokenAccount · "bob" bobAta)
  -- 7. THE INVARIANT
  let account ← C.getAccount mint
  let supply ← Session.lift ((readU64 account.data 36 44).mapErr .client)
  let account ← C.getAccount aliceAta
  let a ← Session.lift ((readU64 account.data 64 72).mapErr .client)
  let account ← C.getAccount bobAta
  let b ← Session.lift ((readU64 account.data 64 72).mapErr .client)
  Session.print (.supply supply)
  Session.print (.aliceAmount a)
  Session.print (.bobAmount b)
  let sum ← Session.lift (U64.plus a b)
  Session.print (.total sum (sum == supply))

section Exercise

variable {E : Type} {C : Cluster E} {alice bob mint aliceAta bobAta w m a : Pubkey}
  {L L' : Ledger} {S : List Pubkey} {ix : Instruction} {tx : SignedTx}

/-! ## What others can do -/

/-- Three key pairs, and the addresses derived from them. -/
structure Setting (C : Cluster E) (alice bob mint aliceAta bobAta : Pubkey) : Prop where
  aliceKey : KeyPair C alice
  bobKey : KeyPair C bob
  mintKey : KeyPair C mint
  alice_ne_bob : alice ≠ bob
  alice_ne_mint : alice ≠ mint
  bob_ne_mint : bob ≠ mint
  aliceDerived : deriveAta C.derivation alice mint = some aliceAta
  bobDerived : deriveAta C.derivation bob mint = some bobAta
  noCollision : NoCollision C.derivation
    (candidates [alice.bytes, tokenProgram.bytes, mint.bytes] ataProgram ∪
      candidates [bob.bytes, tokenProgram.bytes, mint.bytes] ataProgram)
  rentFits : C.rent.minimumBalance MINT_LEN.toNat < 2 ^ 64
  unreserved : ∀ a ∈ [alice, mint, aliceAta, bobAta], C.reserved a = false

/-- A transaction that none of the three keys has signed. -/
structure Without (alice bob mint : Pubkey) (tx : SignedTx) : Prop where
  notAlice : alice ∉ tx.signers
  notBob : bob ∉ tx.signers
  notMint : mint ∉ tx.signers

/-- A derived address is nobody's key. -/
theorem KeyPair.ne_ata {v : Pubkey} (hw : KeyPair C v) (h : deriveAta C.derivation w m = some a) :
    v ≠ a := by
  rintro rfl
  have hcurve := (deriveAta_isPda h).isOnCurve
  simp [hw.isOnCurve] at hcurve

theorem Setting.atas (hS : Setting C alice bob mint aliceAta bobAta) : aliceAta ≠ bobAta := by
  rintro rfl
  obtain ⟨⟨a, bump⟩, hfind, rfl⟩ := Option.map_eq_some_iff.mp hS.aliceDerived
  obtain ⟨⟨a', bump'⟩, hfind', h⟩ := Option.map_eq_some_iff.mp hS.bobDerived
  cases h
  exact hS.alice_ne_bob (keys_inj (preimage_eq_of_address_eq hS.noCollision hfind hfind')).1

/-- Who has not signed does not pay. -/
theorem charge_unsigned (h : w ∉ tx.signers) : C.charge L tx w = L w := by
  refine Cluster.charge_other ?_
  rintro rfl
  exact h Cluster.payer_mem_signers

theorem free_minted {supply : UInt64} : Free (minted w supply) := ⟨rfl, nofun, rfl⟩

/-! ### Before there is a mint -/

/-- Nothing of the exercise is there yet. -/
structure Start (alice bob mint aliceAta bobAta : Pubkey) (L : Ledger) : Prop where
  aliceWallet : IsWallet L alice
  bobWallet : IsWallet L bob
  mintWallet : IsWallet L mint
  aliceEmpty : (L aliceAta).data = []
  bobEmpty : (L bobAta).data = []
  solvent : Solvent L

theorem Start.step (hP : Programs C) (hS : Setting C alice bob mint aliceAta bobAta)
    (htx : Without alice bob mint tx) (hx : C.execute tx.signers ix L = .ok L')
    (h : Start alice bob mint aliceAta bobAta L) : Start alice bob mint aliceAta bobAta L' where
  aliceWallet := (hS.aliceKey.wallet hx htx.notAlice h.aliceWallet).1
  bobWallet := (hS.bobKey.wallet hx htx.notBob h.bobWallet).1
  mintWallet := (hS.mintKey.wallet hx htx.notMint h.mintWallet).1
  aliceEmpty := hS.mintKey.unminted hx htx.notMint h.mintWallet hS.aliceDerived h.aliceEmpty
  bobEmpty := hS.mintKey.unminted hx htx.notMint h.mintWallet hS.bobDerived h.bobEmpty
  solvent := hP.solvent hx h.solvent

theorem Start.congr (hsame : ∀ a, (L' a).data = (L a).data ∧ (L' a).owner = (L a).owner)
    (h : Start alice bob mint aliceAta bobAta L) : Start alice bob mint aliceAta bobAta L' where
  aliceWallet := h.aliceWallet.congr (hsame _).1 (hsame _).2
  bobWallet := h.bobWallet.congr (hsame _).1 (hsame _).2
  mintWallet := h.mintWallet.congr (hsame _).1 (hsame _).2
  aliceEmpty := (hsame _).1.trans h.aliceEmpty
  bobEmpty := (hsame _).1.trans h.bobEmpty
  solvent := h.solvent.congr hsame

/-! ### With a mint -/

/-- What is at an associated address: that amount, or anything if it is not known. -/
def Holding (L : Ledger) (ata wallet mint : Pubkey) : Option UInt64 → Prop
  | some amount => TokenAt L ata (holding wallet mint amount)
  | none => (L ata).data = [] ∨ ∃ amount, TokenAt L ata (holding wallet mint amount)

/-- `alice` has issued `supply`, and the two accounts hold `x` and `y`. -/
structure Stage (alice bob mint aliceAta bobAta : Pubkey) (x y : Option UInt64) (supply : UInt64)
    (L : Ledger) : Prop where
  aliceWallet : IsWallet L alice
  bobWallet : IsWallet L bob
  mintAt : MintAt L mint (minted alice supply)
  aliceHolds : Holding L aliceAta alice mint x
  bobHolds : Holding L bobAta bob mint y
  solvent : Solvent L

theorem Holding.congr {x : Option UInt64} (hd : (L' a).data = (L a).data)
    (ho : (L' a).owner = (L a).owner) (h : Holding L a w m x) : Holding L' a w m x := by
  cases x with
  | some n => exact TokenAt.congr hd ho h
  | none =>
    rcases h with hempty | ⟨n, ht⟩
    · exact Or.inl (hd.trans hempty)
    · exact Or.inr ⟨n, ht.congr hd ho⟩

/-- Without its owner, an amount does not shrink. -/
theorem Holding.step {x : Option UInt64} {v : Mint} (hw : KeyPair C w)
    (hderived : deriveAta C.derivation w m = some a) (hx : C.execute S ix L = .ok L') (hS : w ∉ S)
    (hwallet : IsWallet L w) (hm : MintAt L m v) (hv : Free v) (h : Holding L a w m x) :
    ∃ x', Holding L' a w m x' ∧ (x' = none ↔ x = none) ∧ x.getD 0 ≤ x'.getD 0 := by
  cases x with
  | some n =>
    obtain ⟨more, hle, ht⟩ := hw.token hx hS hwallet hm hv h
    exact ⟨some more, ht, by simp, hle⟩
  | none =>
    refine ⟨none, ?_, Iff.rfl, UInt64.le_refl 0⟩
    rcases h with hempty | ⟨n, ht⟩
    · exact hw.ata hx hS hderived hm hv hempty
    · obtain ⟨more, -, ht'⟩ := hw.token hx hS hwallet hm hv ht
      exact Or.inr ⟨more, ht'⟩

theorem amount_eq {x x' : Option UInt64} (hnone : x' = none ↔ x = none)
    (h : (x'.getD 0).toNat = (x.getD 0).toNat) : x' = x := by
  cases x with
  | none => exact hnone.mpr rfl
  | some n =>
    cases x' with
    | none => exact absurd (hnone.mp rfl) (by simp)
    | some n' => exact congrArg some (UInt64.toNat_inj.mp h)

/-- **Alice and bob hold all there is**, so others cannot move anything. -/
theorem Stage.step {x y : Option UInt64} {supply : UInt64} (hP : Programs C)
    (hS : Setting C alice bob mint aliceAta bobAta) (htx : Without alice bob mint tx)
    (hx : C.execute tx.signers ix L = .ok L')
    (hall : (x.getD 0).toNat + (y.getD 0).toNat = supply.toNat)
    (h : Stage alice bob mint aliceAta bobAta x y supply L) :
    Stage alice bob mint aliceAta bobAta x y supply L' := by
  have hsolvent := hP.solvent hx h.solvent
  obtain ⟨supply', hfall, hmint⟩ :=
    hS.aliceKey.mint hx htx.notAlice h.aliceWallet h.mintAt free_minted rfl
  obtain ⟨x', hx', hxnone, hxle⟩ := h.aliceHolds.step hS.aliceKey hS.aliceDerived hx htx.notAlice
    h.aliceWallet h.mintAt free_minted
  obtain ⟨y', hy', hynone, hyle⟩ := h.bobHolds.step hS.bobKey hS.bobDerived hx htx.notBob
    h.bobWallet h.mintAt free_minted
  have hcover : (x'.getD 0).toNat + (y'.getD 0).toNat ≤ supply'.toNat := by
    cases x' with
    | none =>
      cases y' with
      | none => exact Nat.zero_le _
      | some q =>
        have hq := UInt64.le_iff_toNat_le.mp (hsolvent.single hmint hy' rfl rfl)
        exact (Nat.zero_add q.toNat).trans_le hq
    | some p =>
      cases y' with
      | none => exact UInt64.le_iff_toNat_le.mp (hsolvent.single hmint hx' rfl rfl)
      | some q => exact hsolvent.pair hmint hx' hy' hS.atas rfl rfl rfl rfl
  have hfall' : supply'.toNat ≤ supply.toNat := UInt64.le_iff_toNat_le.mp hfall
  rw [UInt64.le_iff_toNat_le] at hxle hyle
  have hsupply : supply' = supply := UInt64.toNat_inj.mp (by omega)
  have hxeq : x' = x := amount_eq hxnone (by omega)
  have hyeq : y' = y := amount_eq hynone (by omega)
  rw [hsupply] at hmint
  rw [hxeq] at hx'
  rw [hyeq] at hy'
  exact ⟨(hS.aliceKey.wallet hx htx.notAlice h.aliceWallet).1,
    (hS.bobKey.wallet hx htx.notBob h.bobWallet).1, hmint, hx', hy', hsolvent⟩

theorem Stage.congr {x y : Option UInt64} {supply : UInt64}
    (hsame : ∀ a, (L' a).data = (L a).data ∧ (L' a).owner = (L a).owner)
    (h : Stage alice bob mint aliceAta bobAta x y supply L) :
    Stage alice bob mint aliceAta bobAta x y supply L' where
  aliceWallet := h.aliceWallet.congr (hsame _).1 (hsame _).2
  bobWallet := h.bobWallet.congr (hsame _).1 (hsame _).2
  mintAt := h.mintAt.congr (hsame _).1 (hsame _).2
  aliceHolds := h.aliceHolds.congr (hsame _).1 (hsame _).2
  bobHolds := h.bobHolds.congr (hsame _).1 (hsame _).2
  solvent := h.solvent.congr hsame

/-! A fee changes nothing of it. -/

theorem Start.charge (C : Cluster E) (tx : SignedTx) (h : Start alice bob mint aliceAta bobAta L) :
    Start alice bob mint aliceAta bobAta (C.charge L tx) :=
  h.congr fun _ => Cluster.charge_data_owner _

theorem Stage.charge {x y : Option UInt64} {supply : UInt64} (C : Cluster E) (tx : SignedTx)
    (h : Stage alice bob mint aliceAta bobAta x y supply L) :
    Stage alice bob mint aliceAta bobAta x y supply (C.charge L tx) :=
  h.congr fun _ => Cluster.charge_data_owner _

/-! ### Any number of transactions -/

/-- Others do not take what alice has. -/
theorem Start.moves {txs : List SignedTx} (hP : Programs C)
    (hS : Setting C alice bob mint aliceAta bobAta) (htxs : ∀ tx ∈ txs, Without alice bob mint tx)
    (h : Start alice bob mint aliceAta bobAta L) :
    Start alice bob mint aliceAta bobAta (txs.foldl C.move L) ∧
      (L alice).lamports ≤ ((txs.foldl C.move L) alice).lamports := by
  refine Cluster.moves_keep (I := fun L' => Start alice bob mint aliceAta bobAta L' ∧
    (L alice).lamports ≤ (L' alice).lamports) ?_ ?_ ⟨h, Nat.le_refl _⟩
  · rintro tx htx L' ⟨h', hle⟩
    refine ⟨h'.charge C tx, ?_⟩
    rw [charge_unsigned (htxs tx htx).notAlice]
    exact hle
  · rintro tx htx ix L₁ L₂ - hx ⟨h', hle⟩
    exact ⟨h'.step hP hS (htxs tx htx) hx,
      hle.trans (hS.aliceKey.wallet hx (htxs tx htx).notAlice h'.aliceWallet).2⟩

theorem Stage.moves {txs : List SignedTx} {x y : Option UInt64} {supply : UInt64}
    (hP : Programs C) (hS : Setting C alice bob mint aliceAta bobAta)
    (htxs : ∀ tx ∈ txs, Without alice bob mint tx)
    (hall : (x.getD 0).toNat + (y.getD 0).toNat = supply.toNat)
    (h : Stage alice bob mint aliceAta bobAta x y supply L) :
    Stage alice bob mint aliceAta bobAta x y supply (txs.foldl C.move L) :=
  Cluster.moves_keep (fun tx _ _ h => h.charge C tx)
    (fun tx htx _ _ _ _ hx h => h.step hP hS (htxs tx htx) hx hall) h

/-! ## What the exercise does -/

theorem asks_ataInstruction {funder ata wallet m : Pubkey} :
    Asks (ataInstruction funder ata wallet m) (.createAta funder ata wallet m) := by
  have hsystem : pk SYSTEM isSome_system = systemProgramId :=
    Option.get_of_eq_some _ fromStr_system
  have h := @Asks.createAta funder ata wallet m
  rwa [← hsystem] at h

/--
What alice needs for the rest, with the rent of her own account, and that nobody has been at the
addresses before her.
-/
structure Ready (C : Cluster E) (alice aliceAta bobAta : Pubkey) (x y : Option UInt64) (n : ℕ)
    (L : Ledger) : Prop where
  funds : n + C.rent.minimumBalance 0 ≤ (L alice).lamports
  aliceVacant : x = none → IsWallet L aliceAta
  bobVacant : y = none → IsWallet L bobAta

section Steps

variable {x y : Option UInt64} {supply amount p q rent : UInt64} {n : ℕ} {L₁ : Ledger}

/-- What `create_account` leaves for the mint. -/
theorem allocated (hP : Programs C) (hS : Setting C alice bob mint aliceAta bobAta)
    (hcreate : C.execute S (sysCreateAccount alice mint rent MINT_LEN tokenProgram) L = .ok L₁) :
    L₁ mint = ⟨(L mint).lamports + rent.toNat, List.replicate 82 0, tokenProgram⟩ ∧
      L₁ alice = { L alice with lamports := (L alice).lamports - rent.toNat } ∧
      ∀ a, a ≠ alice → a ≠ mint → L₁ a = L a := by
  rw [hP.createAccount_ok asks_sysCreateAccount hS.alice_ne_mint hcreate]
  refine ⟨CreateAccount.apply_target, ?_, ?_⟩
  · simp [CreateAccount.apply, hS.alice_ne_mint]
  · intro a ha hm
    simp [CreateAccount.apply, ha, hm]

/-- The mint is created, and initialised. -/
theorem Start.created (hP : Programs C) (hS : Setting C alice bob mint aliceAta bobAta)
    (h : Start alice bob mint aliceAta bobAta L)
    (hcreate : C.execute S (sysCreateAccount alice mint rent MINT_LEN tokenProgram) L = .ok L₁)
    (hinit : C.execute S (initializeMint2 mint alice none) L₁ = .ok L') :
    Stage alice bob mint aliceAta bobAta none none 0 L' ∧ rent.toNat ≤ (L' mint).lamports ∧
      (Ready C alice aliceAta bobAta none none (n + rent.toNat) L →
        Ready C alice aliceAta bobAta none none n L') := by
  have hsolvent := hP.solvent hinit (hP.solvent hcreate h.solvent)
  obtain ⟨hmint, halice, hother⟩ := allocated hP hS hcreate
  obtain ⟨s₁, s₂, hL'⟩ := hP.initializeMint2_ok asks_initializeMint2 (by rw [hmint])
    (by rw [hmint]) hinit
  have hmint' : L' mint =
      ⟨(L mint).lamports + rent.toNat, (minted alice 0).pack s₁ s₂, tokenProgram⟩ := by
    rw [hL', wrote_self, hmint]
    rfl
  have halice' : L' alice = { L alice with lamports := (L alice).lamports - rent.toNat } := by
    rw [hL', wrote_other hS.alice_ne_mint, halice]
  have hother' : ∀ a, a ≠ alice → a ≠ mint → L' a = L a := by
    intro a ha hm
    rw [hL', wrote_other hm, hother a ha hm]
  have hbob := hother' bob hS.alice_ne_bob.symm hS.bob_ne_mint
  have ha := hother' aliceAta (hS.aliceKey.ne_ata hS.aliceDerived).symm
    (hS.mintKey.ne_ata hS.aliceDerived).symm
  have hb := hother' bobAta (hS.aliceKey.ne_ata hS.bobDerived).symm
    (hS.mintKey.ne_ata hS.bobDerived).symm
  refine ⟨⟨?_, ?_, ⟨?_, s₁, s₂, ?_⟩, Or.inl ?_, Or.inl ?_, hsolvent⟩, ?_,
    fun hready => ⟨?_, ?_, ?_⟩⟩
  · exact h.aliceWallet.congr (by rw [halice']) (by rw [halice'])
  · exact h.bobWallet.congr (by rw [hbob]) (by rw [hbob])
  · rw [hmint']
  · rw [hmint']
  · rw [ha]
    exact h.aliceEmpty
  · rw [hb]
    exact h.bobEmpty
  · rw [hmint']
    exact Nat.le_add_left _ _
  · have hfunds := hready.funds
    rw [halice']
    show n + C.rent.minimumBalance 0 ≤ (L alice).lamports - rent.toNat
    omega
  · exact fun hx => (hready.aliceVacant hx).congr (by rw [ha]) (by rw [ha])
  · exact fun hy => (hready.bobVacant hy).congr (by rw [hb]) (by rw [hb])

/-- Alice's account is created. -/
theorem Stage.aliceCreated (hP : Programs C) (hS : Setting C alice bob mint aliceAta bobAta)
    (h : Stage alice bob mint aliceAta bobAta none y supply L)
    (hx : C.execute S (ataInstruction alice aliceAta alice mint) L = .ok L') :
    Stage alice bob mint aliceAta bobAta (some 0) y supply L' ∧
      C.rent.minimumBalance 165 ≤ (L' aliceAta).lamports ∧
      (Ready C alice aliceAta bobAta none y (n + C.rent.minimumBalance 165) L →
        Ready C alice aliceAta bobAta (some 0) y n L') := by
  obtain ⟨-, htoken, hrent, hwallet, hcost, hframe⟩ := hP.createAta_ok asks_ataInstruction
    (hS.aliceKey.ne_ata hS.aliceDerived) h.mintAt nofun h.aliceWallet hx
  have hbob := hframe bob hS.alice_ne_bob.symm (hS.bobKey.ne_ata hS.aliceDerived)
  have hmint := hframe mint hS.alice_ne_mint.symm (hS.mintKey.ne_ata hS.aliceDerived)
  have hb := hframe bobAta (hS.aliceKey.ne_ata hS.bobDerived).symm hS.atas.symm
  refine ⟨⟨hwallet, h.bobWallet.congr (by rw [hbob]) (by rw [hbob]),
    h.mintAt.congr (by rw [hmint]) (by rw [hmint]), htoken,
    h.bobHolds.congr (by rw [hb]) (by rw [hb]), hP.solvent hx h.solvent⟩, hrent,
    fun hready => ⟨?_, nofun, fun hy => ?_⟩⟩
  · have := hready.funds
    omega
  · exact (hready.bobVacant hy).congr (by rw [hb]) (by rw [hb])

/-- Bob's account is created, which was not there before. -/
theorem Stage.bobCreated (hP : Programs C) (hS : Setting C alice bob mint aliceAta bobAta)
    (h : Stage alice bob mint aliceAta bobAta x none supply L)
    (hx : C.execute S (ataInstruction alice bobAta bob mint) L = .ok L') :
    (L bobAta).data = [] ∧ Stage alice bob mint aliceAta bobAta x (some 0) supply L' ∧
      C.rent.minimumBalance 165 ≤ (L' bobAta).lamports ∧ L' aliceAta = L aliceAta ∧
      (Ready C alice aliceAta bobAta x none (n + C.rent.minimumBalance 165) L →
        Ready C alice aliceAta bobAta x (some 0) n L') := by
  obtain ⟨hempty, htoken, hrent, hwallet, hcost, hframe⟩ := hP.createAta_ok asks_ataInstruction
    (hS.aliceKey.ne_ata hS.bobDerived) h.mintAt nofun h.aliceWallet hx
  have hbob := hframe bob hS.alice_ne_bob.symm (hS.bobKey.ne_ata hS.bobDerived)
  have hmint := hframe mint hS.alice_ne_mint.symm (hS.mintKey.ne_ata hS.bobDerived)
  have ha := hframe aliceAta (hS.aliceKey.ne_ata hS.aliceDerived).symm hS.atas
  refine ⟨hempty, ⟨hwallet, h.bobWallet.congr (by rw [hbob]) (by rw [hbob]),
    h.mintAt.congr (by rw [hmint]) (by rw [hmint]), h.aliceHolds.congr (by rw [ha]) (by rw [ha]),
    htoken, hP.solvent hx h.solvent⟩, hrent, ha, fun hready => ⟨?_, fun hx => ?_, nofun⟩⟩
  · have := hready.funds
    omega
  · exact (hready.aliceVacant hx).congr (by rw [ha]) (by rw [ha])

/-- Alice issues `amount` to herself. -/
theorem Stage.issued (hP : Programs C) (hS : Setting C alice bob mint aliceAta bobAta)
    (h : Stage alice bob mint aliceAta bobAta (some p) y supply L)
    (hx : C.execute S (mintTo mint aliceAta alice amount) L = .ok L') :
    Stage alice bob mint aliceAta bobAta (some (p + amount)) y (supply + amount) L' ∧
      (∀ a, (L' a).lamports = (L a).lamports) ∧
      (Ready C alice aliceAta bobAta (some p) y n L →
        Ready C alice aliceAta bobAta (some (p + amount)) y n L') := by
  have hne : mint ≠ aliceAta := hS.mintKey.ne_ata hS.aliceDerived
  obtain ⟨-, s₁, s₂, s₃, s₄, s₅, hL'⟩ := hP.mintTo_ok asks_mintTo h.mintAt h.aliceHolds rfl hx
  have hlamports : ∀ a, (L' a).lamports = (L a).lamports := by
    intro a
    rw [hL', wrote_lamports, wrote_lamports]
  have hmint : L' mint = { L mint with data := (minted alice (supply + amount)).pack s₁ s₂ } := by
    rw [hL', wrote_other hne, wrote_self]
    rfl
  have ha : L' aliceAta =
      { L aliceAta with data := (holding alice mint (p + amount)).pack s₃ s₄ s₅ } := by
    rw [hL', wrote_self, wrote_other hne.symm]
    rfl
  have hother : ∀ a, a ≠ mint → a ≠ aliceAta → L' a = L a := by
    intro a hm ha
    rw [hL', wrote_other ha, wrote_other hm]
  have halice := hother alice hS.alice_ne_mint (hS.aliceKey.ne_ata hS.aliceDerived)
  have hbob := hother bob hS.bob_ne_mint (hS.bobKey.ne_ata hS.aliceDerived)
  have hb := hother bobAta (hS.mintKey.ne_ata hS.bobDerived).symm hS.atas.symm
  refine ⟨⟨h.aliceWallet.congr (by rw [halice]) (by rw [halice]),
    h.bobWallet.congr (by rw [hbob]) (by rw [hbob]), ⟨?_, s₁, s₂, ?_⟩, ⟨?_, s₃, s₄, s₅, ?_⟩,
    h.bobHolds.congr (by rw [hb]) (by rw [hb]), hP.solvent hx h.solvent⟩, hlamports,
    fun hready => ⟨?_, nofun, fun hy => ?_⟩⟩
  · rw [hmint]
    exact h.mintAt.owner
  · rw [hmint]
  · rw [ha]
    exact h.aliceHolds.owner
  · rw [ha]
  · rw [halice]
    exact hready.funds
  · exact (hready.bobVacant hy).congr (by rw [hb]) (by rw [hb])

/-- Alice sends `amount` to bob. -/
theorem Stage.sent (hP : Programs C) (hS : Setting C alice bob mint aliceAta bobAta)
    (h : Stage alice bob mint aliceAta bobAta (some p) (some q) supply L)
    (hx : C.execute S (transferChecked aliceAta mint bobAta alice amount) L = .ok L') :
    Stage alice bob mint aliceAta bobAta (some (p - amount)) (some (q + amount)) supply L' ∧
      (∀ a, (L' a).lamports = (L a).lamports) ∧
      (Ready C alice aliceAta bobAta (some p) (some q) n L →
        Ready C alice aliceAta bobAta (some (p - amount)) (some (q + amount)) n L') := by
  obtain ⟨-, -, s₁, s₂, s₃, s₄, s₅, s₆, hL'⟩ := hP.transferChecked_ok asks_transferChecked hS.atas
    h.aliceHolds rfl rfl rfl h.bobHolds rfl hx
  have hlamports : ∀ a, (L' a).lamports = (L a).lamports := by
    intro a
    rw [hL', wrote_lamports, wrote_lamports]
  have ha : L' aliceAta =
      { L aliceAta with data := (holding alice mint (p - amount)).pack s₁ s₂ s₃ } := by
    rw [hL', wrote_other hS.atas, wrote_self]
    rfl
  have hb : L' bobAta =
      { L bobAta with data := (holding bob mint (q + amount)).pack s₄ s₅ s₆ } := by
    rw [hL', wrote_self, wrote_other hS.atas.symm]
    rfl
  have hother : ∀ a, a ≠ aliceAta → a ≠ bobAta → L' a = L a := by
    intro a ha hb
    rw [hL', wrote_other hb, wrote_other ha]
  have halice := hother alice (hS.aliceKey.ne_ata hS.aliceDerived)
    (hS.aliceKey.ne_ata hS.bobDerived)
  have hbob := hother bob (hS.bobKey.ne_ata hS.aliceDerived) (hS.bobKey.ne_ata hS.bobDerived)
  have hmint := hother mint (hS.mintKey.ne_ata hS.aliceDerived) (hS.mintKey.ne_ata hS.bobDerived)
  refine ⟨⟨h.aliceWallet.congr (by rw [halice]) (by rw [halice]),
    h.bobWallet.congr (by rw [hbob]) (by rw [hbob]),
    h.mintAt.congr (by rw [hmint]) (by rw [hmint]), ⟨?_, s₁, s₂, s₃, ?_⟩, ⟨?_, s₄, s₅, s₆, ?_⟩,
    hP.solvent hx h.solvent⟩, hlamports, fun hready => ⟨?_, nofun, nofun⟩⟩
  · rw [ha]
    exact h.aliceHolds.owner
  · rw [ha]
  · rw [hb]
    exact h.bobHolds.owner
  · rw [hb]
  · rw [hlamports]
    exact hready.funds

end Steps

/-! ## Transactions -/

section Transactions

variable (C alice bob mint aliceAta bobAta)

/-- The transactions of `main`. -/
def createTx : SignedTx where
  payer := alice
  instructions :=
    [sysCreateAccount alice mint (UInt64.ofNat (C.rent.minimumBalance MINT_LEN.toNat)) MINT_LEN
        tokenProgram,
      initializeMint2 mint alice none]

def aliceTx : SignedTx where
  payer := alice
  instructions := [ataInstruction alice aliceAta alice mint]

def mintTx : SignedTx where
  payer := alice
  instructions := [mintTo mint aliceAta alice 1000000000]

def doomedTx : SignedTx where
  payer := alice
  instructions := [transferChecked aliceAta mint bobAta alice 1]

def bobTx : SignedTx where
  payer := alice
  instructions :=
    [ataInstruction alice bobAta bob mint, transferChecked aliceAta mint bobAta alice 250000000]

/-- What alice pays for the last of them: the rent of bob's account, and the fee. -/
def bobCost : ℕ := 0 + C.rent.minimumBalance 165 + C.fee (bobTx alice bob mint aliceAta bobAta)

def mintCost : ℕ := bobCost C alice bob mint aliceAta bobAta + C.fee (mintTx alice mint aliceAta)

def aliceCost : ℕ :=
  mintCost C alice bob mint aliceAta bobAta + C.rent.minimumBalance 165 +
    C.fee (aliceTx alice mint aliceAta)

/-- What she pays for all of them. -/
def cost : ℕ :=
  aliceCost C alice bob mint aliceAta bobAta + C.rent.minimumBalance MINT_LEN.toNat +
    C.fee (createTx C alice mint)

end Transactions

variable {x y : Option UInt64} {n : ℕ}

theorem Ready.charge (h : Ready C alice aliceAta bobAta x y (n + C.fee tx) L)
    (htx : tx.payer = alice) (hwallet : IsWallet L alice) :
    C.Payable L tx ∧ Ready C alice aliceAta bobAta x y n (C.charge L tx) := by
  subst htx
  have hsame := fun a => @Cluster.charge_data_owner E C L tx a
  have hfunds := h.funds
  refine ⟨Charge.payable_of_funds hwallet.owner hwallet.data ?_, ?_,
    fun hx => (h.aliceVacant hx).congr (hsame _).1 (hsame _).2,
    fun hy => (h.bobVacant hy).congr (hsame _).1 (hsame _).2⟩
  · show C.fee tx + C.rent.minimumBalance 0 ≤ (L tx.payer).lamports
    omega
  · rw [Cluster.charge_payer]
    omega

/-- Alice never owes rent. -/
theorem Ready.clear (h : Ready C alice aliceAta bobAta x y n L) (hwallet : IsWallet L alice) :
    C.rent.Clear (L alice) := by
  refine Or.inr ?_
  rw [hwallet.data]
  exact (Nat.le_add_left _ _).trans h.funds

theorem signed_create : (Cluster.newSignedWithPayer (createTx C alice mint).instructions alice
    [alice, mint] : Outcome (ClusterError E) SignedTx) = .ok (createTx C alice mint) := by
  simp [Cluster.newSignedWithPayer, createTx, TransactionLifecycle.requests,
    TransactionLifecycle.metas, TransactionLifecycle.signs, sysCreateAccount, initializeMint2,
    AccountMeta.new]

theorem signed_alice : (Cluster.newSignedWithPayer (aliceTx alice mint aliceAta).instructions alice
    [alice] : Outcome (ClusterError E) SignedTx) = .ok (aliceTx alice mint aliceAta) := by
  refine Cluster.newSignedWithPayer_alone ?_
  simp [aliceTx, ataInstruction, AccountMeta.new, AccountMeta.newReadonly]

theorem signed_mint : (Cluster.newSignedWithPayer (mintTx alice mint aliceAta).instructions alice
    [alice] : Outcome (ClusterError E) SignedTx) = .ok (mintTx alice mint aliceAta) := by
  refine Cluster.newSignedWithPayer_alone ?_
  simp [mintTx, mintTo, AccountMeta.new, AccountMeta.newReadonly]

theorem signed_doomed : (Cluster.newSignedWithPayer
    (doomedTx alice mint aliceAta bobAta).instructions alice [alice] :
      Outcome (ClusterError E) SignedTx) = .ok (doomedTx alice mint aliceAta bobAta) := by
  refine Cluster.newSignedWithPayer_alone ?_
  simp [doomedTx, transferChecked, AccountMeta.new, AccountMeta.newReadonly]

/-- Bob does not sign. -/
theorem signed_bob : (Cluster.newSignedWithPayer
    (bobTx alice bob mint aliceAta bobAta).instructions alice [alice] :
      Outcome (ClusterError E) SignedTx) = .ok (bobTx alice bob mint aliceAta bobAta) := by
  refine Cluster.newSignedWithPayer_alone ?_
  simp [bobTx, ataInstruction, transferChecked, AccountMeta.new, AccountMeta.newReadonly]

/-- Alice's signature is one. -/
theorem Setting.signed (hS : Setting C alice bob mint aliceAta bobAta)
    (h : (Cluster.newSignedWithPayer tx.instructions alice [alice] :
      Outcome (ClusterError E) SignedTx) = .ok tx) : Signed C tx.signers := by
  intro a ha
  rw [List.mem_singleton.mp (Cluster.signers_subset h a ha)]
  exact hS.aliceKey.isOnCurve

/-- The exercise writes to nothing that is the runtime's. -/
theorem Setting.grants (hS : Setting C alice bob mint aliceAta bobAta)
    (h : ∀ m ∈ ix.accounts, m.isWritable = true → m.pubkey ∈ [alice, mint, aliceAta, bobAta]) :
    C.Grants ix := fun m hm hw => hS.unreserved _ (h m hm hw)

theorem mint_mem_signers : mint ∈ (createTx C alice mint).signers := by
  rw [Cluster.mem_signers]
  simp [createTx, TransactionLifecycle.requests, TransactionLifecycle.metas,
    TransactionLifecycle.signs, sysCreateAccount, AccountMeta.new]

/-! What they write to. -/

theorem writable_create (h : a ∈ (createTx C alice mint).writable) : a = alice ∨ a = mint := by
  simpa [SignedTx.writable, createTx, TransactionLifecycle.requests, TransactionLifecycle.metas,
    sysCreateAccount, initializeMint2, AccountMeta.new, or_assoc] using h

theorem writable_alice (h : a ∈ (aliceTx alice mint aliceAta).writable) :
    a = alice ∨ a = aliceAta := by
  simpa [SignedTx.writable, aliceTx, TransactionLifecycle.requests, TransactionLifecycle.metas,
    ataInstruction, AccountMeta.new, AccountMeta.newReadonly] using h

theorem writable_mint (h : a ∈ (mintTx alice mint aliceAta).writable) :
    a = alice ∨ a = mint ∨ a = aliceAta := by
  simpa [SignedTx.writable, mintTx, TransactionLifecycle.requests, TransactionLifecycle.metas,
    mintTo, AccountMeta.new, AccountMeta.newReadonly] using h

theorem writable_bob (h : a ∈ (bobTx alice bob mint aliceAta bobAta).writable) :
    a = alice ∨ a = bobAta ∨ a = aliceAta := by
  have hor : (a = bobAta ∨ a = aliceAta ∨ a = bobAta) ↔ (a = bobAta ∨ a = aliceAta) := by tauto
  simpa [SignedTx.writable, bobTx, TransactionLifecycle.requests, TransactionLifecycle.metas,
    ataInstruction, transferChecked, AccountMeta.new, AccountMeta.newReadonly, hor] using h

theorem create_ok (hP : Programs C) (hS : Setting C alice bob mint aliceAta bobAta)
    (h : Start alice bob mint aliceAta bobAta L)
    (hp : C.process L (createTx C alice mint) = (none, L')) :
    Stage alice bob mint aliceAta bobAta none none 0 L' ∧
      (Ready C alice aliceAta bobAta none none
          (n + C.rent.minimumBalance MINT_LEN.toNat + C.fee (createTx C alice mint)) L →
        Ready C alice aliceAta bobAta none none n L') := by
  obtain ⟨L₁, hcreate, L₂, hinit, rfl⟩ := Cluster.executes_of_process hp
  have hrent : (UInt64.ofNat (C.rent.minimumBalance MINT_LEN.toNat)).toNat =
      C.rent.minimumBalance MINT_LEN.toNat := UInt64.toNat_ofNat_of_lt' hS.rentFits
  have hcharged := h.charge C (createTx C alice mint)
  obtain ⟨hstage, -, hready⟩ := hcharged.created (n := n) hP hS hcreate hinit
  refine ⟨hstage, fun h' => hready ?_⟩
  rw [hrent]
  exact (h'.charge rfl h.aliceWallet).2

theorem create_succeeds (hP : Programs C) (hS : Setting C alice bob mint aliceAta bobAta)
    (h : Start alice bob mint aliceAta bobAta L) (habsent : L mint = .absent)
    (hready : Ready C alice aliceAta bobAta none none
      (n + C.rent.minimumBalance MINT_LEN.toNat + C.fee (createTx C alice mint)) L) :
    ∃ L', C.process L (createTx C alice mint) = (none, L') := by
  have hrent : (UInt64.ofNat (C.rent.minimumBalance MINT_LEN.toNat)).toNat =
      C.rent.minimumBalance MINT_LEN.toNat := UInt64.toNat_ofNat_of_lt' hS.rentFits
  obtain ⟨hpay, hready'⟩ := hready.charge rfl h.aliceWallet
  have hfunds := hready'.funds
  have hsigned : Signed C (createTx C alice mint).signers := by
    intro a ha
    have hmem : a = alice ∨ a = mint := by
      simpa using Cluster.signers_subset (E := E) signed_create a ha
    rcases hmem with rfl | rfl
    · exact hS.aliceKey.isOnCurve
    · exact hS.mintKey.isOnCurve
  have hcharged := h.charge C (createTx C alice mint)
  have habsent' : C.charge L (createTx C alice mint) mint = .absent := by
    rw [Cluster.charge_other hS.alice_ne_mint.symm, habsent]
  obtain ⟨L₁, hcreate⟩ : ∃ L₁, C.execute (createTx C alice mint).signers
      (sysCreateAccount alice mint (UInt64.ofNat (C.rent.minimumBalance MINT_LEN.toNat)) MINT_LEN
        tokenProgram) (C.charge L (createTx C alice mint)) = .ok L₁ :=
    hP.createAccount_succeeds hsigned
      (hS.grants (by simp [sysCreateAccount, AccountMeta.new])) asks_sysCreateAccount
      hS.alice_ne_mint Cluster.payer_mem_signers mint_mem_signers hcharged.aliceWallet habsent'
      (by rw [hrent]; omega) (by decide)
  obtain ⟨hmint, -, -⟩ := allocated hP hS hcreate
  obtain ⟨L', hinit⟩ : ∃ L', C.execute (createTx C alice mint).signers
      (initializeMint2 mint alice none) L₁ = .ok L' := by
    refine hP.initializeMint2_succeeds hsigned
      (hS.grants (by simp [initializeMint2, AccountMeta.new])) asks_initializeMint2 ?_ ?_ ?_
    · rw [hmint]
    · rw [hmint]
    · rw [hmint, hrent]
      exact Nat.le_add_left _ _
  obtain ⟨hstage, hpaid, hrest⟩ := hcharged.created (n := n) hP hS hcreate hinit
  rw [hrent] at hpaid hrest
  refine ⟨L', Cluster.process_eq_none.mpr ⟨hpay, ⟨L₁, hcreate, L', hinit, rfl⟩, fun a ha => ?_⟩⟩
  refine Rent.Steady.allows (Or.inl ?_)
  rcases writable_create ha with rfl | rfl
  · exact (hrest hready').clear hstage.aliceWallet
  · exact hstage.mintAt.clear hpaid

variable {supply p : UInt64}

theorem alice_ok (hP : Programs C) (hS : Setting C alice bob mint aliceAta bobAta)
    (h : Stage alice bob mint aliceAta bobAta none y supply L)
    (hp : C.process L (aliceTx alice mint aliceAta) = (none, L')) :
    Stage alice bob mint aliceAta bobAta (some 0) y supply L' ∧
      (Ready C alice aliceAta bobAta none y
          (n + C.rent.minimumBalance 165 + C.fee (aliceTx alice mint aliceAta)) L →
        Ready C alice aliceAta bobAta (some 0) y n L') := by
  obtain ⟨L₁, hcreate, rfl⟩ := Cluster.executes_of_process hp
  have hcharged := h.charge C (aliceTx alice mint aliceAta)
  obtain ⟨hstage, -, hready⟩ := hcharged.aliceCreated (n := n) hP hS hcreate
  exact ⟨hstage, fun h' => hready (h'.charge rfl h.aliceWallet).2⟩

theorem alice_succeeds (hP : Programs C) (hS : Setting C alice bob mint aliceAta bobAta)
    (h : Stage alice bob mint aliceAta bobAta none y supply L)
    (hready : Ready C alice aliceAta bobAta none y
      (n + C.rent.minimumBalance 165 + C.fee (aliceTx alice mint aliceAta)) L) :
    ∃ L', C.process L (aliceTx alice mint aliceAta) = (none, L') := by
  have hcharged := h.charge C (aliceTx alice mint aliceAta)
  obtain ⟨hpay, hready'⟩ := hready.charge rfl h.aliceWallet
  have hfunds := hready'.funds
  obtain ⟨L', hx⟩ := hP.createAta_succeeds (hS.signed signed_alice)
    (hS.grants (by simp [ataInstruction, AccountMeta.new, AccountMeta.newReadonly]))
    asks_ataInstruction (hS.aliceKey.ne_ata hS.aliceDerived) hS.aliceDerived hcharged.mintAt rfl
    nofun (S := (aliceTx alice mint aliceAta).signers) Cluster.payer_mem_signers
    hcharged.aliceWallet (hready'.aliceVacant rfl) (by omega)
  obtain ⟨hstage, hpaid, hrest⟩ := hcharged.aliceCreated (n := n) hP hS hx
  refine ⟨L', Cluster.process_eq_none.mpr ⟨hpay, ⟨L', hx, rfl⟩, fun a ha => ?_⟩⟩
  refine Rent.Steady.allows (Or.inl ?_)
  rcases writable_alice ha with rfl | rfl
  · exact (hrest hready').clear hstage.aliceWallet
  · exact hstage.aliceHolds.clear hpaid

theorem mint_ok (hP : Programs C) (hS : Setting C alice bob mint aliceAta bobAta)
    (h : Stage alice bob mint aliceAta bobAta (some p) y supply L)
    (hp : C.process L (mintTx alice mint aliceAta) = (none, L')) :
    Stage alice bob mint aliceAta bobAta (some (p + 1000000000)) y (supply + 1000000000) L' ∧
      (Ready C alice aliceAta bobAta (some p) y (n + C.fee (mintTx alice mint aliceAta)) L →
        Ready C alice aliceAta bobAta (some (p + 1000000000)) y n L') := by
  obtain ⟨L₁, hissue, rfl⟩ := Cluster.executes_of_process hp
  have hcharged := h.charge C (mintTx alice mint aliceAta)
  obtain ⟨hstage, -, hready⟩ := hcharged.issued (n := n) hP hS hissue
  exact ⟨hstage, fun h' => hready (h'.charge rfl h.aliceWallet).2⟩

theorem mint_succeeds (hP : Programs C) (hS : Setting C alice bob mint aliceAta bobAta)
    (h : Stage alice bob mint aliceAta bobAta (some p) y supply L)
    (hready : Ready C alice aliceAta bobAta (some p) y (n + C.fee (mintTx alice mint aliceAta)) L)
    (hsupply : supply.toNat + 1000000000 < 2 ^ 64) (hp : p.toNat + 1000000000 < 2 ^ 64) :
    ∃ L', C.process L (mintTx alice mint aliceAta) = (none, L') := by
  have hcharged := h.charge C (mintTx alice mint aliceAta)
  obtain ⟨hpay, hready'⟩ := hready.charge rfl h.aliceWallet
  obtain ⟨L', hx⟩ : ∃ L', C.execute (mintTx alice mint aliceAta).signers
      (mintTo mint aliceAta alice 1000000000) (C.charge L (mintTx alice mint aliceAta)) = .ok L' :=
    hP.mintTo_succeeds (hS.signed signed_mint)
      (hS.grants (by simp [mintTo, AccountMeta.new, AccountMeta.newReadonly])) asks_mintTo
      hcharged.mintAt rfl rfl hcharged.aliceHolds rfl rfl rfl Cluster.payer_mem_signers
      hcharged.aliceWallet hsupply hp
  obtain ⟨hstage, hsame, hrest⟩ := hcharged.issued (n := n) hP hS hx
  refine ⟨L', Cluster.process_eq_none.mpr ⟨hpay, ⟨L', hx, rfl⟩, fun a ha => ?_⟩⟩
  rcases writable_mint ha with rfl | rfl | rfl
  · exact Rent.Steady.allows (Or.inl ((hrest hready').clear hstage.aliceWallet))
  · exact Rent.Steady.allows (hcharged.mintAt.steady hstage.mintAt (hsame _))
  · exact Rent.Steady.allows (hcharged.aliceHolds.steady hstage.aliceHolds (hsame _))

/-- What `simulate_transaction` says of a transfer to an address where nothing is. -/
theorem doomed_fails (hP : Programs C) (h : (L bobAta).data = []) :
    ∃ e, (C.process L (doomedTx alice mint aliceAta bobAta)).1 = some e := by
  rcases hp : C.process L (doomedTx alice mint aliceAta bobAta) with ⟨_ | e, L'⟩
  · obtain ⟨L₁, hx, -⟩ := Cluster.executes_of_process hp
    obtain ⟨e, he⟩ := hP.transferChecked_absent asks_transferChecked
      ((@Cluster.charge_data_owner E C L (doomedTx alice mint aliceAta bobAta) bobAta).1.trans h)
    rw [he] at hx
    cases hx
  · exact ⟨e, rfl⟩

/-- Bob gets his account and his share, if there was nothing at his address. -/
theorem bob_ok (hP : Programs C) (hS : Setting C alice bob mint aliceAta bobAta)
    (h : Stage alice bob mint aliceAta bobAta (some p) none supply L)
    (hp : C.process L (bobTx alice bob mint aliceAta bobAta) = (none, L')) :
    (L bobAta).data = [] ∧
      Stage alice bob mint aliceAta bobAta (some (p - 250000000)) (some 250000000) supply L' ∧
      (Ready C alice aliceAta bobAta (some p) none
          (n + C.rent.minimumBalance 165 + C.fee (bobTx alice bob mint aliceAta bobAta)) L →
        Ready C alice aliceAta bobAta (some (p - 250000000)) (some 250000000) n L') := by
  obtain ⟨L₁, hcreate, L₂, hsend, rfl⟩ := Cluster.executes_of_process hp
  have hcharged := h.charge C (bobTx alice bob mint aliceAta bobAta)
  obtain ⟨hempty, hstage, -, -, hrest⟩ := hcharged.bobCreated (n := n) hP hS hcreate
  obtain ⟨hsent, hsame, hrest'⟩ := hstage.sent (n := n) hP hS hsend
  rw [UInt64.zero_add] at hsent hrest'
  exact ⟨(Cluster.charge_data_owner bobAta).1.symm.trans hempty, hsent,
    fun h' => hrest' (hrest (h'.charge rfl h.aliceWallet).2)⟩

theorem bob_succeeds (hP : Programs C) (hS : Setting C alice bob mint aliceAta bobAta)
    (h : Stage alice bob mint aliceAta bobAta (some p) none supply L)
    (hready : Ready C alice aliceAta bobAta (some p) none
      (n + C.rent.minimumBalance 165 + C.fee (bobTx alice bob mint aliceAta bobAta)) L)
    (hp : 250000000 ≤ p) :
    ∃ L', C.process L (bobTx alice bob mint aliceAta bobAta) = (none, L') := by
  have hcharged := h.charge C (bobTx alice bob mint aliceAta bobAta)
  obtain ⟨hpay, hready'⟩ := hready.charge rfl h.aliceWallet
  have hfunds := hready'.funds
  obtain ⟨L₁, hcreate⟩ := hP.createAta_succeeds (hS.signed signed_bob)
    (hS.grants (by simp [ataInstruction, AccountMeta.new, AccountMeta.newReadonly]))
    asks_ataInstruction (hS.aliceKey.ne_ata hS.bobDerived) hS.bobDerived hcharged.mintAt rfl nofun
    (S := (bobTx alice bob mint aliceAta bobAta).signers) Cluster.payer_mem_signers
    hcharged.aliceWallet (hready'.bobVacant rfl) (by omega)
  obtain ⟨-, hstage, hpaid, hother, hrest⟩ := hcharged.bobCreated (n := n) hP hS hcreate
  have hfits : (0 : UInt64).toNat + (250000000 : UInt64).toNat < 2 ^ 64 := by decide
  obtain ⟨L', hsend⟩ : ∃ L', C.execute (bobTx alice bob mint aliceAta bobAta).signers
      (transferChecked aliceAta mint bobAta alice 250000000) L₁ = .ok L' :=
    hP.transferChecked_succeeds (hS.signed signed_bob)
      (hS.grants (by simp [transferChecked, AccountMeta.new, AccountMeta.newReadonly]))
      asks_transferChecked hS.atas hstage.mintAt rfl rfl hstage.aliceHolds rfl rfl rfl rfl rfl
      hstage.bobHolds rfl rfl rfl Cluster.payer_mem_signers hstage.aliceWallet hp hfits
  obtain ⟨hsent, hsame, hrest'⟩ := hstage.sent (n := n) hP hS hsend
  refine ⟨L', Cluster.process_eq_none.mpr ⟨hpay, ⟨L₁, hcreate, L', hsend, rfl⟩, fun a ha => ?_⟩⟩
  rcases writable_bob ha with rfl | rfl | rfl
  · exact Rent.Steady.allows (Or.inl ((hrest' (hrest hready')).clear hsent.aliceWallet))
  · exact Rent.Steady.allows (Or.inl (hsent.bobHolds.clear (by rwa [hsame])))
  · refine Rent.Steady.allows (hcharged.aliceHolds.steady hsent.aliceHolds ?_)
    rw [hsame, hother]

/-! ## What it prints -/

section Report

variable (C alice bob mint aliceAta bobAta)

def runtimeReport (key : Pubkey) (lamports : ℕ) (owner : Pubkey) (bytes : ℕ) : List Line :=
  [.address key, .lamports lamports, .runtimeOwner owner, .executable (C.executable key),
    .dataLen bytes]

def mintReport (lamports : ℕ) (supply : UInt64) : List Line :=
  .mintHeading :: runtimeReport C mint lamports tokenProgram 82 ++
    .mintLayout :: (minted alice supply).lines

def accountReport (label : String) (ata wallet : Pubkey) (lamports : ℕ) (amount : UInt64) :
    List Line :=
  .accountHeading label :: runtimeReport C ata lamports tokenProgram 165 ++
    .accountLayout :: (holding wallet mint amount).shown.lines

/-- What `main` prints. The lamports are those of the accounts when they are looked at. -/
def report (lamports : ℕ → ℕ) (e : TransactionError E) : List (ExerciseLine E) :=
  [.alice alice, .bob bob] ++
  (runtimeReport C alice (lamports 0) systemProgramId 0).map .shown ++
  (mintReport C alice mint (lamports 1) 0).map .shown ++
  [.aliceAta aliceAta] ++
  (accountReport C mint "alice" aliceAta alice (lamports 2) 0).map .shown ++
  (mintReport C alice mint (lamports 3) 1000000000).map .shown ++
  (accountReport C mint "alice" aliceAta alice (lamports 4) 1000000000).map .shown ++
  [.bobAta bobAta, .err (some e)] ++
  (accountReport C mint "alice" aliceAta alice (lamports 5) 750000000).map .shown ++
  (accountReport C mint "bob" bobAta bob (lamports 6) 250000000).map .shown ++
  [.supply 1000000000, .aliceAmount 750000000, .bobAmount 250000000, .total 1000000000 true]

end Report

section Shown

variable {v : Mint} {t : TokenAccount} {label : String}

theorem shows_wallet (h : IsWallet L a) (hfunds : 0 < (L a).lamports) :
    (showRuntime (C.view L) a).result = .ok [] ∧
      ∃ n, (showRuntime (C.view L) a).lines = runtimeReport C a n systemProgramId 0 := by
  have hget : (C.view L).getAccount a = .ok (L a) := by
    refine CounterPda.RpcClient.serves_ofLedger L a fun hc => ?_
    simp [hc, Account.absent] at hfunds
  rw [showRuntime_eq hget]
  refine ⟨congrArg _ h.data, (L a).lamports, ?_⟩
  simp [runtimeLines, runtimeReport, h.owner, h.data, Cluster.view]

theorem shows_mint {supply : UInt64} (h : MintAt L m (minted w supply)) :
    (showMint (C.view L) m).result = .ok () ∧
      ∃ n, (showMint (C.view L) m).lines = mintReport C w m n supply := by
  have hget : (C.view L).getAccount m = .ok (L m) :=
    CounterPda.RpcClient.serves_ofLedger L m h.not_absent
  rw [showMint_eq hget (Nat.le_of_eq h.length.symm), h.read]
  refine ⟨rfl, (L m).lamports, ?_⟩
  simp [runtimeLines, mintReport, runtimeReport, h.owner, h.length, Cluster.view]

theorem shows_account {amount : UInt64} (h : TokenAt L a (holding w m amount)) :
    (showTokenAccount (C.view L) label a).result = .ok () ∧
      ∃ n, (showTokenAccount (C.view L) label a).lines = accountReport C m label a w n amount := by
  have hget : (C.view L).getAccount a = .ok (L a) :=
    CounterPda.RpcClient.serves_ofLedger L a h.not_absent
  rw [showTokenAccount_eq hget (Nat.le_of_eq h.length.symm), h.read]
  refine ⟨rfl, (L a).lamports, ?_⟩
  simp [runtimeLines, accountReport, runtimeReport, h.owner, h.length, Cluster.view]

/-- The supply and the amounts, where section 7 slices. -/
theorem MintAt.readU64 (h : MintAt L m v) : readU64 (L m).data 36 44 = .ok v.supply := by
  rw [readU64_eq rfl, if_pos (by rw [h.length]; omega)]
  exact congrArg (fun v : Mint => Outcome.ok v.supply) h.read

theorem TokenAt.readU64 (h : TokenAt L a t) : readU64 (L a).data 64 72 = .ok t.amount := by
  rw [readU64_eq rfl, if_pos (by rw [h.length]; omega)]
  exact congrArg (fun v : TokenFields => Outcome.ok v.amount)
    (h.read (Nat.le_of_eq h.length.symm))

end Shown

/-! ## The exercise -/

/-- What may happen before a call. When it is `calm`, nothing does. -/
def Allowed (alice bob mint : Pubkey) (calm : Prop) : Option (List SignedTx) → Prop
  | none => ¬ calm
  | some txs => (calm → txs = []) ∧ ∀ tx ∈ txs, Without alice bob mint tx

/-- What is only needed in a calm is stable in one. -/
theorem calm_stable {calm : Prop} {txs : List SignedTx} {P : Ledger → Prop}
    (h : Allowed alice bob mint calm (some txs)) (hP : calm → P L) :
    calm → P (txs.foldl C.move L) := by
  intro hc
  rw [h.1 hc]
  exact hP hc

/-- What is there stays there. -/
theorem Stage.moves_there {txs : List SignedTx} {supply : UInt64}
    (hP : Programs C) (hS : Setting C alice bob mint aliceAta bobAta)
    (htxs : ∀ tx ∈ txs, Without alice bob mint tx)
    (hall : (x.getD 0).toNat + ((none : Option UInt64).getD 0).toNat = supply.toNat)
    (h : Stage alice bob mint aliceAta bobAta x none supply L) (hthere : (L bobAta).data ≠ []) :
    ((txs.foldl C.move L) bobAta).data ≠ [] := by
  refine (Cluster.moves_keep (I := fun L => Stage alice bob mint aliceAta bobAta x none supply L ∧
    (L bobAta).data ≠ []) ?_ ?_ ⟨h, hthere⟩).2
  · rintro tx htx L' ⟨h', hthere'⟩
    refine ⟨h'.charge C tx, ?_⟩
    rw [(Cluster.charge_data_owner bobAta).1]
    exact hthere'
  · rintro tx htx ix L₁ L₂ - hx ⟨h', hthere'⟩
    refine ⟨h'.step hP hS (htxs tx htx) hx hall, ?_⟩
    rcases h'.bobHolds with hempty | ⟨amount, ht⟩
    · exact absurd hempty hthere'
    · obtain ⟨more, -, ht'⟩ :=
        hS.bobKey.token hx (htxs tx htx).notBob h'.bobWallet h'.mintAt free_minted ht
      intro hc
      have := ht'.length
      simp [hc] at this

/-- A stage, and what alice needs in a calm for the rest of `main`. -/
def At (C : Cluster E) (alice bob mint aliceAta bobAta : Pubkey) (calm : Prop)
    (x y : Option UInt64) (supply : UInt64) (n : ℕ) (L : Ledger) : Prop :=
  Stage alice bob mint aliceAta bobAta x y supply L ∧
    (calm → Ready C alice aliceAta bobAta x y n L)

section Run

variable {calm : Prop}

theorem At.stable {supply : UInt64} (hP : Programs C)
    (hS : Setting C alice bob mint aliceAta bobAta)
    (hall : (x.getD 0).toNat + (y.getD 0).toNat = supply.toNat) :
    ∀ L txs, Allowed alice bob mint calm (some txs) →
      At C alice bob mint aliceAta bobAta calm x y supply n L →
      At C alice bob mint aliceAta bobAta calm x y supply n (txs.foldl C.move L) :=
  fun _ _ hallowed h => ⟨h.1.moves hP hS hallowed.2 hall, calm_stable hallowed h.2⟩

variable (C) in
/-- Before the first transaction. -/
structure Before (alice bob mint aliceAta bobAta : Pubkey) (calm : Prop) (L : Ledger) : Prop where
  start : Start alice bob mint aliceAta bobAta L
  funded : 0 < (L alice).lamports
  ready : calm → L mint = .absent ∧
    Ready C alice aliceAta bobAta none none (cost C alice bob mint aliceAta bobAta) L

theorem Before.stable (hP : Programs C) (hS : Setting C alice bob mint aliceAta bobAta) :
    ∀ L txs, Allowed alice bob mint calm (some txs) →
      Before C alice bob mint aliceAta bobAta calm L →
      Before C alice bob mint aliceAta bobAta calm (txs.foldl C.move L) := by
  intro L txs hallowed h
  obtain ⟨hstart, hle⟩ := h.start.moves hP hS hallowed.2
  exact ⟨hstart, h.funded.trans_le hle, calm_stable (P := fun L => L mint = .absent ∧
    Ready C alice aliceAta bobAta none none (cost C alice bob mint aliceAta bobAta) L)
    hallowed h.ready⟩

/-! ### The transactions -/

theorem ensures_createTx (hP : Programs C) (hS : Setting C alice bob mint aliceAta bobAta) :
    Session.Ensures (Allowed alice bob mint calm)
      (Before C alice bob mint aliceAta bobAta calm)
      (C.send alice (createTx C alice mint).instructions [mint] :
        ClusterClient E (ExerciseLine E) Unit) (Cluster.Excused calm)
      fun _ lines L => lines = [] ∧ At C alice bob mint aliceAta bobAta calm none none 0
        (aliceCost C alice bob mint aliceAta bobAta) L := by
  refine Cluster.ensures_send (Before.stable hP hS) id signed_create ?_ ?_
  · intro L L' h hp
    obtain ⟨hstage, hready⟩ :=
      create_ok (n := aliceCost C alice bob mint aliceAta bobAta) hP hS h.start hp
    exact ⟨hstage, fun hc => hready (h.ready hc).2⟩
  · intro hc L h
    exact create_succeeds (n := aliceCost C alice bob mint aliceAta bobAta) hP hS h.start
      (h.ready hc).1 (h.ready hc).2

theorem ensures_aliceTx (hP : Programs C) (hS : Setting C alice bob mint aliceAta bobAta) :
    Session.Ensures (Allowed alice bob mint calm)
      (At C alice bob mint aliceAta bobAta calm none none 0
        (aliceCost C alice bob mint aliceAta bobAta))
      (C.send alice (aliceTx alice mint aliceAta).instructions [] :
        ClusterClient E (ExerciseLine E) Unit) (Cluster.Excused calm)
      fun _ lines L => lines = [] ∧ At C alice bob mint aliceAta bobAta calm (some 0) none 0
        (mintCost C alice bob mint aliceAta bobAta) L := by
  refine Cluster.ensures_send (At.stable hP hS rfl) id signed_alice ?_ ?_
  · intro L L' h hp
    obtain ⟨hstage, hready⟩ :=
      alice_ok (n := mintCost C alice bob mint aliceAta bobAta) hP hS h.1 hp
    exact ⟨hstage, fun hc => hready (h.2 hc)⟩
  · intro hc L h
    exact alice_succeeds (n := mintCost C alice bob mint aliceAta bobAta) hP hS h.1 (h.2 hc)

theorem ensures_mintTx (hP : Programs C) (hS : Setting C alice bob mint aliceAta bobAta) :
    Session.Ensures (Allowed alice bob mint calm)
      (At C alice bob mint aliceAta bobAta calm (some 0) none 0
        (mintCost C alice bob mint aliceAta bobAta))
      (C.send alice (mintTx alice mint aliceAta).instructions [] :
        ClusterClient E (ExerciseLine E) Unit) (Cluster.Excused calm)
      fun _ lines L => lines = [] ∧ At C alice bob mint aliceAta bobAta calm (some 1000000000) none
        1000000000 (bobCost C alice bob mint aliceAta bobAta) L := by
  refine Cluster.ensures_send (At.stable hP hS rfl) id signed_mint ?_ ?_
  · intro L L' h hp
    obtain ⟨hstage, hready⟩ :=
      mint_ok (n := bobCost C alice bob mint aliceAta bobAta) hP hS h.1 hp
    rw [UInt64.zero_add] at hstage hready
    exact ⟨hstage, fun hc => hready (h.2 hc)⟩
  · intro hc L h
    exact mint_succeeds (n := bobCost C alice bob mint aliceAta bobAta) hP hS h.1 (h.2 hc)
      (by decide) (by decide)

/-- The answer to the simulation: if there is no error, then there is something at bob's address. -/
def Answered (C : Cluster E) (alice bob mint aliceAta bobAta : Pubkey) (calm : Prop) (n : ℕ)
    (err : Option (TransactionError E)) (L : Ledger) : Prop :=
  At C alice bob mint aliceAta bobAta calm (some 1000000000) none 1000000000 n L ∧
    ((L bobAta).data ≠ [] ∨ ∃ e, err = some e)

theorem ensures_doomedTx (hP : Programs C) (hS : Setting C alice bob mint aliceAta bobAta) :
    Session.Ensures (Allowed alice bob mint calm)
      (At C alice bob mint aliceAta bobAta calm (some 1000000000) none 1000000000 n)
      (C.simulateTransaction (doomedTx alice mint aliceAta bobAta) :
        ClusterClient E (ExerciseLine E) (Option (TransactionError E))) (Cluster.Excused calm)
      fun err lines L => lines = [] ∧ Answered C alice bob mint aliceAta bobAta calm n err L := by
  refine (Cluster.ensures_simulateTransaction (At.stable hP hS rfl) id).weaken ?_
  rintro err lines L ⟨hlines, rfl, hA⟩
  refine ⟨hlines, hA, ?_⟩
  by_cases hempty : (L bobAta).data = []
  · exact Or.inr (doomed_fails hP hempty)
  · exact Or.inl hempty

theorem Answered.stable {err : Option (TransactionError E)} (hP : Programs C)
    (hS : Setting C alice bob mint aliceAta bobAta) :
    ∀ L txs, Allowed alice bob mint calm (some txs) →
      Answered C alice bob mint aliceAta bobAta calm n err L →
      Answered C alice bob mint aliceAta bobAta calm n err (txs.foldl C.move L) := by
  intro L txs hallowed h
  refine ⟨At.stable hP hS rfl L txs hallowed h.1, h.2.imp_left fun hthere => ?_⟩
  exact h.1.1.moves_there hP hS hallowed.2 rfl hthere

/-- A transaction that creates bob's account has found nothing there, and neither had the
simulation. -/
theorem ensures_bobTx {err : Option (TransactionError E)} (hP : Programs C)
    (hS : Setting C alice bob mint aliceAta bobAta) :
    Session.Ensures (Allowed alice bob mint calm)
      (Answered C alice bob mint aliceAta bobAta calm
        (bobCost C alice bob mint aliceAta bobAta) err)
      (C.send alice (bobTx alice bob mint aliceAta bobAta).instructions [] :
        ClusterClient E (ExerciseLine E) Unit) (Cluster.Excused calm)
      fun _ lines L => lines = [] ∧ (∃ e, err = some e) ∧
        At C alice bob mint aliceAta bobAta calm
          (some 750000000) (some 250000000) 1000000000 0 L := by
  refine Cluster.ensures_send (Q := fun L => (∃ e, err = some e) ∧
    At C alice bob mint aliceAta bobAta calm (some 750000000) (some 250000000) 1000000000 0 L)
    (Answered.stable hP hS) id signed_bob ?_ ?_
  · intro L L' h hp
    obtain ⟨hempty, hstage, hready⟩ := bob_ok (n := 0) hP hS h.1.1 hp
    have hshare : (1000000000 - 250000000 : UInt64) = 750000000 := by decide
    rw [hshare] at hstage hready
    exact ⟨h.2.resolve_left (fun hthere => hthere hempty), hstage, fun hc => hready (h.1.2 hc)⟩
  · intro hc L h
    exact bob_succeeds (n := 0) hP hS h.1.1 (h.1.2 hc) (by decide)

/-! ### The looks -/

section Looks

variable {supply : UInt64} (hP : Programs C) (hS : Setting C alice bob mint aliceAta bobAta)
  (hall : (x.getD 0).toNat + (y.getD 0).toNat = supply.toNat)

include hP hS hall

theorem ensures_showMint : Session.Ensures (Allowed alice bob mint calm)
    (At C alice bob mint aliceAta bobAta calm x y supply n)
    (C.display .shown (showMint · mint) : ClusterClient E (ExerciseLine E) Unit)
    (Cluster.Excused calm)
    fun _ lines L => (∃ lamports, lines = (mintReport C alice mint lamports supply).map .shown) ∧
      At C alice bob mint aliceAta bobAta calm x y supply n L := by
  refine (Cluster.ensures_display (R := fun lines => ∃ lamports,
    lines = mintReport C alice mint lamports supply) (At.stable hP hS hall) id ⟨_, rfl⟩
    fun L h => shows_mint h.1.mintAt).weaken ?_
  rintro _ _ L ⟨⟨_, ⟨lamports, rfl⟩, rfl⟩, hA⟩
  exact ⟨⟨lamports, rfl⟩, hA⟩

/-- The account of `w`, who holds `amount`. -/
theorem ensures_showTokenAccount {label : String} {amount : UInt64}
    (hat : ∀ L, Stage alice bob mint aliceAta bobAta x y supply L →
      TokenAt L a (holding w mint amount)) :
    Session.Ensures (Allowed alice bob mint calm)
      (At C alice bob mint aliceAta bobAta calm x y supply n)
      (C.display .shown (showTokenAccount · label a) : ClusterClient E (ExerciseLine E) Unit)
      (Cluster.Excused calm)
      fun _ lines L =>
        (∃ lamports, lines = (accountReport C mint label a w lamports amount).map .shown) ∧
        At C alice bob mint aliceAta bobAta calm x y supply n L := by
  refine (Cluster.ensures_display (R := fun lines => ∃ lamports,
    lines = accountReport C mint label a w lamports amount) (At.stable hP hS hall) id ⟨_, rfl⟩
    fun L h => shows_account (hat L h.1)).weaken ?_
  rintro _ _ L ⟨⟨_, ⟨lamports, rfl⟩, rfl⟩, hA⟩
  exact ⟨⟨lamports, rfl⟩, hA⟩

/-- An amount or the supply, read from where it is. -/
theorem ensures_readU64 {i j : ℕ} {value : UInt64}
    (hread : ∀ L, Stage alice bob mint aliceAta bobAta x y supply L →
      L a ≠ .absent ∧ readU64 (L a).data i j = .ok value) :
    Session.Ensures (Allowed alice bob mint calm)
      (At C alice bob mint aliceAta bobAta calm x y supply n)
      (C.getAccount a : ClusterClient E (ExerciseLine E) Account) (Cluster.Excused calm)
      fun account lines L => lines = [] ∧ readU64 account.data i j = .ok value ∧
        At C alice bob mint aliceAta bobAta calm x y supply n L := by
  refine (Cluster.ensures_getAccount (At.stable hP hS hall) id fun L h =>
    (hread L h.1).1).weaken ?_
  rintro _ lines L ⟨hlines, rfl, hA⟩
  exact ⟨hlines, (hread L hA.1).2, hA⟩

end Looks

/-! ### Together -/

theorem createAta_eq {ε : Type} {D : Derivation} {funder : Pubkey} (h : deriveAta D w m = some a) :
    (createAta D funder w m : Outcome ε Instruction) = .ok (ataInstruction funder a w m) := by
  rw [createAta, h]
  rfl

theorem sum_of_amounts {ε : Type} :
    (U64.plus 750000000 250000000 : Outcome ε UInt64) = .ok 1000000000 := by
  have hadd : U64.checkedAdd 750000000 250000000 = some 1000000000 := by decide
  rw [U64.plus, hadd]
  rfl

/-- `main`, request by request. What each leaves is what the next relies on. -/
theorem ensures_main (hP : Programs C) (hS : Setting C alice bob mint aliceAta bobAta) :
    Session.Ensures (Allowed alice bob mint calm) (Before C alice bob mint aliceAta bobAta calm)
      (main C alice bob mint) (Cluster.Excused calm)
      fun _ lines _ => ∃ lamports e,
        lines = report C alice bob mint aliceAta bobAta lamports e := by
  unfold main
  refine .print <| .print ?_
  -- 1. the wallets
  refine .bind (Cluster.ensures_display
    (R := fun lines => ∃ n, lines = runtimeReport C alice n systemProgramId 0)
    (Before.stable hP hS) id ⟨_, rfl⟩ fun L h => shows_wallet h.start.aliceWallet h.funded)
    fun _ _ => .known ?_
  rintro ⟨_, ⟨n₀, rfl⟩, rfl⟩
  -- 2. the mint
  refine .silent (Cluster.ensures_getMinimumBalance (Before.stable hP hS) id _)
    fun rent => .known ?_
  rintro rfl
  refine .silent (ensures_createTx hP hS) fun _ => ?_
  refine .bind (ensures_showMint hP hS rfl) fun _ _ => .known ?_
  rintro ⟨n₁, rfl⟩
  -- 3. alice's account
  refine .lift (a := aliceAta) (by rw [hS.aliceDerived]; rfl) ?_
  refine .print <| .lift (createAta_eq hS.aliceDerived) ?_
  refine .silent (ensures_aliceTx hP hS) fun _ => ?_
  refine .bind (ensures_showTokenAccount hP hS rfl fun _ h => h.aliceHolds) fun _ _ => .known ?_
  rintro ⟨n₂, rfl⟩
  -- 4. the supply
  refine .silent (ensures_mintTx hP hS) fun _ => ?_
  refine .bind (ensures_showMint hP hS rfl) fun _ _ => .known ?_
  rintro ⟨n₃, rfl⟩
  refine .bind (ensures_showTokenAccount hP hS rfl fun _ h => h.aliceHolds) fun _ _ => .known ?_
  rintro ⟨n₄, rfl⟩
  -- 5. bob, before he has an account
  refine .lift (a := bobAta) (by rw [hS.bobDerived]; rfl) ?_
  refine .print ?_
  refine .silent (Cluster.ensures_getLatestBlockhash (At.stable hP hS rfl) id) fun _ => ?_
  refine .lift signed_doomed ?_
  refine .silent (ensures_doomedTx hP hS) fun err => ?_
  refine .print <| .lift (createAta_eq hS.bobDerived) ?_
  -- 6. bob's account
  refine .silent (ensures_bobTx hP hS) fun _ => .known ?_
  rintro ⟨e, rfl⟩
  refine .bind (ensures_showTokenAccount hP hS rfl fun _ h => h.aliceHolds) fun _ _ => .known ?_
  rintro ⟨n₅, rfl⟩
  refine .bind (ensures_showTokenAccount hP hS rfl fun _ h => h.bobHolds) fun _ _ => .known ?_
  rintro ⟨n₆, rfl⟩
  -- 7. the invariant
  refine .silent (ensures_readU64 hP hS rfl fun _ h =>
    ⟨h.mintAt.not_absent, h.mintAt.readU64⟩) fun account => .known fun hread => ?_
  refine .lift (a := 1000000000) (by rw [hread]; rfl) ?_
  refine .silent (ensures_readU64 hP hS rfl fun _ h =>
    ⟨h.aliceHolds.not_absent, h.aliceHolds.readU64⟩) fun account => .known fun hread => ?_
  refine .lift (a := 750000000) (by rw [hread]; rfl) ?_
  refine .silent (ensures_readU64 hP hS rfl fun _ h =>
    ⟨h.bobHolds.not_absent, h.bobHolds.readU64⟩) fun account => .known fun hread => ?_
  refine .lift (a := 250000000) (by rw [hread]; rfl) ?_
  refine .print <| .print <| .print <| .lift sum_of_amounts ?_
  intro w hw hA
  exact ⟨hw, fun i => [n₀, n₁, n₂, n₃, n₄, n₅, n₆].getD i 0, e, by
    simp [report, Session.print, Printed.print]⟩

end Run

/--
**The exercise.** However others use the node meanwhile, as long as they do not sign with the
three keys, `main` does not panic, and where it returns `Ok` it has printed the report: the mint
has issued `1000000000`, alice holds `750000000` and bob `250000000`, and the sum is the supply.
It returns `Ok` when nobody interferes, the node answers, alice can pay, and nobody has been at the
addresses before. No error is one of the client's own.
-/
theorem main_balances (hP : Programs C) (hS : Setting C alice bob mint aliceAta bobAta)
    (w : World Ledger SignedTx)
    (hothers : ∀ n txs, w.turns n = some txs → ∀ tx ∈ txs, Without alice bob mint tx)
    (hstart : Start alice bob mint aliceAta bobAta w.state)
    (hfunded : 0 < (w.state alice).lamports) :
    (main C alice bob mint w).1.result.Meets
      (fun _ => ∃ lamports e, (main C alice bob mint w).1.lines
        = report C alice bob mint aliceAta bobAta lamports e)
      (fun e => ¬ ((∀ n, w.turns n = some []) ∧ w.state mint = .absent ∧
          Ready C alice aliceAta bobAta none none (cost C alice bob mint aliceAta bobAta) w.state) ∧
        ∀ c, e ≠ .client c) := by
  refine (ensures_main hP hS w ?_ ⟨hstart, hfunded, fun hc => hc.2⟩).2
  intro n
  rcases hturn : w.turns n with _ | txs
  · intro hc
    have := hc.1 n
    simp [hturn] at this
  · refine ⟨fun hc => ?_, hothers n txs hturn⟩
    have := hc.1 n
    simpa [hturn] using this

end Exercise

/-! ## An idle node

The digests are those of the two searches, which take the first bump. The three keys are on the
curve.
-/

def idleBob : Pubkey := keyOf 6

def idleMintKey : Pubkey := keyOf 10

def idleAliceAta : Pubkey :=
  ⟨[0x34, 0xee, 0xc5, 0x3a, 0x83, 0x6c, 0x0c, 0xa0, 0x6a, 0x3c, 0xfe,
    0xd8, 0x9c, 0x1d, 0x72, 0x51, 0x7f, 0x09, 0x8f, 0x8e, 0x30, 0xe6,
    0xb6, 0x65, 0x93, 0xd1, 0xdb, 0xf5, 0x7e, 0x47, 0xad, 0x18], rfl⟩

def idleBobAta : Pubkey :=
  ⟨[0xa8, 0x93, 0xde, 0x66, 0x51, 0xbc, 0x4d, 0xbc, 0x7a, 0xf0, 0xe8,
    0x4c, 0xa7, 0x27, 0x85, 0x43, 0x66, 0xac, 0x4e, 0x32, 0x31, 0xbb,
    0x23, 0x2d, 0x4e, 0x77, 0x16, 0xda, 0xd6, 0x00, 0xe0, 0xbc], rfl⟩

def idleTable : List (Bytes × Pubkey) :=
  [(pdaPreimage [alice.bytes, tokenProgram.bytes, idleMintKey.bytes, [255]] ataProgram,
      idleAliceAta),
    (pdaPreimage [idleBob.bytes, tokenProgram.bytes, idleMintKey.bytes, [255]] ataProgram,
      idleBobAta)]

def idleDerivation : Derivation where
  sha256 bs := (idleTable.lookup bs).getD (keyOf 0)
  isOnCurve a := a != idleAliceAta && a != idleBobAta

def idleCluster : Cluster ProgramError := cluster idleDerivation sampleRent

/-- Alice's airdrop. -/
def idleWorld : World Ledger SignedTx where
  state a := if a = alice then { Account.absent with lamports := 5000000000 } else .absent
  turns _ := some []

theorem idleDerivation_noCollision (T : Set Bytes) : NoCollision idleDerivation T :=
  @noCollision_table idleDerivation idleTable (fun _ => rfl) (by decide) (by decide) T

theorem idleSetting :
    Setting idleCluster alice idleBob idleMintKey idleAliceAta idleBobAta where
  aliceKey := keyPair (by decide) (idleDerivation_noCollision _)
  bobKey := keyPair (by decide) (idleDerivation_noCollision _)
  mintKey := keyPair (by decide) (idleDerivation_noCollision _)
  alice_ne_bob := by decide
  alice_ne_mint := by decide
  bob_ne_mint := by decide
  aliceDerived := by decide +kernel
  bobDerived := by decide +kernel
  noCollision := idleDerivation_noCollision _
  rentFits := by decide
  unreserved := fun _ _ => rfl

theorem idleStart :
    Start alice idleBob idleMintKey idleAliceAta idleBobAta idleWorld.state where
  aliceWallet := ⟨by decide, by decide⟩
  bobWallet := ⟨by decide, by decide⟩
  mintWallet := ⟨by decide, by decide⟩
  aliceEmpty := by decide
  bobEmpty := by decide
  solvent := by
    refine fun m => ⟨fun _ => 0, 0, fun T => by simp, fun t v ht => ?_, Or.inl rfl⟩
    have hlen := ht.length
    have hdata : (idleWorld.state t).data = [] := by
      by_cases ha : t = alice
      · simp [idleWorld, ha, Account.absent]
      · simp [idleWorld, ha, Account.absent]
    simp [hdata] at hlen

theorem idleReady : Ready idleCluster alice idleAliceAta idleBobAta none none
    (cost idleCluster alice idleBob idleMintKey idleAliceAta idleBobAta) idleWorld.state where
  funds := by decide +kernel
  aliceVacant := fun _ => ⟨by decide, by decide⟩
  bobVacant := fun _ => ⟨by decide, by decide⟩

theorem idlePrograms : Programs idleCluster := programs

theorem idleFunded : 0 < (idleWorld.state alice).lamports := by decide

theorem idleMintAbsent : idleWorld.state idleMintKey = .absent := by decide

theorem idleTurns : ∀ n, idleWorld.turns n = some [] := fun _ => rfl

theorem main_balances_idle : ∃ lamports e,
    (main idleCluster alice idleBob idleMintKey idleWorld).1.lines
      = report idleCluster alice idleBob idleMintKey idleAliceAta idleBobAta
          lamports e := by
  -- the world is named, so that nothing is evaluated
  generalize hw : idleWorld = w
  have hturns : ∀ n, w.turns n = some [] := hw ▸ idleTurns
  have hothers : ∀ n txs, w.turns n = some txs →
      ∀ tx ∈ txs, Without alice idleBob idleMintKey tx := by
    intro n txs htxs tx htx
    cases (hturns n).symm.trans htxs
    cases htx
  have h := main_balances idlePrograms idleSetting w hothers (hw ▸ idleStart) (hw ▸ idleFunded)
  generalize (main idleCluster alice idleBob idleMintKey w).1 = run at h ⊢
  rcases hr : run.result with a | e | _
  · rw [hr] at h
    exact h
  · rw [hr] at h
    exact (h.1 ⟨hturns, hw ▸ idleMintAbsent, hw ▸ idleReady⟩).elim
  · rw [hr] at h
    exact h.elim

end BootcampSolana.SplToken
