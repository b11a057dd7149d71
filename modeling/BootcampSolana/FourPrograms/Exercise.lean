import BootcampSolana.Clients.Addresses
import BootcampSolana.FourPrograms.Implementation

/-!
# The tour of the four programs

`main` of `03-four-programs/src/main.rs`, from the funded payer on: every request it makes of the
node, in order, and every line with a value in it. Others use the node at the same time, for
transactions about other accounts.

`main_report` says which lines these are. The client asks Token-2022 for the transfer it could
have asked of SPL Token, and the last line is the `95000` that arrive of `100000`.
-/

namespace BootcampSolana.FourPrograms

open Cells
open CounterPda (ClientError)
open SplToken (minted holding)

/-! ## The source -/

def MINT_LEN : UInt64 := 82

def MINT_2022_WITH_FEE_LEN : UInt64 := 165 + 1 + 2 + 2 + 108

/-- `to_string`. -/
def display (p : Pubkey) : String := String.ofList (Base58.encode p.bytes)

def nameOf (p : Pubkey) : String :=
  if display p = SYSTEM then "(System Program)"
  else if display p = TOKEN then "(SPL Token)"
  else if display p = TOKEN_2022 then "(Token-2022)"
  else if display p = ATA then "(Associated Token Account)"
  else ""

/-- What is printed about an account. -/
inductive Line where
  | label (label : String)
  | address (key : Pubkey)
  | lamports (lamports : Nat)
  | owner (owner : Pubkey) (name : String)
  | executable (executable : Bool)
  | data (bytes : Nat)
  deriving DecidableEq

open Printed in
/-- `show`. -/
def showAccount (rpc : RpcView) (label : String) (key : Pubkey) :
    Printed Line ClientError Unit := do
  let a ← lift (.ofExcept (rpc.getAccount key))
  print (.label label)
  print (.address key)
  print (.lamports a.lamports)
  print (.owner a.owner (nameOf a.owner))
  print (.executable (rpc.executable key))
  print (.data a.data.length)

/-- The lines of `main` with a value in them. -/
inductive ExerciseLine where
  | payer (wallet : Pubkey)
  | shown (line : Line)
  | afterTransfer (lamports : Nat)
  | derived (ata : Pubkey) (bump : UInt8)
  | again (ata : Pubkey)
  | under2022 (ata : Pubkey)
  | balance (amount : UInt64)
  | sizes (withFee plain : UInt64)
  | sender (amount : UInt64)
  | receiver (amount : UInt64)
  deriving DecidableEq

section Main

variable {E : Type} (C : Cluster E)

/-- `token_amount(&rpc, &ata)?`. -/
def requestAmount (ata : Pubkey) : ClusterClient E ExerciseLine UInt64 := C.request fun L =>
  ((tokenAmount (C.view L).toRpcClient ata).mapErr .client, L)

/-- `main`, for the keys of the five key pairs. -/
def main (payer blank mint mint22 recipient : Pubkey) : ClusterClient E ExerciseLine Unit := do
  Session.print (.payer payer)
  -- 1. System Program
  let rent ← C.getMinimumBalanceForRentExemption 0
  C.send payer [sysCreateAccount payer blank rent 0 (pk SYSTEM isSome_system)] [blank]
  C.display .shown (showAccount · "an account it created and kept for itself:" blank)
  C.send payer [sysTransfer payer blank 1000000] []
  let account ← C.getAccount blank
  Session.print (.afterTransfer account.lamports)
  -- 2. SPL Token
  let rent ← C.getMinimumBalanceForRentExemption MINT_LEN.toNat
  C.send payer
    [sysCreateAccount payer mint rent MINT_LEN (pk TOKEN isSome_token),
      initializeMint2 (pk TOKEN isSome_token) mint payer 6] [mint]
  C.display .shown (showAccount · "mint:" mint)
  -- 3. Associated Token Account
  let derived ← Session.lift (.unwrap (deriveAta C.derivation payer mint (pk TOKEN isSome_token)))
  let again ← Session.lift (.unwrap (deriveAta C.derivation payer mint (pk TOKEN isSome_token)))
  Session.print (.derived derived.1 derived.2)
  Session.print (.again again.1)
  let under2022 ← Session.lift
    (.unwrap (deriveAta C.derivation payer mint (pk TOKEN_2022 isSome_token2022)))
  Session.print (.under2022 under2022.1)
  let ix ← Session.lift (createAta C.derivation payer payer mint (pk TOKEN isSome_token))
  C.send payer [ix] []
  C.send payer [mintTo (pk TOKEN isSome_token) mint derived.1 payer 1000000] []
  C.display .shown (showAccount · "the created ATA:" derived.1)
  let amount ← requestAmount C derived.1
  Session.print (.balance amount)
  -- 4. Token-2022
  let rent ← C.getMinimumBalanceForRentExemption MINT_2022_WITH_FEE_LEN.toNat
  C.send payer
    [sysCreateAccount payer mint22 rent MINT_2022_WITH_FEE_LEN (pk TOKEN_2022 isSome_token2022),
      initializeTransferFeeConfig mint22 (some payer) (some payer) 500 (UInt64.ofNat (2 ^ 64 - 1)),
      initializeMint2 (pk TOKEN_2022 isSome_token2022) mint22 payer 6] [mint22]
  C.display .shown (showAccount · "mint with a 5% transfer fee:" mint22)
  Session.print (.sizes MINT_2022_WITH_FEE_LEN MINT_LEN)
  let src ← Session.lift
    (.unwrap (deriveAta C.derivation payer mint22 (pk TOKEN_2022 isSome_token2022)))
  let dst ← Session.lift
    (.unwrap (deriveAta C.derivation recipient mint22 (pk TOKEN_2022 isSome_token2022)))
  let ix ← Session.lift
    (createAta C.derivation payer payer mint22 (pk TOKEN_2022 isSome_token2022))
  let ix' ← Session.lift
    (createAta C.derivation payer recipient mint22 (pk TOKEN_2022 isSome_token2022))
  C.send payer [ix, ix'] []
  C.send payer [mintTo (pk TOKEN_2022 isSome_token2022) mint22 src.1 payer 1000000] []
  C.send payer
    [transferChecked (pk TOKEN_2022 isSome_token2022) src.1 mint22 dst.1 payer 100000 6] []
  let amount ← requestAmount C src.1
  Session.print (.sender amount)
  let amount ← requestAmount C dst.1
  Session.print (.receiver amount)

end Main

/-! ## Names -/

theorem display_programs : display systemProgramId = SYSTEM ∧ display tokenProgram = TOKEN ∧
    display token2022Program = TOKEN_2022 ∧ display ataProgram = ATA := by decide +kernel

theorem display_injective : Function.Injective display := by
  intro p q h
  have hencode : Base58.encode p.bytes = Base58.encode q.bytes := String.ofList_injective h
  have hdecode := congrArg Base58.decode hencode
  rw [Base58.decode_encode, Base58.decode_encode] at hdecode
  exact Pubkey.bytes_inj.mp (Option.some.inj hdecode)

/-- **A name is the name of one program**, and everybody else has none. -/
theorem nameOf_eq (p : Pubkey) : nameOf p =
    if p = systemProgramId then "(System Program)"
    else if p = tokenProgram then "(SPL Token)"
    else if p = token2022Program then "(Token-2022)"
    else if p = ataProgram then "(Associated Token Account)"
    else "" := by
  obtain ⟨hsystem, htoken, htoken2022, hata⟩ := display_programs
  unfold nameOf
  rw [← hsystem, ← htoken, ← htoken2022, ← hata]
  simp only [display_injective.eq_iff]

theorem nameOf_programs : nameOf systemProgramId = "(System Program)" ∧
    nameOf tokenProgram = "(SPL Token)" ∧ nameOf token2022Program = "(Token-2022)" := by
  obtain ⟨htoken, htoken2022, hne, -⟩ := programs_differ
  refine ⟨?_, ?_, ?_⟩
  · rw [nameOf_eq, if_pos rfl]
  · rw [nameOf_eq, if_neg htoken, if_pos rfl]
  · rw [nameOf_eq, if_neg htoken2022, if_neg hne, if_pos rfl]

/-! ## The accounts of the tour -/

/-- The keys of the five key pairs, and the addresses derived from them. -/
structure Accounts where
  payer : Pubkey
  blank : Pubkey
  mint : Pubkey
  mint22 : Pubkey
  recipient : Pubkey
  ata : Pubkey
  bump : UInt8
  under2022 : Pubkey
  src : Pubkey
  dst : Pubkey

def Accounts.addr (A : Accounts) : Place → Pubkey
  | .payer => A.payer
  | .blank => A.blank
  | .mint => A.mint
  | .ata => A.ata
  | .mint22 => A.mint22
  | .src => A.src
  | .dst => A.dst

def Accounts.all (A : Accounts) : List Pubkey :=
  [A.payer, A.blank, A.mint, A.ata, A.mint22, A.src, A.dst]

theorem Accounts.exists_addr {A : Accounts} {a : Pubkey} (h : a ∈ A.all) : ∃ p, A.addr p = a := by
  simp only [Accounts.all, List.mem_cons, List.not_mem_nil, or_false] at h
  rcases h with rfl | rfl | rfl | rfl | rfl | rfl | rfl
  · exact ⟨.payer, rfl⟩
  · exact ⟨.blank, rfl⟩
  · exact ⟨.mint, rfl⟩
  · exact ⟨.ata, rfl⟩
  · exact ⟨.mint22, rfl⟩
  · exact ⟨.src, rfl⟩
  · exact ⟨.dst, rfl⟩

/-- The accounts with a key of their own. -/
def keyed : List Place := [.payer, .blank, .mint, .mint22]

/-- And those without. -/
def keyless : List Place := [.ata, .src, .dst]

section Exercise

variable {E : Type} {C : Cluster E} {A : Accounts} {L L' : Ledger} {tx : SignedTx} {n : ℕ}

/-- The keys are different points of the curve, and nothing collides. -/
structure Setting (C : Cluster E) (A : Accounts) : Prop where
  isOnCurve : ∀ a ∈ keyed.map A.addr, C.derivation.isOnCurve a = true
  distinct : (keyed.map A.addr).Nodup
  recipient_ne : A.payer ≠ A.recipient
  ataDerived : deriveAta C.derivation A.payer A.mint tokenProgram = some (A.ata, A.bump)
  derived2022 : ∃ bump,
    deriveAta C.derivation A.payer A.mint token2022Program = some (A.under2022, bump)
  srcDerived : ∃ bump,
    deriveAta C.derivation A.payer A.mint22 token2022Program = some (A.src, bump)
  dstDerived : ∃ bump,
    deriveAta C.derivation A.recipient A.mint22 token2022Program = some (A.dst, bump)
  noCollision : NoCollision C.derivation
    (candidates [A.payer.bytes, tokenProgram.bytes, A.mint.bytes] ataProgram ∪
      (candidates [A.payer.bytes, token2022Program.bytes, A.mint22.bytes] ataProgram ∪
        candidates [A.recipient.bytes, token2022Program.bytes, A.mint22.bytes] ataProgram))
  rentPos : 0 < C.rent.minimumBalance 0
  rentFits : ∀ space ∈ [0, 82, 278], C.rent.minimumBalance space < 2 ^ 64
  payFits : C.rent.minimumBalance 0 + 1000000 < 2 ^ 64
  unreserved : ∀ p, C.reserved (A.addr p) = false

/-- Two derived addresses are of the same wallet, program and mint. -/
theorem deriveAta_inj {T : Set Bytes} {w p m w' p' m' a : Pubkey} {bump bump' : UInt8}
    (hT : NoCollision C.derivation T)
    (hsub : candidates [w.bytes, p.bytes, m.bytes] ataProgram ⊆ T)
    (hsub' : candidates [w'.bytes, p'.bytes, m'.bytes] ataProgram ⊆ T)
    (h : deriveAta C.derivation w m p = some (a, bump))
    (h' : deriveAta C.derivation w' m' p' = some (a, bump')) : w = w' ∧ p = p' ∧ m = m' := by
  have hno : NoCollision C.derivation (candidates [w.bytes, p.bytes, m.bytes] ataProgram ∪
      candidates [w'.bytes, p'.bytes, m'.bytes] ataProgram) := by
    have hunion := Set.union_subset hsub hsub'
    exact fun s hs t ht heq => hT ⟨hunion hs.1, hs.2⟩ ⟨hunion ht.1, ht.2⟩ heq
  exact keys_inj (preimage_eq_of_address_eq hno h h')

theorem Setting.injective (hS : Setting C A) : Function.Injective A.addr := by
  obtain ⟨b, hsrc⟩ := hS.srcDerived
  obtain ⟨b', hdst⟩ := hS.dstDerived
  have hata := hS.ataDerived
  have hoff : ∀ a ∈ keyless.map A.addr, C.derivation.isOnCurve a = false := by
    intro a ha
    simp only [keyless, List.map_cons, List.map_nil, List.mem_cons, List.not_mem_nil,
      or_false] at ha
    rcases ha with rfl | rfl | rfl
    · exact (findProgramAddress_isPda hata).isOnCurve
    · exact (findProgramAddress_isPda hsrc).isOnCurve
    · exact (findProgramAddress_isPda hdst).isOnCurve
  have hmints : A.mint ≠ A.mint22 := by
    have hdistinct := hS.distinct
    simp only [keyed, List.map_cons, List.nodup_cons, List.mem_cons, not_or] at hdistinct
    exact hdistinct.2.2.1.1
  have hasrc : A.ata ≠ A.src := by
    intro h
    rw [← h] at hsrc
    exact hmints (deriveAta_inj hS.noCollision Set.subset_union_left
      (Set.subset_union_left.trans Set.subset_union_right) hata hsrc).2.2
  have hadst : A.ata ≠ A.dst := by
    intro h
    rw [← h] at hdst
    exact hmints (deriveAta_inj hS.noCollision Set.subset_union_left
      (Set.subset_union_right.trans Set.subset_union_right) hata hdst).2.2
  have hsrcdst : A.src ≠ A.dst := by
    intro h
    rw [← h] at hdst
    exact hS.recipient_ne (deriveAta_inj hS.noCollision
      (Set.subset_union_left.trans Set.subset_union_right)
      (Set.subset_union_right.trans Set.subset_union_right) hsrc hdst).1
  have hnodup : ((keyed ++ keyless).map A.addr).Nodup := by
    rw [List.map_append, List.nodup_append]
    refine ⟨hS.distinct, by simp [keyless, Accounts.addr, hasrc, hadst, hsrcdst], ?_⟩
    rintro a ha b hb rfl
    have hon := hS.isOnCurve a ha
    rw [hoff a hb] at hon
    cases hon
  have hall : ∀ p : Place, p ∈ keyed ++ keyless := by
    intro p
    cases p <;> decide
  exact fun p q h => List.inj_on_of_nodup_map hnodup (hall p) (hall q) h

/-! ## What others do -/

/-- A transaction about other accounts. -/
def Apart (A : Accounts) (tx : SignedTx) : Prop :=
  ∀ m ∈ TransactionLifecycle.requests tx.payer tx.instructions, ∀ p, m.pubkey ≠ A.addr p

/-- What may happen before a call. In a calm the node answers. -/
def Allowed (A : Accounts) (calm : Prop) : Option (List SignedTx) → Prop
  | none => ¬ calm
  | some txs => ∀ tx ∈ txs, Apart A tx

/-- Others change nothing of the tour. -/
theorem holds_moves {s : Place → Account → Prop} {txs : List SignedTx} (hP : Programs C)
    (htxs : ∀ tx ∈ txs, Apart A tx) (h : Holds A.addr s L) :
    Holds A.addr s (txs.foldl C.move L) := by
  refine Cluster.moves_keep (fun tx htx L h => h.frame fun p => ?_)
    (fun tx htx ix L L' hix hx h => h.frame fun p => ?_) h
  · exact Cluster.charge_other (htxs tx htx _ List.mem_cons_self p).symm
  · refine hP.unlisted hx fun m hm => htxs tx htx m ?_ p
    refine List.mem_cons_of_mem _ (List.mem_flatMap.mpr ⟨ix, hix, ?_⟩)
    exact List.mem_cons_of_mem _ hm

section Rules

variable {calm : Prop} {s s' : Place → Account → Prop} {p : Place}

theorem holds_stable (hP : Programs C) : ∀ L txs, Allowed A calm (some txs) →
    Holds A.addr s L → Holds A.addr s (txs.foldl C.move L) :=
  fun _ _ htxs h => holds_moves hP htxs h

/-- A transaction of the payer. It writes to accounts of the tour, and nobody owes rent after it. -/
theorem ensures_tx {ixs : List Instruction} {extra : List Pubkey} (hP : Programs C)
    (hS : Setting C A)
    (hsigned : (Cluster.newSignedWithPayer ixs A.payer (A.payer :: extra) :
      Outcome (ClusterError E) SignedTx) = .ok ⟨A.payer, ixs⟩)
    (hwritable : ∀ a ∈ (SignedTx.mk A.payer ixs).writable, a ∈ A.all)
    (hs : s .payer = Purse C (n + C.fee ⟨A.payer, ixs⟩))
    (hclear : ∀ p a, s' p a → C.rent.Clear a)
    (h : C.Carries (SignedTx.mk A.payer ixs).signers
      (Holds A.addr (Function.update s .payer (Purse C n))) ixs (Holds A.addr s')) :
    Session.Ensures (Allowed A calm) (Holds A.addr s)
      (C.send A.payer ixs extra : ClusterClient E ExerciseLine Unit) (Cluster.Excused calm)
      fun _ lines L => lines = [] ∧ Holds A.addr s' L := by
  refine Cluster.ensures_carried (holds_stable hP) id hsigned (fun L hL => ?_)
    (fun L hL a ha => ?_) h
  · have hpurse : Purse C (n + C.fee ⟨A.payer, ixs⟩) (L A.payer) := hs ▸ hL .payer
    have hfunds := hpurse.funds
    refine ⟨Charge.payable_of_funds hpurse.owner hpurse.data ?_, Holds.write (k := Place.payer)
      hS.injective hL ⟨hpurse.owner, hpurse.data, ?_⟩⟩
    · show C.fee ⟨A.payer, ixs⟩ + C.rent.minimumBalance 0 ≤ (L A.payer).lamports
      omega
    · show n + C.rent.minimumBalance 0 ≤ (L A.payer).lamports - C.fee ⟨A.payer, ixs⟩
      omega
  · obtain ⟨p, rfl⟩ := Accounts.exists_addr (hwritable a ha)
    exact hclear p _ (hL p)

variable (C) in
def accountReport (label : String) (key : Pubkey) (lamports : ℕ) (owner : Pubkey) (name : String)
    (bytes : ℕ) : List Line :=
  [.label label, .address key, .lamports lamports, .owner owner name,
    .executable (C.executable key), .data bytes]

theorem ensures_show {label name : String} {lamports bytes : ℕ} {owner : Pubkey}
    (hP : Programs C) (hname : nameOf owner = name)
    (hs : ∀ a, s p a → a.lamports = lamports ∧ a.owner = owner ∧ a.data.length = bytes)
    (hthere : 0 < bytes + lamports) :
    Session.Ensures (Allowed A calm) (Holds A.addr s)
      (C.display .shown (showAccount · label (A.addr p)) : ClusterClient E ExerciseLine Unit)
      (Cluster.Excused calm)
      fun _ lines L =>
        lines = (accountReport C label (A.addr p) lamports owner name bytes).map .shown ∧
        Holds A.addr s L := by
  refine (Cluster.ensures_display (a := ())
    (R := fun lines => lines = accountReport C label (A.addr p) lamports owner name bytes)
    (holds_stable hP) id ⟨_, rfl⟩ fun L h => ?_).weaken ?_
  · obtain ⟨hlamports, howner, hbytes⟩ := hs _ (h p)
    have hget : (C.view L).getAccount (A.addr p) = .ok (L (A.addr p)) := by
      refine CounterPda.RpcClient.serves_ofLedger L _ fun hc => ?_
      have hempty : bytes + lamports = 0 := by
        rw [← hlamports, ← hbytes, hc]
        rfl
      omega
    rw [showAccount, hget]
    refine ⟨rfl, ?_⟩
    rw [← hlamports, ← hname, ← howner, ← hbytes]
    rfl
  · rintro _ _ L ⟨⟨_, rfl, rfl⟩, hL⟩
    exact ⟨rfl, hL⟩

theorem ensures_lamports {k : ℕ} (hP : Programs C)
    (hs : s p = Allocated systemProgramId k 0) (hthere : 0 < k) :
    Session.Ensures (Allowed A calm) (Holds A.addr s)
      (C.getAccount (A.addr p) : ClusterClient E ExerciseLine Account) (Cluster.Excused calm)
      fun account lines L => lines = [] ∧ account.lamports = k ∧ Holds A.addr s L := by
  have hat : ∀ L, Holds A.addr s L → (L (A.addr p)).lamports = k := by
    intro L h
    have hp := h p
    rw [hs] at hp
    rw [hp]
  refine (Cluster.ensures_getAccount (holds_stable hP) id fun L h hc => ?_).weaken ?_
  · have hk := hat L h
    rw [hc] at hk
    exact absurd hk (Nat.ne_of_lt hthere)
  · rintro _ lines L ⟨hlines, rfl, hL⟩
    exact ⟨hlines, hat L hL, hL⟩

theorem ensures_amount {k : ℕ} {t : SplToken.TokenAccount} {withheld : Option UInt64}
    (hP : Programs C) (hs : s p = TokenOf k t withheld) :
    Session.Ensures (Allowed A calm) (Holds A.addr s) (requestAmount C (A.addr p))
      (Cluster.Excused calm)
      fun amount lines L => lines = [] ∧ amount = t.amount ∧ Holds A.addr s L := by
  refine .call (Q := fun amount L => amount = t.amount ∧ Holds A.addr s L) (holds_stable hP)
    (fun h => ⟨h, nofun⟩) fun L h => ?_
  obtain ⟨-, htoken⟩ : TokenOf k t withheld (L (A.addr p)) := hs ▸ h p
  have hget : (C.view L).getAccount (A.addr p) = .ok (L (A.addr p)) := by
    refine CounterPda.RpcClient.serves_ofLedger L _ fun hc => ?_
    have hlen := htoken.length
    rw [hc] at hlen
    cases withheld <;> cases hlen
  rw [tokenAmount, hget]
  show ((readU64 (L (A.addr p)).data 64 72).mapErr _).Meets _ _
  rw [htoken.readU64]
  exact ⟨rfl, h⟩

end Rules

/-! ## Sheets -/

/-- What is in the seven accounts. -/
structure Sheet where
  funds : ℕ
  blank : Account → Prop
  mint : Account → Prop
  ata : Account → Prop
  mint22 : Account → Prop
  src : Account → Prop
  dst : Account → Prop

variable (C) in
def Sheet.at (s : Sheet) : Place → Account → Prop
  | .payer => Purse C s.funds
  | .blank => s.blank
  | .mint => s.mint
  | .ata => s.ata
  | .mint22 => s.mint22
  | .src => s.src
  | .dst => s.dst

/-- 500 basis points, without a maximum. -/
def fivePercent : TransferFee := ⟨500, UInt64.ofNat (2 ^ 64 - 1)⟩

section Sheets

variable (C A)

/-- Before the tour, with `n` lamports to spend. -/
def untouched (n : ℕ) : Sheet := ⟨n, Vacant, Vacant, Vacant, Vacant, Vacant, Vacant⟩

/-! And after each of its transactions. -/

def blankCreated (n : ℕ) : Sheet :=
  { untouched n with blank := Allocated systemProgramId (C.rent.minimumBalance 0) 0 }

def blankPaid (n : ℕ) : Sheet :=
  { untouched n with blank := Allocated systemProgramId (C.rent.minimumBalance 0 + 1000000) 0 }

def mintCreated (n : ℕ) : Sheet :=
  { blankPaid C n with mint := MintOf (C.rent.minimumBalance 82) (minted A.payer 0) none }

def ataCreated (n : ℕ) : Sheet :=
  { mintCreated C A n with
    ata := TokenOf (C.rent.minimumBalance 165) (holding A.payer A.mint 0) none }

def issued (n : ℕ) : Sheet :=
  { blankPaid C n with
    mint := MintOf (C.rent.minimumBalance 82) (minted A.payer 1000000) none
    ata := TokenOf (C.rent.minimumBalance 165) (holding A.payer A.mint 1000000) none }

def mint22Created (n : ℕ) : Sheet :=
  { issued C A n with
    mint22 := MintOf (C.rent.minimumBalance 278) (minted A.payer 0) (some fivePercent) }

def atas22Created (n : ℕ) : Sheet :=
  { mint22Created C A n with
    src := TokenOf (C.rent.minimumBalance 182) (holding A.payer A.mint22 0) (some 0)
    dst := TokenOf (C.rent.minimumBalance 182) (holding A.recipient A.mint22 0) (some 0) }

def issued22 (n : ℕ) : Sheet :=
  { atas22Created C A n with
    mint22 := MintOf (C.rent.minimumBalance 278) (minted A.payer 1000000) (some fivePercent)
    src := TokenOf (C.rent.minimumBalance 182) (holding A.payer A.mint22 1000000) (some 0) }

def transferred (n : ℕ) : Sheet :=
  { issued22 C A n with
    src := TokenOf (C.rent.minimumBalance 182) (holding A.payer A.mint22 900000) (some 0)
    dst := TokenOf (C.rent.minimumBalance 182) (holding A.recipient A.mint22 95000) (some 5000) }

end Sheets

/-! ### Rent -/

variable (C) in
/-- Nobody owes rent. -/
structure Sheet.Clear (s : Sheet) : Prop where
  blank : ∀ a, s.blank a → C.rent.Clear a
  mint : ∀ a, s.mint a → C.rent.Clear a
  ata : ∀ a, s.ata a → C.rent.Clear a
  mint22 : ∀ a, s.mint22 a → C.rent.Clear a
  src : ∀ a, s.src a → C.rent.Clear a
  dst : ∀ a, s.dst a → C.rent.Clear a

theorem Sheet.Clear.at {s : Sheet} (h : s.Clear C) :
    ∀ p a, s.at C p a → C.rent.Clear a := by
  intro p a ha
  cases p with
  | payer => exact Purse.clear ha
  | blank => exact h.blank a ha
  | mint => exact h.mint a ha
  | ata => exact h.ata a ha
  | mint22 => exact h.mint22 a ha
  | src => exact h.src a ha
  | dst => exact h.dst a ha

theorem untouched_clear : (untouched n).Clear C where
  blank _ h := Vacant.clear h
  mint _ h := Vacant.clear h
  ata _ h := Vacant.clear h
  mint22 _ h := Vacant.clear h
  src _ h := Vacant.clear h
  dst _ h := Vacant.clear h

theorem blankCreated_clear : (blankCreated C n).Clear C :=
  { untouched_clear (n := n) with blank := fun _ h => Allocated.clear h (Nat.le_refl _) }

theorem blankPaid_clear : (blankPaid C n).Clear C :=
  { untouched_clear (n := n) with blank := fun _ h => Allocated.clear h (Nat.le_add_right _ _) }

theorem mintCreated_clear : (mintCreated C A n).Clear C :=
  { blankPaid_clear (n := n) with mint := fun _ h => MintOf.clear h (Nat.le_refl _) }

theorem ataCreated_clear : (ataCreated C A n).Clear C :=
  { mintCreated_clear (A := A) (n := n) with ata := fun _ h => TokenOf.clear h (Nat.le_refl _) }

theorem issued_clear : (issued C A n).Clear C :=
  { blankPaid_clear (n := n) with
    mint := fun _ h => MintOf.clear h (Nat.le_refl _)
    ata := fun _ h => TokenOf.clear h (Nat.le_refl _) }

theorem mint22Created_clear : (mint22Created C A n).Clear C :=
  { issued_clear (A := A) (n := n) with mint22 := fun _ h => MintOf.clear h (Nat.le_refl _) }

theorem atas22Created_clear : (atas22Created C A n).Clear C :=
  { mint22Created_clear (A := A) (n := n) with
    src := fun _ h => TokenOf.clear h (Nat.le_refl _)
    dst := fun _ h => TokenOf.clear h (Nat.le_refl _) }

theorem issued22_clear : (issued22 C A n).Clear C :=
  { atas22Created_clear (A := A) (n := n) with
    mint22 := fun _ h => MintOf.clear h (Nat.le_refl _)
    src := fun _ h => TokenOf.clear h (Nat.le_refl _) }

theorem transferred_clear : (transferred C A n).Clear C :=
  { issued22_clear (A := A) (n := n) with
    src := fun _ h => TokenOf.clear h (Nat.le_refl _)
    dst := fun _ h => TokenOf.clear h (Nat.le_refl _) }

/-! ## Transactions -/

section Transactions

variable (C A)

/-- `rent`, as the client gets it. -/
def rentOf (space : ℕ) : UInt64 := UInt64.ofNat (C.rent.minimumBalance space)

def blankIxs : List Instruction := [sysCreateAccount A.payer A.blank (rentOf C 0) 0 systemProgramId]

def payIxs : List Instruction := [sysTransfer A.payer A.blank 1000000]

def mintIxs : List Instruction :=
  [sysCreateAccount A.payer A.mint (rentOf C 82) MINT_LEN tokenProgram,
    initializeMint2 tokenProgram A.mint A.payer 6]

def ataIxs : List Instruction := [ataInstruction A.payer A.ata A.payer A.mint tokenProgram]

def issueIxs : List Instruction := [mintTo tokenProgram A.mint A.ata A.payer 1000000]

def mint22Ixs : List Instruction :=
  [sysCreateAccount A.payer A.mint22 (rentOf C 278) MINT_2022_WITH_FEE_LEN token2022Program,
    initializeTransferFeeConfig A.mint22 (some A.payer) (some A.payer) fivePercent.basisPoints
      fivePercent.maximumFee,
    initializeMint2 token2022Program A.mint22 A.payer 6]

def atas22Ixs : List Instruction :=
  [ataInstruction A.payer A.src A.payer A.mint22 token2022Program,
    ataInstruction A.payer A.dst A.recipient A.mint22 token2022Program]

def issue22Ixs : List Instruction := [mintTo token2022Program A.mint22 A.src A.payer 1000000]

def transferIxs : List Instruction :=
  [transferChecked token2022Program A.src A.mint22 A.dst A.payer 100000 6]

end Transactions

theorem rentOf_toNat {space : ℕ} (hS : Setting C A) (h : space ∈ [0, 82, 278]) :
    (rentOf C space).toNat = C.rent.minimumBalance space :=
  UInt64.toNat_ofNat_of_lt' (hS.rentFits space h)

theorem mem_signers_new {new owner : Pubkey} {lamports space : UInt64} {ixs : List Instruction}
    {payer : Pubkey} :
    new ∈ (SignedTx.mk payer (sysCreateAccount payer new lamports space owner :: ixs)).signers := by
  rw [Cluster.mem_signers]
  simp [TransactionLifecycle.requests, TransactionLifecycle.metas, TransactionLifecycle.signs,
    sysCreateAccount, AccountMeta.new]

section Carried

variable {calm : Prop} (hP : Programs C) (hS : Setting C A)

include hP hS

theorem ensures_blank : Session.Ensures (Allowed A calm)
    (Holds A.addr
      ((untouched (n + C.rent.minimumBalance 0 + C.fee ⟨A.payer, blankIxs C A⟩)).at C))
    (C.send A.payer (blankIxs C A) [A.blank] : ClusterClient E ExerciseLine Unit)
    (Cluster.Excused calm)
    fun _ lines L => lines = [] ∧ Holds A.addr ((blankCreated C n).at C) L := by
  have hrent : (rentOf C 0).toNat = C.rent.minimumBalance 0 := rentOf_toNat hS (by decide)
  have hspace : (0 : UInt64).toNat ≤ maxPermittedDataIncrease := by decide
  refine ensures_tx hP hS ?_ ?_ rfl blankCreated_clear.at (.weaken
    (.cons (fun L => createAccount_step (p := .blank) hP hS.injective hS.unreserved (by decide)
      hrent rfl rfl Cluster.payer_mem_signers mem_signers_new (Nat.le_refl _) hspace) .nil)
    fun L h => h.congr ?_)
  · simp [Cluster.newSignedWithPayer, blankIxs, TransactionLifecycle.requests,
      TransactionLifecycle.metas, TransactionLifecycle.signs, sysCreateAccount, AccountMeta.new]
  · simp [SignedTx.writable, blankIxs, TransactionLifecycle.requests, TransactionLifecycle.metas,
      sysCreateAccount, AccountMeta.new, Accounts.all]
  · intro p
    cases p <;> rfl

theorem ensures_pay : Session.Ensures (Allowed A calm)
    (Holds A.addr ((blankCreated C (n + 1000000 + C.fee ⟨A.payer, payIxs A⟩)).at C))
    (C.send A.payer (payIxs A) [] : ClusterClient E ExerciseLine Unit) (Cluster.Excused calm)
    fun _ lines L => lines = [] ∧ Holds A.addr ((blankPaid C n).at C) L := by
  refine ensures_tx hP hS ?_ ?_ rfl blankPaid_clear.at (.weaken
    (.cons (fun L => transfer_step (p := .blank) hP hS.injective hS.unreserved (by decide)
      rfl rfl Cluster.payer_mem_signers (Nat.le_refl _) hS.payFits) .nil)
    fun L h => h.congr ?_)
  · refine Cluster.newSignedWithPayer_alone ?_
    simp [payIxs, sysTransfer, AccountMeta.new]
  · simp [SignedTx.writable, payIxs, TransactionLifecycle.requests, TransactionLifecycle.metas,
      sysTransfer, AccountMeta.new, Accounts.all]
  · intro p
    cases p <;> rfl

theorem ensures_mint : Session.Ensures (Allowed A calm)
    (Holds A.addr
      ((blankPaid C (n + C.rent.minimumBalance 82 + C.fee ⟨A.payer, mintIxs C A⟩)).at C))
    (C.send A.payer (mintIxs C A) [A.mint] : ClusterClient E ExerciseLine Unit)
    (Cluster.Excused calm)
    fun _ lines L => lines = [] ∧ Holds A.addr ((mintCreated C A n).at C) L := by
  have hrent : (rentOf C 82).toNat = C.rent.minimumBalance 82 := rentOf_toNat hS (by decide)
  have hspace : MINT_LEN.toNat ≤ maxPermittedDataIncrease := by decide
  refine ensures_tx hP hS ?_ ?_ rfl mintCreated_clear.at (.weaken
    (.cons (fun L => createAccount_step (p := .mint) hP hS.injective hS.unreserved (by decide)
      hrent rfl rfl Cluster.payer_mem_signers mem_signers_new (Nat.le_refl _) hspace) <|
    .cons (fun L => mint_step (p := .mint) hP hS.injective hS.unreserved rfl (Nat.le_refl _)) .nil)
    fun L h => h.congr ?_)
  · simp [Cluster.newSignedWithPayer, mintIxs, TransactionLifecycle.requests,
      TransactionLifecycle.metas, TransactionLifecycle.signs, sysCreateAccount, initializeMint2,
      AccountMeta.new]
  · simp [SignedTx.writable, mintIxs, TransactionLifecycle.requests, TransactionLifecycle.metas,
      sysCreateAccount, initializeMint2, AccountMeta.new, Accounts.all]
  · intro p
    cases p <;> rfl

theorem ensures_ata : Session.Ensures (Allowed A calm)
    (Holds A.addr
      ((mintCreated C A (n + C.rent.minimumBalance 165 + C.fee ⟨A.payer, ataIxs A⟩)).at C))
    (C.send A.payer (ataIxs A) [] : ClusterClient E ExerciseLine Unit) (Cluster.Excused calm)
    fun _ lines L => lines = [] ∧ Holds A.addr ((ataCreated C A n).at C) L := by
  refine ensures_tx hP hS ?_ ?_ rfl ataCreated_clear.at (.weaken
    (.cons (fun L => ata_step (p := .ata) (q := .mint) hP hS.injective hS.unreserved none
      (by decide) rfl rfl rfl rfl nofun hS.ataDerived Cluster.payer_mem_signers) .nil)
    fun L h => h.congr ?_)
  · refine Cluster.newSignedWithPayer_alone ?_
    simp [ataIxs, ataInstruction, AccountMeta.new, AccountMeta.newReadonly]
  · simp [SignedTx.writable, ataIxs, TransactionLifecycle.requests, TransactionLifecycle.metas,
      ataInstruction, AccountMeta.new, AccountMeta.newReadonly, Accounts.all]
  · intro p
    cases p <;> rfl

theorem ensures_issue : Session.Ensures (Allowed A calm)
    (Holds A.addr ((ataCreated C A (n + C.fee ⟨A.payer, issueIxs A⟩)).at C))
    (C.send A.payer (issueIxs A) [] : ClusterClient E ExerciseLine Unit) (Cluster.Excused calm)
    fun _ lines L => lines = [] ∧ Holds A.addr ((issued C A n).at C) L := by
  have hfits : (0 : UInt64).toNat + (1000000 : UInt64).toNat < 2 ^ 64 := by decide
  refine ensures_tx hP hS ?_ ?_ rfl issued_clear.at (.weaken
    (.cons (fun L => mintTo_step (p := .mint) (q := .ata) hP hS.injective hS.unreserved none
      (by decide) rfl rfl rfl rfl rfl rfl rfl rfl rfl Cluster.payer_mem_signers hfits hfits
      (UInt64.zero_add _) (UInt64.zero_add _)) .nil)
    fun L h => h.congr ?_)
  · refine Cluster.newSignedWithPayer_alone ?_
    simp [issueIxs, mintTo, AccountMeta.new, AccountMeta.newReadonly]
  · simp [SignedTx.writable, issueIxs, TransactionLifecycle.requests, TransactionLifecycle.metas,
      mintTo, AccountMeta.new, AccountMeta.newReadonly, Accounts.all]
  · intro p
    cases p <;> rfl

theorem ensures_mint22 : Session.Ensures (Allowed A calm)
    (Holds A.addr
      ((issued C A (n + C.rent.minimumBalance 278 + C.fee ⟨A.payer, mint22Ixs C A⟩)).at C))
    (C.send A.payer (mint22Ixs C A) [A.mint22] : ClusterClient E ExerciseLine Unit)
    (Cluster.Excused calm)
    fun _ lines L => lines = [] ∧ Holds A.addr ((mint22Created C A n).at C) L := by
  have hrent : (rentOf C 278).toNat = C.rent.minimumBalance 278 := rentOf_toNat hS (by decide)
  have hspace : MINT_2022_WITH_FEE_LEN.toNat ≤ maxPermittedDataIncrease := by decide
  have hpoints : fivePercent.basisPoints.toNat ≤ 10000 := by decide
  refine ensures_tx hP hS ?_ ?_ rfl mint22Created_clear.at (.weaken
    (.cons (fun L => createAccount_step (p := .mint22) hP hS.injective hS.unreserved (by decide)
      hrent rfl rfl Cluster.payer_mem_signers mem_signers_new (Nat.le_refl _) hspace) <|
    .cons (fun L => feeConfig_step (p := .mint22) hP hS.injective hS.unreserved rfl hpoints) <|
    .cons (fun L => mint22_step (p := .mint22) hP hS.injective hS.unreserved rfl
      (Nat.le_refl _)) .nil)
    fun L h => h.congr ?_)
  · simp [Cluster.newSignedWithPayer, mint22Ixs, TransactionLifecycle.requests,
      TransactionLifecycle.metas, TransactionLifecycle.signs, sysCreateAccount, initializeMint2,
      initializeTransferFeeConfig, AccountMeta.new]
  · simp [SignedTx.writable, mint22Ixs, TransactionLifecycle.requests, TransactionLifecycle.metas,
      sysCreateAccount, initializeMint2, initializeTransferFeeConfig, AccountMeta.new,
      Accounts.all]
  · intro p
    cases p <;> rfl

theorem ensures_atas22 : Session.Ensures (Allowed A calm)
    (Holds A.addr ((mint22Created C A (n + C.rent.minimumBalance 182 + C.rent.minimumBalance 182 +
      C.fee ⟨A.payer, atas22Ixs A⟩)).at C))
    (C.send A.payer (atas22Ixs A) [] : ClusterClient E ExerciseLine Unit) (Cluster.Excused calm)
    fun _ lines L => lines = [] ∧ Holds A.addr ((atas22Created C A n).at C) L := by
  obtain ⟨b, hsrc⟩ := hS.srcDerived
  obtain ⟨b', hdst⟩ := hS.dstDerived
  refine ensures_tx hP hS ?_ ?_ rfl atas22Created_clear.at (.weaken
    (.cons (fun L => ata_step (p := .src) (q := .mint22) hP hS.injective hS.unreserved
      (some fivePercent) (by decide) rfl rfl rfl rfl nofun hsrc Cluster.payer_mem_signers) <|
    .cons (fun L => ata_step (p := .dst) (q := .mint22) hP hS.injective hS.unreserved
      (some fivePercent) (by decide) rfl rfl rfl rfl nofun hdst Cluster.payer_mem_signers) .nil)
    fun L h => h.congr ?_)
  · refine Cluster.newSignedWithPayer_alone ?_
    simp [atas22Ixs, ataInstruction, AccountMeta.new, AccountMeta.newReadonly]
  · simp [SignedTx.writable, atas22Ixs, TransactionLifecycle.requests, TransactionLifecycle.metas,
      ataInstruction, AccountMeta.new, AccountMeta.newReadonly, Accounts.all]
  · intro p
    cases p <;> rfl

theorem ensures_issue22 : Session.Ensures (Allowed A calm)
    (Holds A.addr ((atas22Created C A (n + C.fee ⟨A.payer, issue22Ixs A⟩)).at C))
    (C.send A.payer (issue22Ixs A) [] : ClusterClient E ExerciseLine Unit) (Cluster.Excused calm)
    fun _ lines L => lines = [] ∧ Holds A.addr ((issued22 C A n).at C) L := by
  have hfits : (0 : UInt64).toNat + (1000000 : UInt64).toNat < 2 ^ 64 := by decide
  refine ensures_tx hP hS ?_ ?_ rfl issued22_clear.at (.weaken
    (.cons (fun L => mintTo_step (p := .mint22) (q := .src) hP hS.injective hS.unreserved
      (some fivePercent) (by decide) rfl rfl rfl rfl rfl rfl rfl rfl rfl Cluster.payer_mem_signers
      hfits hfits (UInt64.zero_add _) (UInt64.zero_add _)) .nil)
    fun L h => h.congr ?_)
  · refine Cluster.newSignedWithPayer_alone ?_
    simp [issue22Ixs, mintTo, AccountMeta.new, AccountMeta.newReadonly]
  · simp [SignedTx.writable, issue22Ixs, TransactionLifecycle.requests, TransactionLifecycle.metas,
      mintTo, AccountMeta.new, AccountMeta.newReadonly, Accounts.all]
  · intro p
    cases p <;> rfl

theorem ensures_transfer : Session.Ensures (Allowed A calm)
    (Holds A.addr ((issued22 C A (n + C.fee ⟨A.payer, transferIxs A⟩)).at C))
    (C.send A.payer (transferIxs A) [] : ClusterClient E ExerciseLine Unit) (Cluster.Excused calm)
    fun _ lines L => lines = [] ∧ Holds A.addr ((transferred C A n).at C) L := by
  have hpoints : fivePercent.basisPoints.toNat ≤ 10000 := by decide
  have hfits : (0 : UInt64).toNat + (100000 : UInt64).toNat < 2 ^ 64 := by decide
  have hkept : UInt64.ofNat (fivePercent.charge (100000 : UInt64).toNat) = 5000 := by decide
  have hleft : (1000000 : UInt64) - 100000 = 900000 := by decide
  have harrived : (0 : UInt64) + (100000 - 5000) = 95000 := by decide
  refine ensures_tx hP hS ?_ ?_ rfl transferred_clear.at (.weaken
    (.cons (fun L => transferChecked_step (p := .src) (q := .dst) (r := .mint22) hP hS.injective
      hS.unreserved (by decide) rfl rfl rfl rfl rfl rfl Cluster.payer_mem_signers hpoints
      (by decide) hfits hfits hkept hleft harrived (UInt64.zero_add _)) .nil)
    fun L h => h.congr ?_)
  · refine Cluster.newSignedWithPayer_alone ?_
    simp [transferIxs, transferChecked, AccountMeta.new, AccountMeta.newReadonly]
  · simp [SignedTx.writable, transferIxs, TransactionLifecycle.requests, TransactionLifecycle.metas,
      transferChecked, AccountMeta.new, AccountMeta.newReadonly, Accounts.all]
  · intro p
    cases p <;> rfl

end Carried

/-! ## The tour -/

section Report

variable (C A)

/-! What the payer needs for the last transaction, for the last two, and so on. -/

def transferCost : ℕ := 0 + C.fee ⟨A.payer, transferIxs A⟩

def issue22Cost : ℕ := transferCost C A + C.fee ⟨A.payer, issue22Ixs A⟩

def atas22Cost : ℕ :=
  issue22Cost C A + C.rent.minimumBalance 182 + C.rent.minimumBalance 182 +
    C.fee ⟨A.payer, atas22Ixs A⟩

def mint22Cost : ℕ :=
  atas22Cost C A + C.rent.minimumBalance 278 + C.fee ⟨A.payer, mint22Ixs C A⟩

def issueCost : ℕ := mint22Cost C A + C.fee ⟨A.payer, issueIxs A⟩

def ataCost : ℕ := issueCost C A + C.rent.minimumBalance 165 + C.fee ⟨A.payer, ataIxs A⟩

def mintCost : ℕ := ataCost C A + C.rent.minimumBalance 82 + C.fee ⟨A.payer, mintIxs C A⟩

def payCost : ℕ := mintCost C A + 1000000 + C.fee ⟨A.payer, payIxs A⟩

/-- What the payer spends altogether. -/
def cost : ℕ := payCost C A + C.rent.minimumBalance 0 + C.fee ⟨A.payer, blankIxs C A⟩

/-- What `main` prints. -/
def report : List ExerciseLine :=
  [.payer A.payer] ++
  (accountReport C "an account it created and kept for itself:" A.blank
    (C.rent.minimumBalance 0) systemProgramId "(System Program)" 0).map .shown ++
  [.afterTransfer (C.rent.minimumBalance 0 + 1000000)] ++
  (accountReport C "mint:" A.mint (C.rent.minimumBalance 82) tokenProgram "(SPL Token)"
    82).map .shown ++
  [.derived A.ata A.bump, .again A.ata, .under2022 A.under2022] ++
  (accountReport C "the created ATA:" A.ata (C.rent.minimumBalance 165) tokenProgram
    "(SPL Token)" 165).map .shown ++
  [.balance 1000000] ++
  (accountReport C "mint with a 5% transfer fee:" A.mint22 (C.rent.minimumBalance 278)
    token2022Program "(Token-2022)" 278).map .shown ++
  [.sizes 278 82, .sender 900000, .receiver 95000]

end Report

theorem MintOf.shown {lamports : ℕ} {v : SplToken.Mint} {fee : Option TransferFee} {a : Account}
    (h : MintOf lamports v fee a) :
    a.lamports = lamports ∧ a.owner = programOf fee ∧
      a.data.length = fee.elim 82 fun _ => 278 := by
  have hlength := h.length
  obtain ⟨hlamports, c, hcharging, hmint⟩ := h
  exact ⟨hlamports, hmint.owner.trans hcharging.programOf_eq, hlength⟩

theorem unwrap_derived {ε α : Type} {derived : Option α} {a : α} (h : derived = some a) :
    (Outcome.unwrap derived : Outcome ε α) = .ok a := by
  rw [h]
  rfl

theorem createAta_eq {ε : Type} {D : Derivation} {funder wallet mint program a : Pubkey}
    {bump : UInt8} (h : deriveAta D wallet mint program = some (a, bump)) :
    (createAta D funder wallet mint program : Outcome ε Instruction)
      = .ok (ataInstruction funder a wallet mint program) := by
  rw [createAta, h]
  rfl

/-- `main`, request by request. What each leaves is what the next relies on. -/
theorem ensures_main {calm : Prop} (hP : Programs C) (hS : Setting C A) :
    Session.Ensures (Allowed A calm) (Holds A.addr ((untouched (cost C A)).at C))
      (main C A.payer A.blank A.mint A.mint22 A.recipient) (Cluster.Excused calm)
      fun _ lines _ => lines = report C A := by
  obtain ⟨b, h2022⟩ := hS.derived2022
  obtain ⟨b', hsrc⟩ := hS.srcDerived
  obtain ⟨b'', hdst⟩ := hS.dstDerived
  unfold main
  refine .print ?_
  -- 1. System Program
  refine .silent (Cluster.ensures_getMinimumBalance (holds_stable hP) id _) fun rent => .known ?_
  rintro rfl
  refine .silent (ensures_blank (n := payCost C A) hP hS) fun _ => ?_
  refine .bind (ensures_show (p := .blank) hP nameOf_programs.1
    (fun a ha => by rw [ha]; exact ⟨rfl, rfl, rfl⟩) (Nat.add_pos_right 0 hS.rentPos))
    fun _ _ => .known ?_
  rintro rfl
  refine .silent (ensures_pay (n := mintCost C A) hP hS) fun _ => ?_
  refine .silent (ensures_lamports (p := .blank) hP rfl (Nat.succ_pos _)) fun account => .known ?_
  intro hlamports
  rw [hlamports]
  refine .print ?_
  -- 2. SPL Token
  refine .silent (Cluster.ensures_getMinimumBalance (holds_stable hP) id _) fun rent => .known ?_
  rintro rfl
  refine .silent (ensures_mint (n := ataCost C A) hP hS) fun _ => ?_
  refine .bind (ensures_show (p := .mint) hP nameOf_programs.2.1 (fun _ => MintOf.shown)
    (Nat.add_pos_left (by decide) _)) fun _ _ => .known ?_
  rintro rfl
  -- 3. Associated Token Account
  refine .lift (unwrap_derived hS.ataDerived) ?_
  refine .lift (unwrap_derived hS.ataDerived) ?_
  refine .print <| .print <| .lift (unwrap_derived h2022) ?_
  refine .print <| .lift (createAta_eq hS.ataDerived) ?_
  refine .silent (ensures_ata (n := issueCost C A) hP hS) fun _ => ?_
  refine .silent (ensures_issue (n := mint22Cost C A) hP hS) fun _ => ?_
  refine .bind (ensures_show (p := .ata) hP nameOf_programs.2.1
    (fun _ h => ⟨h.1, h.2.owner, h.2.length⟩) (Nat.add_pos_left (by decide) _)) fun _ _ => .known ?_
  rintro rfl
  refine .silent (ensures_amount (p := .ata) hP rfl) fun amount => .known ?_
  rintro rfl
  refine .print ?_
  -- 4. Token-2022
  refine .silent (Cluster.ensures_getMinimumBalance (holds_stable hP) id _) fun rent => .known ?_
  rintro rfl
  refine .silent (ensures_mint22 (n := atas22Cost C A) hP hS) fun _ => ?_
  refine .bind (ensures_show (p := .mint22) hP nameOf_programs.2.2 (fun _ => MintOf.shown)
    (Nat.add_pos_left (by decide) _)) fun _ _ => .known ?_
  rintro rfl
  refine .print <| .lift (unwrap_derived hsrc) ?_
  refine .lift (unwrap_derived hdst) ?_
  refine .lift (createAta_eq hsrc) <| .lift (createAta_eq hdst) ?_
  refine .silent (ensures_atas22 (n := issue22Cost C A) hP hS) fun _ => ?_
  refine .silent (ensures_issue22 (n := transferCost C A) hP hS) fun _ => ?_
  refine .silent (ensures_transfer (n := 0) hP hS) fun _ => ?_
  refine .silent (ensures_amount (p := .src) hP rfl) fun amount => .known ?_
  rintro rfl
  refine .print ?_
  refine .silent (ensures_amount (p := .dst) hP rfl) fun amount => .known ?_
  rintro rfl
  intro w hw hholds
  exact ⟨hw, rfl⟩

end Exercise

/-! ## A busy node

The digests are those of the four searches, which take the first bump. The four keys are on the
curve. Before every request of the tour, bob has had a transaction of his own.
-/

end BootcampSolana.FourPrograms
