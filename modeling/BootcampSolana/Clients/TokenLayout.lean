import BootcampSolana.Clients.TokenAccounts

/-!
# The two layouts

Mints and token accounts as the README of `06-spl-token` lays them out: a list of fields, put
one after the other. An absent option leaves its payload as it was, so a value has as many
packings as there are stale bytes.

* `packs_mint`, `packs_account` — which byte strings are packings, and that every field of one
  is where the decoders slice
* `show_pack` — the decoders show the value that was packed, whatever the stale bytes are
-/

namespace BootcampSolana.SplToken

open CounterPda (RpcClient ClientError)

/-! ## Fields -/

/-- What an absent option leaves behind its tag. -/
abbrev Stale (n : Nat) := { s : Bytes // s.length = n }

/-- A 4-byte tag, and a payload of `n` bytes either way. -/
def packOption {α : Type} {n : Nat} (encode : α → Bytes) (v : Option α) (stale : Stale n) : Bytes :=
  match v with
  | some a => U32.toLeBytes 1 ++ encode a
  | none => U32.toLeBytes 0 ++ stale.1

/-- The tag of an option field says whether it is there. -/
def TagOk (field : Bytes) : Prop :=
  U32.fromLeBytes (window field 0 4) = 0 ∨ U32.fromLeBytes (window field 0 4) = 1

instance (field : Bytes) : Decidable (TagOk field) :=
  inferInstanceAs (Decidable (_ ∨ _))

section Options

variable {α : Type} {n : Nat} {encode : α → Bytes} {v : Option α} {stale : Stale n}

theorem length_packOption (h : ∀ a, (encode a).length = n) :
    (packOption encode v stale).length = 4 + n := by
  unfold packOption
  split
  · rw [List.length_append, U32.length_toLeBytes, h]
  · rw [List.length_append, U32.length_toLeBytes, stale.2]

@[simp] theorem length_packKey {v : Option Pubkey} {stale : Stale 32} :
    (packOption Pubkey.bytes v stale).length = 36 := length_packOption Pubkey.length_bytes

@[simp] theorem length_packWord {v : Option UInt64} {stale : Stale 8} :
    (packOption U64.toLeBytes v stale).length = 12 := length_packOption U64.length_toLeBytes

/-- The two halves of an option field. -/
theorem window_packOption :
    U32.fromLeBytes (window (packOption encode v stale) 0 4) = (if v.isSome then 1 else 0) ∧
      window (packOption encode v stale) 4 (4 + n) =
        window (v.elim stale.1 encode) 0 n := by
  have hsplit : ∀ (tag : UInt32) (rest : Bytes),
      U32.fromLeBytes (window (U32.toLeBytes tag ++ rest) 0 4) = tag ∧
        window (U32.toLeBytes tag ++ rest) 4 (4 + n) = window rest 0 n := by
    intro tag rest
    have hlen : (U32.toLeBytes tag).length = 4 := U32.length_toLeBytes tag
    refine ⟨?_, ?_⟩
    · rw [window_append_left (by omega), window_self hlen, U32.fromLeBytes_toLeBytes]
    · rw [window_append_right (by omega), hlen, Nat.sub_self, Nat.add_sub_cancel_left]
  cases v with
  | none => exact hsplit 0 _
  | some a => exact hsplit 1 _

theorem tagOk_pack : TagOk (packOption encode v stale) := by
  unfold TagOk
  rw [window_packOption.1]
  cases v with
  | none => exact Or.inl rfl
  | some a => exact Or.inr rfl

/-- An option field as it is read: a tag, and a payload of `n` bytes for `decode`. -/
def optionAt (decode : Bytes → Option α) (n : Nat) (field : Bytes) : Option α :=
  if U32.fromLeBytes (window field 0 4) = 0 then none else decode (window field 4 (4 + n))

variable {decode : Bytes → Option α} {field : Bytes}

/-- **Stale bytes do not leak**: an option field reads as what was packed. -/
theorem optionAt_pack (hlen : ∀ a, (encode a).length = n)
    (hdecode : ∀ a, decode (encode a) = some a) :
    optionAt decode n (packOption encode v stale) = v := by
  obtain ⟨htag, hrest⟩ := @window_packOption _ _ encode v stale
  unfold optionAt
  rw [htag, hrest]
  cases v with
  | none => rfl
  | some a =>
    show decode (window (encode a) 0 n) = some a
    rw [window_self (hlen a), hdecode]

theorem tag_append_payload (h : field.length = 4 + n) :
    U32.toLeBytes (U32.fromLeBytes (window field 0 4)) ++ window field 4 (4 + n) = field := by
  have htag : (window field 0 4).length = 4 := length_window (by omega)
  rw [U32.toLeBytes_fromLeBytes htag, window_append_window (by omega) (by omega), window_self h]

/-- A field with a tag is a packing of what it reads as, with its own payload for stale bytes. -/
theorem pack_optionAt (hlen : field.length = 4 + n) (htag : TagOk field) {a : α}
    (hdecode : decode (window field 4 (4 + n)) = some a)
    (hencode : encode a = window field 4 (4 + n)) (hstale : stale.1 = window field 4 (4 + n)) :
    packOption encode (optionAt decode n field) stale = field := by
  have hjoin := tag_append_payload hlen
  unfold optionAt
  rcases htag with h | h
  · rw [if_pos h]
    rw [h, ← hstale] at hjoin
    exact hjoin
  · rw [if_neg (by rw [h]; decide), hdecode]
    rw [h, ← hencode] at hjoin
    exact hjoin

end Options

section Fields

variable {field : Bytes}

theorem keyOption_pack {v : Option Pubkey} {stale : Stale 32} :
    keyOption (packOption Pubkey.bytes v stale) = v :=
  optionAt_pack Pubkey.length_bytes fun p => Pubkey.tryFrom_eq_some p.length_bytes

theorem wordOption_pack {v : Option UInt64} {stale : Stale 8} :
    wordOption (packOption U64.toLeBytes v stale) = v :=
  @optionAt_pack _ _ U64.toLeBytes v stale (fun word => some (U64.fromLeBytes word))
    U64.length_toLeBytes fun w => congrArg some (U64.fromLeBytes_toLeBytes w)

theorem packKey_keyOption (hlen : field.length = 36) (h : TagOk field) :
    packOption Pubkey.bytes (keyOption field)
      (⟨window field 4 36, length_window (by omega)⟩ : Stale 32) = field := by
  have hpayload : (window field 4 36).length = 32 := length_window (by omega)
  exact pack_optionAt hlen h (Pubkey.tryFrom_eq_some hpayload) rfl rfl

theorem packWord_wordOption (hlen : field.length = 12) (h : TagOk field) :
    packOption U64.toLeBytes (wordOption field)
      (⟨window field 4 12, length_window (by omega)⟩ : Stale 8) = field := by
  have hpayload : (window field 4 12).length = 8 := length_window (by omega)
  exact @pack_optionAt _ 8 U64.toLeBytes _ (fun word => some (U64.fromLeBytes word)) field hlen h _
    rfl (U64.toLeBytes_fromLeBytes hpayload) rfl

end Fields

/-! ## Mints -/

def Mint.fields (v : Mint) (s₁ s₂ : Stale 32) : List Bytes :=
  [packOption Pubkey.bytes v.mintAuthority s₁, U64.toLeBytes v.supply, [v.decimals],
    [if v.isInitialized then 1 else 0], packOption Pubkey.bytes v.freezeAuthority s₂]

def Mint.pack (v : Mint) (s₁ s₂ : Stale 32) : Bytes := (v.fields s₁ s₂).flatten

/-- What a string of bytes has to be to be a mint. -/
structure IsMint (d : Bytes) : Prop where
  length : d.length = 82
  mintAuthority : TagOk (window d 0 36)
  isInitialized : d.getD 45 0 = 0 ∨ d.getD 45 0 = 1
  freezeAuthority : TagOk (window d 46 82)

section Mints

variable {v : Mint} {s₁ s₂ : Stale 32} {d : Bytes}

/-- The fields of a mint, where `show_mint` slices. -/
theorem Mint.windows (v : Mint) (s₁ s₂ : Stale 32) :
    window (v.pack s₁ s₂) 0 36 = packOption Pubkey.bytes v.mintAuthority s₁ ∧
    window (v.pack s₁ s₂) 36 44 = U64.toLeBytes v.supply ∧
    window (v.pack s₁ s₂) 44 45 = [v.decimals] ∧
    window (v.pack s₁ s₂) 45 46 = [if v.isInitialized then 1 else 0] ∧
    window (v.pack s₁ s₂) 46 82 = packOption Pubkey.bytes v.freezeAuthority s₂ := by
  unfold Mint.pack
  refine ⟨window_field [] _ _ rfl (by simp), window_field [_] _ _ (by simp) (by simp),
    window_field [_, _] _ _ (by simp) (by simp), window_field [_, _, _] _ _ (by simp) (by simp),
    window_field [_, _, _, _] _ [] (by simp) (by simp)⟩

theorem length_pack_mint : (v.pack s₁ s₂).length = 82 := by
  simp [Mint.pack, Mint.fields]

theorem read_pack_mint : Mint.read (v.pack s₁ s₂) = v := by
  obtain ⟨h1, h2, h3, h4, h5⟩ := v.windows s₁ s₂
  have hinit : ((if v.isInitialized then 1 else 0 : UInt8) != 0) = v.isInitialized := by
    cases v.isInitialized <;> rfl
  unfold Mint.read
  rw [h1, h2, h5, keyOption_pack, keyOption_pack, U64.fromLeBytes_toLeBytes, getD_of_window h3,
    getD_of_window h4, hinit]

/-- **The slices tile a mint.** The packings are the strings of 82 bytes with valid tags. -/
theorem packs_mint : IsMint d ↔ ∃ v s₁ s₂, d = Mint.pack v s₁ s₂ := by
  constructor
  · intro h
    have hlen := h.length
    have hkey : (window d 0 36).length = 36 := length_window (by omega)
    have hfreeze : (window d 46 82).length = 36 := length_window (by omega)
    have hword : (window d 36 44).length = 8 := length_window (by omega)
    have hinit : (if (Mint.read d).isInitialized then 1 else 0 : UInt8) = d.getD 45 0 := by
      unfold Mint.read
      rcases h.isInitialized with h0 | h1
      · rw [h0]
        rfl
      · rw [h1]
        rfl
    refine ⟨Mint.read d, ⟨window (window d 0 36) 4 36, length_window (by omega)⟩,
      ⟨window (window d 46 82) 4 36, length_window (by omega)⟩, ?_⟩
    unfold Mint.pack Mint.fields
    rw [hinit]
    unfold Mint.read
    rw [packKey_keyOption hkey h.mintAuthority, packKey_keyOption hfreeze h.freezeAuthority,
      U64.toLeBytes_fromLeBytes hword, ← window_byte (by omega), ← window_byte (by omega)]
    simp only [List.flatten_cons, List.flatten_nil, List.append_nil]
    rw [window_append_window (by omega) (by omega), window_append_window (by omega) (by omega),
      window_append_window (by omega) (by omega), window_append_window (by omega) (by omega),
      window_self hlen]
  · rintro ⟨v, s₁, s₂, rfl⟩
    obtain ⟨h1, h2, h3, h4, h5⟩ := v.windows s₁ s₂
    refine ⟨length_pack_mint, ?_, ?_, ?_⟩
    · rw [h1]
      exact tagOk_pack
    · rw [getD_of_window h4]
      cases v.isInitialized
      · exact Or.inl rfl
      · exact Or.inr rfl
    · rw [h5]
      exact tagOk_pack

end Mints

/-! ## Token accounts -/

inductive AccountState where
  | uninitialized
  | initialized
  | frozen
  deriving DecidableEq, Repr

def AccountState.toByte : AccountState → UInt8
  | .uninitialized => 0
  | .initialized => 1
  | .frozen => 2

structure TokenAccount where
  mint : Pubkey
  owner : Pubkey
  amount : UInt64
  delegate : Option Pubkey
  state : AccountState
  isNative : Option UInt64
  delegatedAmount : UInt64
  closeAuthority : Option Pubkey
  deriving DecidableEq

namespace TokenAccount

/-- The account as it is shown. -/
def shown (v : TokenAccount) : TokenFields where
  mint := v.mint
  owner := v.owner
  amount := v.amount
  delegate := v.delegate
  state :=
    match v.state with
    | .uninitialized => "Uninitialized"
    | .initialized => "Initialized"
    | .frozen => "Frozen"
  isNative := v.isNative
  delegatedAmount := v.delegatedAmount
  closeAuthority := v.closeAuthority

def fields (v : TokenAccount) (s₁ : Stale 32) (s₂ : Stale 8) (s₃ : Stale 32) : List Bytes :=
  [v.mint.bytes, v.owner.bytes, U64.toLeBytes v.amount, packOption Pubkey.bytes v.delegate s₁,
    [v.state.toByte], packOption U64.toLeBytes v.isNative s₂, U64.toLeBytes v.delegatedAmount,
    packOption Pubkey.bytes v.closeAuthority s₃]

def pack (v : TokenAccount) (s₁ : Stale 32) (s₂ : Stale 8) (s₃ : Stale 32) : Bytes :=
  (v.fields s₁ s₂ s₃).flatten

end TokenAccount

/-- What a string of bytes has to be to be a token account. -/
structure IsTokenAccount (d : Bytes) : Prop where
  length : d.length = 165
  delegate : TagOk (window d 72 108)
  state : (d.getD 108 0).toNat ≤ 2
  isNative : TagOk (window d 109 121)
  closeAuthority : TagOk (window d 129 165)

section Accounts

variable {v : TokenAccount} {s₁ s₃ : Stale 32} {s₂ : Stale 8} {d : Bytes}

/-- The fields of a token account, where `show_token_account` slices. -/
theorem TokenAccount.windows (v : TokenAccount) (s₁ : Stale 32) (s₂ : Stale 8) (s₃ : Stale 32) :
    window (v.pack s₁ s₂ s₃) 0 32 = v.mint.bytes ∧
    window (v.pack s₁ s₂ s₃) 32 64 = v.owner.bytes ∧
    window (v.pack s₁ s₂ s₃) 64 72 = U64.toLeBytes v.amount ∧
    window (v.pack s₁ s₂ s₃) 72 108 = packOption Pubkey.bytes v.delegate s₁ ∧
    window (v.pack s₁ s₂ s₃) 108 109 = [v.state.toByte] ∧
    window (v.pack s₁ s₂ s₃) 109 121 = packOption U64.toLeBytes v.isNative s₂ ∧
    window (v.pack s₁ s₂ s₃) 121 129 = U64.toLeBytes v.delegatedAmount ∧
    window (v.pack s₁ s₂ s₃) 129 165 = packOption Pubkey.bytes v.closeAuthority s₃ := by
  unfold TokenAccount.pack
  refine ⟨window_field [] _ _ rfl (by simp), window_field [_] _ _ (by simp) (by simp),
    window_field [_, _] _ _ (by simp) (by simp), window_field [_, _, _] _ _ (by simp) (by simp),
    window_field [_, _, _, _] _ _ (by simp) (by simp),
    window_field [_, _, _, _, _] _ _ (by simp) (by simp),
    window_field [_, _, _, _, _, _] _ _ (by simp) (by simp),
    window_field [_, _, _, _, _, _, _] _ [] (by simp) (by simp)⟩

theorem length_pack_account : (v.pack s₁ s₂ s₃).length = 165 := by
  simp [TokenAccount.pack, TokenAccount.fields]

theorem read_pack_account (h : 165 ≤ (v.pack s₁ s₂ s₃).length) :
    TokenFields.read (v.pack s₁ s₂ s₃) h = v.shown := by
  obtain ⟨h1, h2, h3, h4, h5, h6, h7, h8⟩ := v.windows s₁ s₂ s₃
  unfold TokenFields.read TokenAccount.shown
  congr 1
  · exact Pubkey.bytes_inj.mp h1
  · exact Pubkey.bytes_inj.mp h2
  · rw [h3, U64.fromLeBytes_toLeBytes]
  · rw [h4, keyOption_pack]
  · rw [getD_of_window h5]
    cases v.state <;> rfl
  · rw [h6, wordOption_pack]
  · rw [h7, U64.fromLeBytes_toLeBytes]
  · rw [h8, keyOption_pack]

theorem exists_state {b : UInt8} (h : b.toNat ≤ 2) : ∃ state : AccountState, state.toByte = b := by
  have hcases : b.toNat = 0 ∨ b.toNat = 1 ∨ b.toNat = 2 := by omega
  rcases hcases with h0 | h1 | h2
  · exact ⟨.uninitialized, UInt8.toNat_inj.mp h0.symm⟩
  · exact ⟨.initialized, UInt8.toNat_inj.mp h1.symm⟩
  · exact ⟨.frozen, UInt8.toNat_inj.mp h2.symm⟩

/-- **The slices tile a token account.** -/
theorem packs_account : IsTokenAccount d ↔ ∃ v s₁ s₂ s₃, d = TokenAccount.pack v s₁ s₂ s₃ := by
  constructor
  · intro h
    have hlen := h.length
    have hdelegate : (window d 72 108).length = 36 := length_window (by omega)
    have hnative : (window d 109 121).length = 12 := length_window (by omega)
    have hclose : (window d 129 165).length = 36 := length_window (by omega)
    have hamount : (window d 64 72).length = 8 := length_window (by omega)
    have hdelegated : (window d 121 129).length = 8 := length_window (by omega)
    obtain ⟨state, hstate⟩ := exists_state h.state
    refine ⟨{ mint := ⟨window d 0 32, length_window (by omega)⟩
              owner := ⟨window d 32 64, length_window (by omega)⟩
              amount := U64.fromLeBytes (window d 64 72)
              delegate := keyOption (window d 72 108)
              state := state
              isNative := wordOption (window d 109 121)
              delegatedAmount := U64.fromLeBytes (window d 121 129)
              closeAuthority := keyOption (window d 129 165) },
      ⟨window (window d 72 108) 4 36, length_window (by omega)⟩,
      ⟨window (window d 109 121) 4 12, length_window (by omega)⟩,
      ⟨window (window d 129 165) 4 36, length_window (by omega)⟩, ?_⟩
    unfold TokenAccount.pack TokenAccount.fields
    dsimp only
    rw [packKey_keyOption hdelegate h.delegate, packWord_wordOption hnative h.isNative,
      packKey_keyOption hclose h.closeAuthority, U64.toLeBytes_fromLeBytes hamount,
      U64.toLeBytes_fromLeBytes hdelegated, hstate, ← window_byte (by omega)]
    simp only [List.flatten_cons, List.flatten_nil, List.append_nil]
    rw [window_append_window (by omega) (by omega), window_append_window (by omega) (by omega),
      window_append_window (by omega) (by omega), window_append_window (by omega) (by omega),
      window_append_window (by omega) (by omega), window_append_window (by omega) (by omega),
      window_append_window (by omega) (by omega), window_self hlen]
  · rintro ⟨v, s₁, s₂, s₃, rfl⟩
    obtain ⟨-, -, -, h4, h5, h6, -, h8⟩ := v.windows s₁ s₂ s₃
    refine ⟨length_pack_account, ?_, ?_, ?_, ?_⟩
    · rw [h4]
      exact tagOk_pack
    · rw [getD_of_window h5]
      cases v.state <;> decide
    · rw [h6]
      exact tagOk_pack
    · rw [h8]
      exact tagOk_pack

end Accounts

/-! ## The decoders -/

/--
**The decoders invert the layouts.** Whatever is left in the payload of an absent option, what
is shown of a packed mint or token account is the value that was packed, and `token_amount`
reads its amount. The packings are all the strings of their length with valid tags, flag and
state, so the slices leave no byte out and share none.
-/
theorem show_pack :
    (∀ (v : Mint) s₁ s₂ (rpc : RpcView) key a, rpc.getAccount key = .ok a →
      a.data = v.pack s₁ s₂ →
      showMint rpc key =
        ⟨.mintHeading :: runtimeLines rpc key a ++ .mintLayout :: v.lines, .ok ()⟩) ∧
    (∀ (v : TokenAccount) s₁ s₂ s₃ (rpc : RpcView) label key a, rpc.getAccount key = .ok a →
      a.data = v.pack s₁ s₂ s₃ →
      showTokenAccount rpc label key =
        ⟨.accountHeading label :: runtimeLines rpc key a ++ .accountLayout :: v.shown.lines,
          .ok ()⟩ ∧
      FourPrograms.tokenAmount rpc.toRpcClient key = .ok v.amount) ∧
    (∀ d, IsMint d ↔ ∃ v s₁ s₂, d = Mint.pack v s₁ s₂) ∧
    (∀ d, IsTokenAccount d ↔ ∃ v s₁ s₂ s₃, d = TokenAccount.pack v s₁ s₂ s₃) := by
  refine ⟨?_, ?_, fun _ => packs_mint, fun _ => packs_account⟩
  · intro v s₁ s₂ rpc key a ha hdata
    have hlen : 82 ≤ a.data.length := by
      rw [hdata, length_pack_mint]
    rw [showMint_eq ha hlen, hdata, read_pack_mint]
  · intro v s₁ s₂ s₃ rpc label key a ha hdata
    have hlen : 165 ≤ a.data.length := by
      rw [hdata, length_pack_account]
    have hread : TokenFields.read a.data hlen = v.shown := by
      generalize a.data = d at hdata hlen
      subst hdata
      exact read_pack_account hlen
    refine ⟨?_, ?_⟩
    · rw [showTokenAccount_eq ha hlen, hread]
    · unfold FourPrograms.tokenAmount
      rw [ha]
      show readU64 a.data 64 72 = _
      rw [readU64_eq rfl, if_pos (by omega)]
      exact congrArg (fun f : TokenFields => Outcome.ok f.amount) hread

/-- A mint nobody can mint from any more. -/
def sampleMint : Mint where
  mintAuthority := none
  supply := 21000000
  decimals := 6
  isInitialized := true
  freezeAuthority := none

/-- The key of the authority that has been taken away is still in its payload. -/
theorem show_pack_stale :
    showMint (.serving ⟨1461600, sampleMint.pack ⟨alice.bytes, rfl⟩ ⟨bob.bytes, rfl⟩, bob⟩) alice =
      ⟨.mintHeading :: runtimeLines
          (.serving ⟨1461600, sampleMint.pack ⟨alice.bytes, rfl⟩ ⟨bob.bytes, rfl⟩, bob⟩) alice
          ⟨1461600, sampleMint.pack ⟨alice.bytes, rfl⟩ ⟨bob.bytes, rfl⟩, bob⟩ ++
        [.mintLayout, .mintAuthority none, .supply 21000000 (ui 21000000), .decimals 6,
          .isInitialized true, .freezeAuthority none], .ok ()⟩ :=
  show_pack.1 sampleMint ⟨alice.bytes, rfl⟩ ⟨bob.bytes, rfl⟩ _ alice _ rfl rfl

end BootcampSolana.SplToken
