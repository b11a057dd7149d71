import BootcampSolana.Clients.TokenLayout

/-!
# Decoders on arbitrary data

The four functions that decode an account return a `Result`, and every conversion in them ends
in `?`. But they slice before they convert, and a slice that is out of bounds panics, so the
conversions never get to fail. An option tag that is neither 0 nor 1 is read as present.

* `Contract` — what a decoder is for: decode what is well formed, return `Err` otherwise
* `decoders_contract` — it is met where the data is well formed, and nowhere else
-/

namespace BootcampSolana

open CounterPda (RpcClient ClientError readCounter countOf)

/-- Data that is well formed is decoded, and other data is an error. -/
structure Contract {ε α : Type} (wellFormed decoded : Prop) (result : Outcome ε α) : Prop where
  decodes : wellFormed → decoded
  rejects : ¬ wellFormed → ∃ e, result = .err e

namespace Contract

variable {ε α : Type} {wellFormed decoded : Prop} {x : Outcome ε α}

/-- A decoder that never returns an error meets it on well-formed data only. -/
theorem iff_wellFormed (hne : ∀ e, x ≠ .err e) (hdecoded : wellFormed → decoded) :
    Contract wellFormed decoded x ↔ wellFormed := by
  constructor
  · intro h
    by_contra hw
    obtain ⟨e, he⟩ := h.rejects hw
    exact hne e he
  · intro hw
    exact ⟨hdecoded, fun hnot => absurd hw hnot⟩

end Contract

namespace Outcome

variable {ε α β : Type}

theorem ite_ne_err {p : Prop} [Decidable p] {a : α} (e : ε) :
    (if p then .ok a else .panicked : Outcome ε α) ≠ .err e := by
  split
  · exact nofun
  · exact nofun

/-- What either succeeds or panics does not return an error. -/
theorem ne_err_of_or {p : Prop} {x : Outcome ε α} (hok : p → ∃ a, x = .ok a)
    (hpanicked : ¬ p → x = .panicked) (e : ε) : x ≠ .err e := by
  by_cases h : p
  · obtain ⟨a, rfl⟩ := hok h
    exact nofun
  · rw [hpanicked h]
    exact nofun

theorem bind_pure_ne_err {x : Outcome ε α} (hx : ∀ e, x ≠ .err e) (f : α → β) (e : ε) :
    (x >>= fun a => pure (f a)) ≠ .err e := by
  cases x with
  | ok a => exact nofun
  | err e' => exact absurd rfl (hx e')
  | panicked => exact nofun

end Outcome

/-! ## Counters and amounts -/

section Values

variable {rpc : RpcClient} {key : Pubkey} {a : Account}

theorem readCounter_short (h : rpc.getAccount key = .ok a) (hlen : a.data.length < 41) :
    readCounter rpc key = .panicked := by
  have hbump := (@index_eq ClientError a.data 40).trans (if_neg (by omega))
  unfold readCounter
  rw [h]
  by_cases h8 : 8 ≤ a.data.length
  · have hword : tryIntoArray 8 (window a.data 0 8) = some (window a.data 0 8) :=
      tryIntoArray_window h8 rfl
    have h1 : (slice a.data 0 8 : Outcome ClientError Bytes) = .ok (window a.data 0 8) :=
      slice_eq_ok (by omega) h8
    by_cases h40 : 40 ≤ a.data.length
    · have h2 : (slice a.data 8 40 : Outcome ClientError Bytes) = .ok (window a.data 8 40) :=
        slice_eq_ok (by omega) h40
      have hkey : (window a.data 8 40).length = 32 := length_window h40
      simp only [Outcome.bind_ok, h1, h2, hword, Outcome.okOr, Pubkey.tryFrom_eq_some hkey, hbump]
      rfl
    · have h2 := (@slice_eq ClientError a.data 8 40 (by omega)).trans (if_neg h40)
      simp only [Outcome.bind_ok, h1, h2, hword, Outcome.okOr]
      rfl
  · have h1 := (@slice_eq ClientError a.data 0 8 (by omega)).trans (if_neg h8)
    simp only [Outcome.bind_ok, h1]
    rfl

theorem tokenAmount_eq (h : rpc.getAccount key = .ok a) : FourPrograms.tokenAmount rpc key =
    if 72 ≤ a.data.length then .ok (U64.fromLeBytes (window a.data 64 72)) else .panicked := by
  unfold FourPrograms.tokenAmount
  rw [h]
  exact SplToken.readU64_eq rfl

end Values

/-! ## Mints and token accounts -/

namespace SplToken

open Printed

variable {rpc : RpcView} {key : Pubkey} {a : Account} {label : String}

/-- A field that is read by its own width is there, or the slice panics. -/
theorem readU64_ne_err {d : Bytes} {i j : Nat} (hj : j = i + 8) (e : ClientError) :
    readU64 d i j ≠ .err e := by
  rw [readU64_eq hj]
  exact Outcome.ite_ne_err e

theorem readKeyOption_ne_err {d : Bytes} {i j : Nat} (hj : j = i + 36) (e : ClientError) :
    readOption coptionPubkey d i j ≠ .err e := by
  rw [readKeyOption_eq hj]
  exact Outcome.ite_ne_err e

theorem index_ne_err {d : Bytes} {i : Nat} (e : ClientError) : index d i ≠ .err e := by
  rw [index_eq]
  exact Outcome.ite_ne_err e

theorem showMint_short (h : rpc.getAccount key = .ok a) (hlen : a.data.length < 82) :
    (showMint rpc key).result = .panicked := by
  unfold showMint
  rw [showRuntime_eq h]
  -- whatever happens before, the last slice is out of bounds
  show (println _ >>= _).result = .panicked
  refine println_bind_panicked (Outcome.bind_pure_ne_err (readKeyOption_ne_err rfl) _) ?_
  refine println_bind_panicked ?_ ?_
  · rw [readU64_eq rfl]
    intro e
    split
    · exact nofun
    · exact nofun
  refine println_bind_panicked (Outcome.bind_pure_ne_err index_ne_err _) ?_
  refine println_bind_panicked (Outcome.bind_pure_ne_err index_ne_err _) ?_
  rw [readKeyOption_eq rfl, if_neg (by omega)]
  rfl

theorem showTokenAccount_short (h : rpc.getAccount key = .ok a) (hlen : a.data.length < 165) :
    (showTokenAccount rpc label key).result = .panicked := by
  unfold showTokenAccount
  rw [showRuntime_eq h]
  show (println _ >>= _).result = .panicked
  refine println_bind_panicked (Outcome.bind_pure_ne_err (readPubkey_ne_err rfl) _) ?_
  refine println_bind_panicked (Outcome.bind_pure_ne_err (readPubkey_ne_err rfl) _) ?_
  refine lift_bind_panicked (readU64_ne_err rfl) ?_
  intro amount
  show (println _ >>= _).result = .panicked
  refine println_bind_panicked (Outcome.bind_pure_ne_err (readKeyOption_ne_err rfl) _) ?_
  refine println_bind_panicked (Outcome.bind_pure_ne_err index_ne_err _) ?_
  refine println_bind_panicked (Outcome.bind_pure_ne_err ?_ _) ?_
  · rw [readWordOption_eq rfl]
    exact Outcome.ite_ne_err
  refine println_bind_panicked (Outcome.bind_pure_ne_err (readU64_ne_err rfl) _) ?_
  rw [readKeyOption_eq rfl, if_neg (by omega)]
  rfl

end SplToken

/-! ## Where the contract is met -/

section Contracts

open SplToken

variable (rpc : RpcView) (label : String) (key : Pubkey) (a : Account)

def CounterContract : Prop :=
  Contract (41 ≤ a.data.length)
    (∃ authority : Pubkey, authority.bytes = window a.data 8 40 ∧
      readCounter rpc.toRpcClient key = .ok (countOf a.data, authority, a.data.getD 40 0))
    (readCounter rpc.toRpcClient key)

def AmountContract : Prop :=
  Contract (72 ≤ a.data.length)
    (FourPrograms.tokenAmount rpc.toRpcClient key = .ok (U64.fromLeBytes (window a.data 64 72)))
    (FourPrograms.tokenAmount rpc.toRpcClient key)

/-- The fields that `show_mint` reads are there, and the tags are tags. -/
structure MintReadable (d : Bytes) : Prop where
  length : 82 ≤ d.length
  mintAuthority : TagOk (window d 0 36)
  freezeAuthority : TagOk (window d 46 82)

def MintContract : Prop :=
  Contract (MintReadable a.data)
    (showMint rpc key =
      ⟨.mintHeading :: runtimeLines rpc key a ++ .mintLayout :: (Mint.read a.data).lines, .ok ()⟩)
    (showMint rpc key).result

structure TokenAccountReadable (d : Bytes) : Prop where
  length : 165 ≤ d.length
  delegate : TagOk (window d 72 108)
  isNative : TagOk (window d 109 121)
  closeAuthority : TagOk (window d 129 165)

def TokenAccountContract : Prop :=
  Contract (TokenAccountReadable a.data)
    (∃ h : 165 ≤ a.data.length, showTokenAccount rpc label key =
      ⟨.accountHeading label :: runtimeLines rpc key a ++
        .accountLayout :: (TokenFields.read a.data h).lines, .ok ()⟩)
    (showTokenAccount rpc label key).result

end Contracts

section Met

open SplToken

variable {rpc : RpcView} {label : String} {key : Pubkey} {a : Account}

theorem counterContract_iff (h : rpc.getAccount key = .ok a) :
    CounterContract rpc key a ↔ 41 ≤ a.data.length := by
  refine Contract.iff_wellFormed ?_ ?_
  · exact Outcome.ne_err_of_or (fun hlen => ⟨_, CounterPda.readCounter_eq h hlen⟩)
      fun hlen => readCounter_short h (Nat.lt_of_not_le hlen)
  · intro hlen
    exact ⟨_, rfl, CounterPda.readCounter_eq h hlen⟩

theorem amountContract_iff (h : rpc.getAccount key = .ok a) :
    AmountContract rpc key a ↔ 72 ≤ a.data.length := by
  have hamount := tokenAmount_eq h
  refine Contract.iff_wellFormed ?_ ?_
  · rw [hamount]
    exact Outcome.ite_ne_err
  · intro hlen
    rw [hamount, if_pos hlen]

theorem mintContract_iff (h : rpc.getAccount key = .ok a) :
    MintContract rpc key a ↔ MintReadable a.data := by
  refine Contract.iff_wellFormed ?_ ?_
  · exact Outcome.ne_err_of_or (fun hlen => ⟨(), congrArg Printed.result (showMint_eq h hlen)⟩)
      fun hlen => showMint_short h (Nat.lt_of_not_le hlen)
  · intro hmint
    exact showMint_eq h hmint.length

theorem tokenAccountContract_iff (h : rpc.getAccount key = .ok a) :
    TokenAccountContract rpc label key a ↔ TokenAccountReadable a.data := by
  refine Contract.iff_wellFormed ?_ ?_
  · exact Outcome.ne_err_of_or
      (fun hlen => ⟨(), congrArg Printed.result (showTokenAccount_eq h hlen)⟩)
      fun hlen => showTokenAccount_short h (Nat.lt_of_not_le hlen)
  · intro haccount
    exact ⟨haccount.length, showTokenAccount_eq h haccount.length⟩

/--
**No decoder ever rejects its data.** Each meets its contract exactly on the accounts whose data
is well formed; on any other it panics or reads a value that is not there.
-/
theorem decoders_contract (h : rpc.getAccount key = .ok a) :
    (CounterContract rpc key a ↔ 41 ≤ a.data.length) ∧
    (AmountContract rpc key a ↔ 72 ≤ a.data.length) ∧
    (MintContract rpc key a ↔ MintReadable a.data) ∧
    (TokenAccountContract rpc label key a ↔ TokenAccountReadable a.data) :=
  ⟨counterContract_iff h, amountContract_iff h, mintContract_iff h, tokenAccountContract_iff h⟩

end Met

/-- An address that has received lamports and nothing else. -/
def lamportsOnly : Account := ⟨1000000, [], systemProgramId⟩

/-- An all-zero token account, but for a delegate with the tag 2. -/
def badTag : Account := ⟨2039280, List.replicate 72 0 ++ 2 :: List.replicate 92 0, systemProgramId⟩

theorem decoders_contract_badTag :
    (CounterContract (.serving badTag) alice badTag ↔ 41 ≤ badTag.data.length) ∧
    (AmountContract (.serving badTag) alice badTag ↔ 72 ≤ badTag.data.length) ∧
    (MintContract (.serving badTag) alice badTag ↔ MintReadable badTag.data) ∧
    (TokenAccountContract (.serving badTag) "alice" alice badTag ↔
      TokenAccountReadable badTag.data) :=
  decoders_contract rfl

/-- No decoder can be given the empty data, and a tag of 2 is shown as a delegate. -/
theorem decoders_malformed :
    ¬ CounterContract (.serving lamportsOnly) alice lamportsOnly ∧
    ¬ AmountContract (.serving lamportsOnly) alice lamportsOnly ∧
    ¬ MintContract (.serving lamportsOnly) alice lamportsOnly ∧
    ¬ TokenAccountContract (.serving lamportsOnly) "alice" alice lamportsOnly ∧
    ¬ TokenAccountContract (.serving badTag) "alice" alice badTag := by
  have hshort : ∀ n, n ≠ 0 → ¬ n ≤ lamportsOnly.data.length := by
    intro n hn hle
    exact hn (Nat.le_zero.mp hle)
  refine ⟨?_, ?_, ?_, ?_, ?_⟩
  · rw [counterContract_iff rfl]
    exact hshort 41 (by decide)
  · rw [amountContract_iff rfl]
    exact hshort 72 (by decide)
  · rw [mintContract_iff rfl]
    exact fun h => hshort 82 (by decide) h.length
  · rw [tokenAccountContract_iff rfl]
    exact fun h => hshort 165 (by decide) h.length
  · rw [tokenAccountContract_iff rfl]
    intro h
    have htag := h.delegate
    revert htag
    decide

end BootcampSolana
