import BootcampSolana.Clients.TokenLayout
import BootcampSolana.Clients.WireFormat

/-!
# Two tags for one option

An optional key has a tag of one byte in instruction data and of four bytes in account data. The
header of `06-spl-token/src/main.rs` warns that mixing them up produces silent nonsense.

* `coption_mixed` — what the one reader makes of what was written for the other. The only error that
  can be noticed is data that ends too soon, and the key is right only by accident
-/

namespace BootcampSolana.SplToken

variable {d rest : Bytes} {p : Pubkey}

/-- Four bytes are zero together or not at all. -/
theorem fromLeBytes_eq_zero {a b c e : UInt8} :
    U32.fromLeBytes [a, b, c, e] = 0 ↔ a = 0 ∧ b = 0 ∧ c = 0 ∧ e = 0 := by
  constructor
  · intro h
    have hbytes := U32.toLeBytes_fromLeBytes (rfl : [a, b, c, e].length = 4)
    rw [h] at hbytes
    simpa [U32.toLeBytes, LittleEndian.encode, eq_comm] using hbytes
  · rintro ⟨rfl, rfl, rfl, rfl⟩
    rfl

/-- A string of three bytes and more, with the three in front. -/
theorem exists_three (h : 3 ≤ d.length) : ∃ a b c more, d = a :: b :: c :: more := by
  rcases d with _ | ⟨a, _ | ⟨b, _ | ⟨c, more⟩⟩⟩
  · simp at h
  · simp at h
  · simp at h
  · exact ⟨a, b, c, more, rfl⟩

/-- A tag of one byte and three bytes of the key are a tag of four bytes. -/
theorem tag_coptionIx (p : Pubkey) (rest : Bytes) :
    U32.fromLeBytes (window (coptionIx [] (some p) ++ rest) 0 4) ≠ 0 := by
  obtain ⟨a, b, c, t, ht⟩ := exists_three (by rw [p.length_bytes]; decide : 3 ≤ p.bytes.length)
  have htag : window (coptionIx [] (some p) ++ rest) 0 4 = [1, a, b, c] := by
    simp [window, coptionIx, ht]
  rw [htag]
  intro h
  exact absurd (fromLeBytes_eq_zero.mp h).1 (by decide)

/-- So is the tag of an absent key with the three bytes that follow. -/
theorem tag_coptionIx_none (h : 3 ≤ rest.length) :
    U32.fromLeBytes (window (coptionIx [] none ++ rest) 0 4) = 0 ↔ rest.take 3 = [0, 0, 0] := by
  obtain ⟨x, y, z, more, rfl⟩ := exists_three h
  have htag : window (coptionIx [] none ++ x :: y :: z :: more) 0 4 = [0, x, y, z] := by
    simp [window, coptionIx]
  rw [htag, fromLeBytes_eq_zero]
  simp

theorem length_coptionIx (p : Pubkey) (rest : Bytes) :
    (coptionIx [] (some p) ++ rest).length = 33 + rest.length := by
  simp [coptionIx, p.length_bytes]
  omega

theorem length_coptionIx_none (rest : Bytes) :
    (coptionIx [] none ++ rest).length = 1 + rest.length := by
  simp [coptionIx]
  omega

/-- The reader of account data takes the first three bytes of the key for the rest of the tag. -/
theorem coptionPubkey_coptionIx (h : 3 ≤ rest.length) :
    ∃ q, coptionPubkey (coptionIx [] (some p) ++ rest) = .ok (some q) ∧
      q.bytes = p.bytes.drop 3 ++ rest.take 3 := by
  have hp := p.length_bytes
  have hlen : (p.bytes.drop 3 ++ rest.take 3).length = 32 := by
    rw [List.length_append, List.length_drop, List.length_take]
    omega
  have hkey : window (coptionIx [] (some p) ++ rest) 4 36 = p.bytes.drop 3 ++ rest.take 3 := by
    have hdrop : (coptionIx [] (some p) ++ rest).drop 4 = p.bytes.drop 3 ++ rest := by
      show (p.bytes ++ rest).drop 3 = _
      rw [List.drop_append_of_le_length (by omega)]
    rw [window, hdrop, List.take_append, List.take_of_length_le (by simp [hp])]
    congr 2
    simp [hp]
  refine ⟨⟨_, hlen⟩, ?_, rfl⟩
  rw [coptionPubkey_of_le (by rw [length_coptionIx]; omega), keyOption,
    if_neg (tag_coptionIx p rest), hkey, Pubkey.tryFrom_eq_some]

theorem coptionPubkey_coptionIx_of_lt (h : rest.length < 3) :
    coptionPubkey (coptionIx [] (some p) ++ rest) = .panicked := by
  rw [coptionPubkey_eq, if_neg]
  rintro (hlen | ⟨-, hzero⟩)
  · rw [length_coptionIx] at hlen
    omega
  · exact tag_coptionIx p rest hzero

/-- It takes what follows an absent key for the rest of the tag. -/
theorem coptionPubkey_coptionIx_none (rest : Bytes) :
    coptionPubkey (coptionIx [] none ++ rest) =
      if rest.take 3 = [0, 0, 0] then .ok none
      else if 35 ≤ rest.length then .ok (Pubkey.tryFrom (window (coptionIx [] none ++ rest) 4 36))
      else .panicked := by
  rw [coptionPubkey_eq, length_coptionIx_none]
  by_cases hthree : 3 ≤ rest.length
  · have htag := tag_coptionIx_none hthree
    by_cases hzero : rest.take 3 = [0, 0, 0]
    · rw [if_pos (Or.inr ⟨by omega, htag.mpr hzero⟩), if_pos hzero, keyOption,
        if_pos (htag.mpr hzero)]
    · rw [if_neg hzero, keyOption, if_neg (mt htag.mp hzero)]
      by_cases hlen : 35 ≤ rest.length
      · rw [if_pos hlen, if_pos (Or.inl (by omega))]
      · rw [if_neg hlen, if_neg]
        rintro (hlen' | ⟨-, hz⟩)
        · omega
        · exact hzero (htag.mp hz)
  · have hne : rest.take 3 ≠ [0, 0, 0] := by
      intro h
      have hlen := congrArg List.length h
      simp at hlen
      omega
    rw [if_neg (by omega), if_neg hne, if_neg (by omega)]

/-- The reader of instruction data takes the end of the tag for the first three bytes of the key. -/
theorem parse_packOption (stale : Stale 32) :
    ∃ q, Wire.coption.parse (packOption Pubkey.bytes (some p) stale ++ rest)
        = some (some q, p.bytes.drop 29 ++ rest) ∧ q.bytes = [0, 0, 0] ++ p.bytes.take 29 := by
  have hp := p.length_bytes
  have hlen : ([0, 0, 0] ++ p.bytes.take 29).length = 32 := by simp [hp]
  refine ⟨⟨[0, 0, 0] ++ p.bytes.take 29, hlen⟩, ?_, rfl⟩
  have hwritten : packOption Pubkey.bytes (some p) stale ++ rest =
      Wire.coption.encode (some ⟨[0, 0, 0] ++ p.bytes.take 29, hlen⟩) ++
        (p.bytes.drop 29 ++ rest) := by
    have hbytes : p.bytes.take 29 ++ (p.bytes.drop 29 ++ rest) = p.bytes ++ rest := by
      rw [← List.append_assoc, List.take_append_drop]
    show [1, 0, 0, 0] ++ p.bytes ++ rest
      = 1 :: ([0, 0, 0] ++ p.bytes.take 29) ++ (p.bytes.drop 29 ++ rest)
    simp only [List.cons_append, List.nil_append, hbytes]
  rw [hwritten, Wire.coption.parse_encode]

theorem parse_packOption_none (stale : Stale 32) :
    Wire.coption.parse (packOption Pubkey.bytes none stale ++ rest)
      = some (none, [0, 0, 0] ++ stale.1 ++ rest) :=
  Wire.coption.parse_encode none ([0, 0, 0] ++ stale.1 ++ rest)

/-- What repeats after three bytes is told by its first three bytes. -/
theorem eq_of_period {bs more : Bytes} (h : bs.drop 3 ++ more = bs) {i : Nat}
    (hi : i + 3 < bs.length) : bs[i + 3]? = bs[i]? := by
  have hget := congrArg (fun l : Bytes => l[i]?) h
  rw [← hget, List.getElem?_append_left (by rw [List.length_drop]; omega), List.getElem?_drop,
    Nat.add_comm 3]

/-- Three zeros in front of all that follows leave nothing but zeros. -/
theorem eq_zero_of_shift {bs : Bytes} (h : [0, 0, 0] ++ bs.take 29 = bs) {i : Nat}
    (hi : i < bs.length) : bs[i]? = some 0 := by
  induction i using Nat.strong_induction_on with
  | _ i ih =>
    rw [← h]
    by_cases hsmall : i < 3
    · rw [List.getElem?_append_left (by simpa using hsmall)]
      have hthree : i = 0 ∨ i = 1 ∨ i = 2 := by omega
      rcases hthree with rfl | rfl | rfl
      all_goals rfl
    · have hlen := congrArg List.length h
      simp only [List.length_append, List.length_cons, List.length_nil, List.length_take] at hlen
      rw [List.getElem?_append_right (by simp; omega), List.getElem?_take_of_lt (by simp; omega)]
      exact ih _ (by simp; omega) (by simp; omega)

/--
**Mixing the two tags up produces silent nonsense**, if only there is enough to read.

* Read as account data, the key of an instruction is another key, without its first three bytes and
  with three of what follows. It is the right one only if its bytes repeat every three bytes. At the
  end of the data, with less than three bytes to follow, the reader panics.
* Where an instruction has no key, that is read only if three zeros happen to follow. Otherwise the
  reader panics, or reads a key if there are 35 bytes to read it from.
* Read as instruction data, the key of an account has three zeros in front. It is the right one
  only for the System Program. What is left over begins with the last three bytes of the key, or
  with all the 35 bytes that an absent key has left.
-/
theorem coption_mixed :
    (∀ (p : Pubkey) rest,
      (rest.length < 3 → coptionPubkey (coptionIx [] (some p) ++ rest) = .panicked) ∧
      (3 ≤ rest.length →
        ∃ q, coptionPubkey (coptionIx [] (some p) ++ rest) = .ok (some q) ∧
          q.bytes = p.bytes.drop 3 ++ rest.take 3 ∧
          (q = p → ∀ i, i + 3 < 32 → p.bytes[i + 3]? = p.bytes[i]?))) ∧
    (∀ rest,
      (coptionPubkey (coptionIx [] none ++ rest) = .panicked ↔
        rest.take 3 ≠ [0, 0, 0] ∧ rest.length < 35) ∧
      (coptionPubkey (coptionIx [] none ++ rest) = .ok none ↔ rest.take 3 = [0, 0, 0]) ∧
      (rest.take 3 ≠ [0, 0, 0] → 35 ≤ rest.length →
        ∃ q, coptionPubkey (coptionIx [] none ++ rest) = .ok (some q))) ∧
    (∀ (p : Pubkey) (stale : Stale 32) rest,
      ∃ q, Wire.coption.parse (packOption Pubkey.bytes (some p) stale ++ rest)
          = some (some q, p.bytes.drop 29 ++ rest) ∧
        q.bytes = [0, 0, 0] ++ p.bytes.take 29 ∧ (q = p ↔ p = systemProgramId)) ∧
    ∀ (stale : Stale 32) rest, Wire.coption.parse (packOption Pubkey.bytes none stale ++ rest)
      = some (none, [0, 0, 0] ++ stale.1 ++ rest) := by
  refine ⟨?_, ?_, ?_, ?_⟩
  · intro p rest
    refine ⟨coptionPubkey_coptionIx_of_lt, ?_⟩
    intro hrest
    obtain ⟨q, hq, hbytes⟩ := @coptionPubkey_coptionIx rest p hrest
    refine ⟨q, hq, hbytes, ?_⟩
    rintro rfl i hi
    exact eq_of_period hbytes.symm (by rw [q.length_bytes]; exact hi)
  · intro rest
    rw [coptionPubkey_coptionIx_none]
    by_cases hzero : rest.take 3 = [0, 0, 0]
    · simp [hzero]
    · rw [if_neg hzero]
      by_cases hlen : 35 ≤ rest.length
      · have hkey : (window (coptionIx [] none ++ rest) 4 36).length = 32 :=
          length_window (by rw [length_coptionIx_none]; omega)
        rw [if_pos hlen, Pubkey.tryFrom_eq_some hkey]
        simp [hzero, hlen]
      · rw [if_neg hlen]
        simp [hzero, hlen]
        omega
  · intro p stale rest
    obtain ⟨q, hq, hbytes⟩ := @parse_packOption rest p stale
    refine ⟨q, hq, hbytes, ?_⟩
    constructor
    · rintro rfl
      refine Pubkey.bytes_inj.mp (List.ext_getElem? fun i => ?_)
      by_cases hi : i < 32
      · rw [eq_zero_of_shift hbytes.symm (by rw [q.length_bytes]; exact hi)]
        show some 0 = (List.replicate 32 0)[i]?
        rw [List.getElem?_replicate, if_pos hi]
      · rw [List.getElem?_eq_none (by rw [q.length_bytes]; omega),
          List.getElem?_eq_none (by rw [systemProgramId.length_bytes]; omega)]
    · rintro rfl
      exact Pubkey.bytes_inj.mp (hbytes.trans (by decide))
  · intro stale rest
    exact parse_packOption_none stale

end BootcampSolana.SplToken
