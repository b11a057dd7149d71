import BootcampSolana.Lib.Percent
import BootcampSolana.TransactionLifecycle.Message

/-!
# Links to the explorer

`explorer` and `urlencode` of `04-transaction-lifecycle/src/main.rs`. A cluster that is not known
by name is passed to the explorer as a parameter of the link. `urlencode` encodes the characters
of the URL one by one, by their low byte, where percent-encoding is a matter of bytes in UTF-8.

* `faithful_iff` — the encoding reads as the URL if and only if the URL is ASCII
* `urlencode_eq_iff` — which URLs have one encoding
* `urlencode_ascii` — what this means for the links
-/

namespace BootcampSolana.TransactionLifecycle

/-! ## The source -/

/-- A signature as it is displayed. -/
def displaySignature (sig : Signature) : String := String.ofList (Base58.encode sig.1)

/-- `s.contains(pat)`. -/
def contains (s pat : String) : Bool := pat.toList <:+: s.toList

def urlencodeChar (c : Char) : List Char :=
  if ('A' ≤ c && c ≤ 'Z') || ('a' ≤ c && c ≤ 'z') || ('0' ≤ c && c ≤ '9') || c == '-' || c == '_' ||
    c == '.' || c == '~' then [c]
  else Percent.triple c.toUInt8

def urlencode (s : String) : String := String.ofList (s.toList.flatMap urlencodeChar)

def explorer (url : String) (sig : Signature) : String :=
  let base := "https://explorer.solana.com/tx/" ++ displaySignature sig
  if contains url "devnet" then base ++ "?cluster=devnet"
  else if contains url "testnet" then base ++ "?cluster=testnet"
  else if contains url "mainnet" then base
  else base ++ "?cluster=custom&customUrl=" ++ urlencode url

/-! ## What the encoding reads as -/

/-- The text is percent-encoded, and what it encodes is `s` in UTF-8. -/
structure Faithful (s : String) : Prop where
  wellFormed : (Percent.decode (urlencode s).toList).isSome
  decodes : Percent.decodeText (urlencode s).toList = some s

def Ascii (s : String) : Prop := ∀ c ∈ s.toList, c.toNat < 128

instance (s : String) : Decidable (Ascii s) :=
  List.decidableBAll (fun c : Char => c.toNat < 128) s.toList

/-- One character, or two of one low byte that are both written as it. -/
def Confused (c d : Char) : Prop :=
  c = d ∨ Percent.unreserved c = false ∧ Percent.unreserved d = false ∧ c.toUInt8 = d.toUInt8

/-- A URL that names none of the public clusters. -/
structure Custom (url : String) : Prop where
  devnet : contains url "devnet" = false
  testnet : contains url "testnet" = false
  mainnet : contains url "mainnet" = false

variable {s t url url' : String} {sig : Signature} {c d : Char} {l rest : List Char}

theorem urlencodeChar_eq (c : Char) :
    urlencodeChar c = if Percent.unreserved c then [c] else Percent.triple c.toUInt8 := rfl

theorem urlencodeChar_ne_nil (c : Char) : urlencodeChar c ≠ [] := by
  rw [urlencodeChar_eq]
  split
  · exact List.cons_ne_nil c []
  · exact List.cons_ne_nil _ _

@[simp] theorem toList_urlencode (s : String) :
    (urlencode s).toList = s.toList.flatMap urlencodeChar := String.toList_ofList

theorem decode_urlencodeChar (c : Char) (rest : List Char) :
    Percent.decode (urlencodeChar c ++ rest) = (Percent.decode rest).map (c.toUInt8 :: ·) := by
  rw [urlencodeChar_eq]
  split
  · next h => exact Percent.decode_unreserved h
  · exact Percent.decode_triple c.toUInt8

/-- The text stands for the low bytes of the characters. -/
theorem decode_urlencode (l : List Char) :
    Percent.decode (l.flatMap urlencodeChar) = some (l.map Char.toUInt8) := by
  induction l with
  | nil => rfl
  | cons c l ih =>
    rw [List.flatMap_cons, decode_urlencodeChar, ih]
    rfl

/-- **The encoding is faithful for ASCII**, and for nothing else. -/
theorem faithful_iff : Faithful s ↔ Ascii s := by
  have hdecode := decode_urlencode s.toList
  have htext := @Percent.decodeText_eq_some_iff _ _ s hdecode
  rw [Percent.bytes_eq_utf8_iff] at htext
  constructor
  · intro h
    have hdecodes := h.decodes
    rw [toList_urlencode] at hdecodes
    exact htext.mp hdecodes
  · intro h
    refine ⟨?_, ?_⟩
    · rw [toList_urlencode, hdecode]
      rfl
    · rw [toList_urlencode]
      exact htext.mpr h

/-- What two URLs encode to tells them apart, if they are ASCII. -/
theorem urlencode_inj (hs : Ascii s) (ht : Ascii t) (h : urlencode s = urlencode t) : s = t := by
  have hs' := (faithful_iff.mpr hs).decodes
  rw [h, (faithful_iff.mpr ht).decodes] at hs'
  exact (Option.some.inj hs').symm

/-- The encoding of a character tells where it ends. -/
theorem urlencodeChar_append_iff {rest' : List Char} :
    urlencodeChar c ++ rest = urlencodeChar d ++ rest' ↔ Confused c d ∧ rest = rest' := by
  unfold Confused
  have hpercent : Percent.unreserved '%' = false := by decide
  rw [urlencodeChar_eq, urlencodeChar_eq]
  cases hc : Percent.unreserved c with
  | true =>
    cases hd : Percent.unreserved d with
    | true => simp
    | false =>
      have hne : c ≠ '%' := by
        rintro rfl
        simp [hpercent] at hc
      have hcd : c ≠ d := by
        rintro rfl
        simp [hc] at hd
      simp [Percent.triple, hne, hcd]
  | false =>
    cases hd : Percent.unreserved d with
    | true =>
      have hne : '%' ≠ d := by
        rintro rfl
        simp [hpercent] at hd
      have hcd : c ≠ d := by
        rintro rfl
        simp [hc] at hd
      simp [Percent.triple, hne, hcd]
    | false =>
      simp only [Bool.false_eq_true, if_false, true_and]
      constructor
      · intro h
        obtain ⟨htriple, hrest⟩ := List.append_inj h rfl
        exact ⟨Or.inr (Percent.triple_inj htriple), hrest⟩
      · rintro ⟨rfl | hbyte, rfl⟩
        · rfl
        · rw [hbyte]

theorem flatMap_urlencodeChar_eq_iff : ∀ {l l' : List Char},
    l.flatMap urlencodeChar = l'.flatMap urlencodeChar ↔ List.Forall₂ Confused l l'
  | [], [] => by simp
  | [], d :: l' => by simp [urlencodeChar_ne_nil]
  | c :: l, [] => by simp [urlencodeChar_ne_nil]
  | c :: l, d :: l' => by
    rw [List.flatMap_cons, List.flatMap_cons, urlencodeChar_append_iff, List.forall₂_cons,
      flatMap_urlencodeChar_eq_iff]

/-- **Two URLs have one encoding** if their characters are confused, place by place. -/
theorem urlencode_eq_iff :
    urlencode s = urlencode t ↔ List.Forall₂ Confused s.toList t.toList := by
  rw [← flatMap_urlencodeChar_eq_iff, urlencode, urlencode, String.ofList_inj]

theorem explorer_custom (h : Custom url) : explorer url sig =
    "https://explorer.solana.com/tx/" ++ displaySignature sig ++ "?cluster=custom&customUrl=" ++
      urlencode url := by
  unfold explorer
  simp [h.devnet, h.testnet, h.mainnet]

/-! ## Other characters -/

theorem urlencodeChar_of_not_ascii (hc : 128 ≤ c.toNat) :
    urlencodeChar c = Percent.triple c.toUInt8 := by
  have hplain : Percent.unreserved c ≠ true := by
    intro h
    have hlt := Percent.unreserved_ascii h
    omega
  rw [urlencodeChar_eq, if_neg hplain]

/-- The code points from 256 to 767 have every low byte twice. -/
theorem exists_char (b : UInt8) (page : Nat) (hpage : page = 1 ∨ page = 2) :
    ∃ d : Char, d.toNat = 256 * page + b.toNat ∧ d.toUInt8 = b := by
  have hb : b.toNat < 256 := b.toNat_lt
  have hvalid : (256 * page + b.toNat).isValidChar := by
    unfold Nat.isValidChar
    omega
  have hd : (Char.ofNat (256 * page + b.toNat)).toNat = 256 * page + b.toNat := by
    rw [Char.ofNat, dif_pos hvalid]
    rfl
  refine ⟨Char.ofNat (256 * page + b.toNat), hd, UInt8.toNat_inj.mp ?_⟩
  have hbyte : (Char.ofNat (256 * page + b.toNat)).toUInt8.toNat =
      (Char.ofNat (256 * page + b.toNat)).toNat % 256 := rfl
  rw [hbyte, hd]
  omega

theorem exists_other (c : Char) : ∃ d, d ≠ c ∧ 128 ≤ d.toNat ∧ d.toUInt8 = c.toUInt8 := by
  obtain ⟨d, hd, hdbyte⟩ := exists_char c.toUInt8 1 (Or.inl rfl)
  obtain ⟨e, he, hebyte⟩ := exists_char c.toUInt8 2 (Or.inr rfl)
  by_cases hdc : d = c
  · refine ⟨e, ?_, by omega, hebyte⟩
    rintro rfl
    rw [hdc] at hd
    omega
  · exact ⟨d, hdc, by omega, hdbyte⟩

/-- **A URL that is not ASCII shares its encoding** with another one. -/
theorem exists_same_urlencode (h : ¬ Ascii s) : ∃ t, t ≠ s ∧ urlencode t = urlencode s := by
  have hnot : ∃ c ∈ s.toList, 128 ≤ c.toNat := by
    by_contra hall
    refine h fun c hc => ?_
    by_contra hlt
    exact hall ⟨c, hc, Nat.le_of_not_lt hlt⟩
  obtain ⟨c, hc, hle⟩ := hnot
  obtain ⟨d, hne, hd, hbyte⟩ := exists_other c
  obtain ⟨before, after, hsplit⟩ := List.append_of_mem hc
  have hsame : urlencodeChar d = urlencodeChar c := by
    rw [urlencodeChar_of_not_ascii hd, urlencodeChar_of_not_ascii hle, hbyte]
  refine ⟨String.ofList (before ++ d :: after), ?_, ?_⟩
  · intro heq
    have hlist := congrArg String.toList heq
    rw [String.toList_ofList, hsplit, List.append_cancel_left_eq, List.cons.injEq] at hlist
    exact hne hlist.1
  · unfold urlencode
    rw [String.toList_ofList, hsplit, List.flatMap_append, List.flatMap_append, List.flatMap_cons,
      List.flatMap_cons, hsame]

/--
**`urlencode` is faithful on ASCII.** What it writes is always percent-encoded. It reads as the
URL if and only if the URL is ASCII, and then its link is that of no other ASCII URL; the
encoding of any other URL is that of some other URL as well. Two URLs have one link just if every
character of the one is confused with that of the other.
-/
theorem urlencode_ascii (url : String) :
    (Percent.decode (urlencode url).toList).isSome ∧
    (Faithful url ↔ Ascii url) ∧
    (∀ url' sig, Custom url → Custom url' → Ascii url → Ascii url' →
      explorer url sig = explorer url' sig → url = url') ∧
    (¬ Ascii url → ∃ url', url' ≠ url ∧ urlencode url' = urlencode url) ∧
    ∀ url' sig, Custom url → Custom url' →
      (explorer url sig = explorer url' sig ↔
        List.Forall₂ Confused url.toList url'.toList) := by
  refine ⟨?_, faithful_iff, ?_, exists_same_urlencode, ?_⟩
  · rw [toList_urlencode, decode_urlencode]
    rfl
  · intro url' sig hurl hurl' hascii hascii' heq
    rw [explorer_custom hurl, explorer_custom hurl', String.append_right_inj] at heq
    exact urlencode_inj hascii hascii' heq
  · intro url' sig hurl hurl'
    rw [explorer_custom hurl, explorer_custom hurl', String.append_right_inj, urlencode_eq_iff]

/-- The link of the README. -/
theorem urlencode_ascii_local : Faithful "http://127.0.0.1:8899" :=
  (urlencode_ascii "http://127.0.0.1:8899").2.1.mpr (by decide)

/-- What `ü` is encoded as is not UTF-8, and `ł` and `ɂ` are encoded as the same. -/
theorem urlencode_not_faithful :
    ¬ Faithful "http://müller:8899" ∧
    urlencode "http://ł:8899" = urlencode "http://ɂ:8899" := by
  refine ⟨?_, by decide⟩
  rw [faithful_iff]
  decide

end BootcampSolana.TransactionLifecycle
