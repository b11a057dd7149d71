import BootcampSolana.Console
import BootcampSolana.Inspector.Dump
import BootcampSolana.Inspector.Rent
import BootcampSolana.Lib.Base64
import BootcampSolana.Lib.Binary64
import BootcampSolana.Lib.Decimal

/-!
# The account inspector

`main` of `02-account-inspector/inspect-account.py`. It asks the `solana` command for an account and
for two sysvars, whose data it gets in base 64, takes the sysvars apart with `struct.unpack`, and
prints what it has found with the rent math of `Rent`.

* `lamports_exact` — how far the balance in SOL can be relied on
* `main_report` — what is printed of what a cluster stores
-/

namespace BootcampSolana.Inspector

/-! ## The source -/

def SYSVAR_RENT : String := "SysvarRent111111111111111111111111111111111"

def SYSVAR_CLOCK : String := "SysvarC1ock11111111111111111111111111111111"

def KNOWN : List (String × String) :=
  [("11111111111111111111111111111111", "System Program"),
    ("TokenkegQfeZyiNwAJbNbGKPFXCWuBvf9Ss623VQ5DA", "SPL Token"),
    ("TokenzQdBNbLqP5VEhdkAS6EPFLC1PHnBqCXEpPxuEb", "SPL Token-2022"),
    ("ATokenGPvbdGVxr1b2hvZbsiqW5xWH25efTNsLJA8knL", "Associated Token Account"),
    ("BPFLoaderUpgradeab1e11111111111111111111111", "BPF Upgradeable Loader"),
    ("Sysvar1111111111111111111111111111111111111", "Sysvar"),
    ("Stake11111111111111111111111111111111111111", "Stake Program"),
    ("Vote111111111111111111111111111111111111111", "Vote Program"),
    ("ComputeBudget111111111111111111111111111111", "Compute Budget")]

/-- What can end the script early. -/
inductive PyError where
  /-- `sys.exit`, when the command has failed. -/
  | exit
  /-- The text of `b64decode` is not ASCII. -/
  | ascii
  /-- `binascii.Error`. -/
  | base64
  /-- `struct.error`. -/
  | struct
  /-- `int` of an infinity. -/
  | overflow
  /-- `int` of what is no number. -/
  | nan

/-- The `data` of an account: a list that starts with the text, or the text alone. -/
inductive JsonData where
  | list (first : String) (rest : List String)
  | text (s : String)

def JsonData.first : JsonData → String
  | .list first _ => first
  | .text s => s

structure JsonAccount where
  lamports : UInt64
  data : JsonData
  owner : String
  executable : Bool
  rentEpoch : UInt64
  space : UInt64

/-- The answers of `sol(url, "account", key)` and `sol(url, "rent", n)`, if the command succeeds. -/
structure Cli where
  account : String → Option JsonAccount
  rent : ℕ → Option UInt64

/-- `base64.b64decode`. -/
def b64decode (s : String) : Outcome PyError Bytes :=
  if s.toList.all fun c => c.toNat < 128 then .okOr (Base64.decode s.toList) .base64
  else .err .ascii

def dataOf (acct : JsonAccount) : Outcome PyError Bytes := b64decode acct.data.first

/-- `f"{n/1e9:.9f}"`. The division and its operand are rounded, and then the text is. -/
def sol (n : ℕ) : List Char :=
  Decimal.fixed 9
    (Binary64.halfEven (Binary64.nearest (Binary64.nearest n / 10 ^ 9) * 10 ^ 9)).toNat

def lamports (n : ℕ) : String :=
  String.ofList (Decimal.grouped n ++ " lamports (".toList ++ sol n ++ " SOL)".toList)

/-- `"<QdB"`: the threshold as its 64 bits. -/
structure RentSysvar where
  lpby : UInt64
  threshold : UInt64
  burn : UInt8
  deriving DecidableEq

/-- `"<QqQQq"`. -/
structure ClockSysvar where
  slot : UInt64
  epochStartTs : Int64
  epoch : UInt64
  leaderEpoch : UInt64
  unixTs : Int64
  deriving DecidableEq

/-- `struct.unpack("<QdB", raw[:17])`. -/
def unpackRent (raw : Bytes) : Outcome PyError RentSysvar :=
  let b := raw.take 17
  if b.length = 17 then
    .ok { lpby := U64.fromLeBytes (window b 0 8), threshold := U64.fromLeBytes (window b 8 16),
          burn := b.getD 16 0 }
  else .err .struct

/-- `struct.unpack("<QqQQq", raw[:40])`. -/
def unpackClock (raw : Bytes) : Outcome PyError ClockSysvar :=
  let b := raw.take 40
  if b.length = 40 then
    .ok { slot := U64.fromLeBytes (window b 0 8)
          epochStartTs := (U64.fromLeBytes (window b 8 16)).toInt64
          epoch := U64.fromLeBytes (window b 16 24)
          leaderEpoch := U64.fromLeBytes (window b 24 32)
          unixTs := (U64.fromLeBytes (window b 32 40)).toInt64 }
  else .err .struct

inductive ReportLine where
  | account (pubkey : String)
  | lamports (text : String)
  /-- The owner, and what it is known as. -/
  | owner (owner : String) (known : Option String)
  | ownerNote
  | executable (executable : Bool) (note : String)
  /-- The epoch that follows is the current one, unless the sentinel says that there is none. -/
  | rentEpoch (re : ℕ) (current : Option UInt64)
  | space (space : ℕ)
  | dump (line : DumpLine)
  | clusterHeading
  | cluster (epoch slot leaderEpoch : UInt64)
  | rentHeading
  | lpby (lpby : UInt64)
  | threshold (bits : UInt64)
  | burn (burn : UInt8)
  | mathHeading
  | math (line : RentLine)
  deriving DecidableEq

open Printed

def printAll (lines : List ReportLine) : Printed ReportLine PyError Unit := ⟨lines, .ok ()⟩

/-- `int(x)`. -/
def int : Binary64.Value → Outcome PyError ℤ
  | .number x => .ok (truncate x)
  | .infinity _ => .err .overflow
  | .nan => .err .nan

/-- `(STORAGE_OVERHEAD + space) * per_byte`. -/
def product (rent : RentSysvar) (space : ℕ) : Binary64.Value :=
  let perByte := (Binary64.round rent.lpby.toNat).mul (Binary64.ofBits rent.threshold.toNat)
  (Binary64.round (STORAGE_OVERHEAD + space : ℕ)).mul perByte

def main (cli : Cli) (pubkey : String) : Printed ReportLine PyError Unit := do
  let acct ← lift (.okOr (cli.account pubkey) .exit)
  let data ← lift (dataOf acct)
  let space := acct.space.toNat
  -- the cluster's live parameters
  let rentAcct ← lift (.okOr (cli.account SYSVAR_RENT) .exit)
  let rentRaw ← lift (dataOf rentAcct)
  let rent ← lift (unpackRent rentRaw)
  let clockAcct ← lift (.okOr (cli.account SYSVAR_CLOCK) .exit)
  let clockRaw ← lift (dataOf clockAcct)
  let clock ← lift (unpackClock clockRaw)
  print (.account pubkey)
  print (.lamports (lamports acct.lamports.toNat))
  print (.owner acct.owner (KNOWN.lookup acct.owner))
  print .ownerNote
  print (.executable acct.executable (if acct.executable then "   <- this account is code" else ""))
  let re := acct.rentEpoch.toNat
  print (.rentEpoch re (if re = U64_MAX then none else some clock.epoch))
  print (.space space)
  printAll ((dump data).map .dump)
  print .clusterHeading
  print (.cluster clock.epoch clock.slot clock.leaderEpoch)
  print .rentHeading
  print (.lpby rent.lpby)
  print (.threshold rent.threshold)
  print (.burn rent.burn)
  -- the math
  let minimum ← lift (int (product rent space))
  print .mathHeading
  print (.math (.product STORAGE_OVERHEAD space rent.lpby.toNat rent.threshold minimum))
  let rpcMin ← lift (.okOr (cli.rent space) .exit)
  print (.math (rpcCheck (fun _ => rpcMin.toNat) minimum space))
  let zero ← lift (.okOr (cli.rent 0) .exit)
  let one ← lift (.okOr (cli.rent 1) .exit)
  print (.math (overheadLine Binary64.nearest fun n => if n = 0 then zero.toNat else one.toNat))
  printAll ((balanceCheck minimum acct.lamports.toNat re).map .math)

/-! ## Balances -/

/-- Below eight million SOL, half an ulp is less than half a lamport. -/
theorem abs_nearest_mul_sub_lt {n : ℕ} (h : n < 2 ^ 23 * 10 ^ 9) :
    |Binary64.nearest ((n : ℚ) / 10 ^ 9) * 10 ^ 9 - n| < 1 / 2 := by
  by_cases hn : n = 0
  · subst hn
    simp [Binary64.nearest_zero]
  have hpos : (0 : ℚ) < n / 10 ^ 9 := by positivity
  have hlt : |(n : ℚ) / 10 ^ 9| < 2 ^ (23 : ℤ) := by
    rw [abs_of_pos hpos, div_lt_iff₀ (by norm_num)]
    exact_mod_cast h
  have hulp := Binary64.ulp_le hpos.ne' hlt (by norm_num)
  have hoff := Binary64.abs_nearest_sub_le ((n : ℚ) / 10 ^ 9)
  have hscale : Binary64.nearest ((n : ℚ) / 10 ^ 9) * 10 ^ 9 - n =
      (Binary64.nearest ((n : ℚ) / 10 ^ 9) - n / 10 ^ 9) * 10 ^ 9 := by
    field_simp
  rw [hscale, abs_mul, abs_of_pos (by norm_num : (0 : ℚ) < 10 ^ 9)]
  norm_num at hulp hoff ⊢
  linarith

theorem sol_eq {n : ℕ} (h : n ≤ 2 ^ 23 * 10 ^ 9) : sol n = Decimal.fixed 9 n := by
  have hfloat : Binary64.nearest (n : ℚ) = n := by
    have hint := @Binary64.nearest_intCast n
      (by rw [abs_of_nonneg (by positivity)]; norm_num; omega)
    exact_mod_cast hint
  have hround : Binary64.halfEven (Binary64.nearest ((n : ℚ) / 10 ^ 9) * 10 ^ 9) = (n : ℤ) := by
    rcases Nat.lt_or_eq_of_le h with h | rfl
    · exact Binary64.halfEven_eq (by exact_mod_cast abs_nearest_mul_sub_lt h)
    · decide +kernel
  rw [sol, hfloat, hround, Int.toNat_natCast]

/--
**The balance in SOL** is exact up to 8388608 SOL. From the next lamport on it need not be, because
one lamport is less than the distance of two floating-point numbers.
-/
theorem lamports_exact (N : ℕ) :
    (∀ n ≤ N, Decimal.value (sol n) = n / 10 ^ 9) ↔ N ≤ 8388608 * 10 ^ 9 := by
  constructor
  · intro h
    by_contra hlt
    have hoff := h (8388608 * 10 ^ 9 + 1) (by omega)
    have hsol : sol (8388608 * 10 ^ 9 + 1) = Decimal.fixed 9 (8388608 * 10 ^ 9 + 2) := by
      decide +kernel
    rw [hsol, Decimal.value_fixed (by decide)] at hoff
    norm_num at hoff
  · intro h n hn
    rw [sol_eq (by omega), Decimal.value_fixed (by decide)]

/-! ## What a cluster stores -/

/-- The text is the data in base 64, perhaps with line breaks in it. -/
structure JsonData.Carries (d : JsonData) (data : Bytes) : Prop where
  ascii : ∀ c ∈ d.first.toList, c.toNat < 128
  text : d.first.toList.filter Base64.counts = Base64.encode data

/-- The data in base 64, as the command prints it. -/
theorem JsonData.carries_encode {d : JsonData} {data : Bytes}
    (h : d.first = String.ofList (Base64.encode data)) : d.Carries data where
  ascii := by
    intro c hc
    rw [h, String.toList_ofList] at hc
    exact Base64.ascii_of_counts (Base64.counts_encode hc)
  text := by
    rw [h, String.toList_ofList, List.filter_eq_self]
    exact fun c hc => Base64.counts_encode hc

def RentSysvar.pack (r : RentSysvar) : Bytes :=
  [U64.toLeBytes r.lpby, U64.toLeBytes r.threshold, [r.burn]].flatten

def ClockSysvar.pack (c : ClockSysvar) : Bytes :=
  [U64.toLeBytes c.slot, U64.toLeBytes c.epochStartTs.toUInt64, U64.toLeBytes c.epoch,
    U64.toLeBytes c.leaderEpoch, U64.toLeBytes c.unixTs.toUInt64].flatten

variable {acct : JsonAccount} {data more : Bytes}

theorem dataOf_eq (h : acct.data.Carries data) : dataOf acct = .ok data := by
  have hall : (acct.data.first.toList.all fun c => c.toNat < 128) = true := by
    simpa using h.ascii
  rw [dataOf, b64decode, if_pos hall, Base64.decode_filter h.text]
  rfl

theorem unpackRent_pack (r : RentSysvar) (more : Bytes) : unpackRent (r.pack ++ more) = .ok r := by
  have hlen : r.pack.length = 17 := by simp [RentSysvar.pack]
  have htake : (r.pack ++ more).take 17 = r.pack := List.take_left' hlen
  have hlpby : window r.pack 0 8 = U64.toLeBytes r.lpby :=
    window_field [] _ _ rfl (by simp)
  have hthreshold : window r.pack 8 16 = U64.toLeBytes r.threshold :=
    window_field [_] _ _ (by simp) (by simp)
  have hburn : window r.pack 16 17 = [r.burn] := window_field [_, _] _ _ (by simp) (by simp)
  simp only [unpackRent, htake, hlen, if_true, hlpby, hthreshold, getD_of_window hburn,
    U64.fromLeBytes_toLeBytes]

theorem unpackClock_pack (c : ClockSysvar) (more : Bytes) :
    unpackClock (c.pack ++ more) = .ok c := by
  have hlen : c.pack.length = 40 := by simp [ClockSysvar.pack]
  have htake : (c.pack ++ more).take 40 = c.pack := List.take_left' hlen
  have h₁ : window c.pack 0 8 = U64.toLeBytes c.slot := window_field [] _ _ rfl (by simp)
  have h₂ : window c.pack 8 16 = U64.toLeBytes c.epochStartTs.toUInt64 :=
    window_field [_] _ _ (by simp) (by simp)
  have h₃ : window c.pack 16 24 = U64.toLeBytes c.epoch :=
    window_field [_, _] _ _ (by simp) (by simp)
  have h₄ : window c.pack 24 32 = U64.toLeBytes c.leaderEpoch :=
    window_field [_, _, _] _ _ (by simp) (by simp)
  have h₅ : window c.pack 32 40 = U64.toLeBytes c.unixTs.toUInt64 :=
    window_field [_, _, _, _] _ [] (by simp) (by simp)
  simp only [unpackClock, htake, hlen, if_true, h₁, h₂, h₃, h₄, h₅, U64.fromLeBytes_toLeBytes,
    Int64.toInt64_toUInt64]

/--
The command answers with the account, with the rent `r`, with the clock `c`, and with `rent n` for
an account of `n` bytes.
-/
structure Stores (cli : Cli) (pubkey : String) (acct : JsonAccount) (data : Bytes)
    (r : RentSysvar) (c : ClockSysvar) (rent : ℕ → UInt64) : Prop where
  account : cli.account pubkey = some acct
  data : acct.data.Carries data
  rentSysvar : ∃ a more, cli.account SYSVAR_RENT = some a ∧ a.data.Carries (r.pack ++ more)
  clock : ∃ a more, cli.account SYSVAR_CLOCK = some a ∧ a.data.Carries (c.pack ++ more)
  rent : ∀ n, n = acct.space.toNat ∨ n = 0 ∨ n = 1 → cli.rent n = some (rent n)

/-- What is printed of an account, of a clock and of the rent parameters. -/
def report (pubkey : String) (acct : JsonAccount) (data : Bytes) (r : RentSysvar)
    (c : ClockSysvar) : List ReportLine :=
  [.account pubkey, .lamports (lamports acct.lamports.toNat),
    .owner acct.owner (KNOWN.lookup acct.owner), .ownerNote,
    .executable acct.executable (if acct.executable then "   <- this account is code" else ""),
    .rentEpoch acct.rentEpoch.toNat
      (if acct.rentEpoch.toNat = U64_MAX then none else some c.epoch),
    .space acct.space.toNat] ++
  (dump data).map .dump ++
  [.clusterHeading, .cluster c.epoch c.slot c.leaderEpoch, .rentHeading, .lpby r.lpby,
    .threshold r.threshold, .burn r.burn]

/-- What is printed of the rent math, once there is a minimum. -/
def rentMath (acct : JsonAccount) (r : RentSysvar) (rent : ℕ → UInt64) (minimum : ℤ) :
    List RentLine :=
  [.product STORAGE_OVERHEAD acct.space.toNat r.lpby.toNat r.threshold minimum,
    rpcCheck (fun n => (rent n).toNat) minimum acct.space.toNat,
    overheadLine Binary64.nearest fun n => (rent n).toNat] ++
  balanceCheck minimum acct.lamports.toNat acct.rentEpoch.toNat

/-- The verdict on a balance, and the only one. -/
structure Judged (lines : List ReportLine) (bal minimum : ℤ) : Prop where
  exempt : ∀ b m surplus, .math (.exempt b m surplus) ∈ lines ↔
    minimum ≤ bal ∧ b = bal ∧ m = minimum ∧ surplus = bal - minimum
  notExempt : ∀ b m short, .math (.notExempt b m short) ∈ lines ↔
    bal < minimum ∧ b = bal ∧ m = minimum ∧ short = minimum - bal

/-- The factors and the products of the rent math are numbers of 53 bits. -/
structure NoRounding (lpby space : ℕ) (t : ℚ) : Prop where
  factor : Binary64.round lpby = .number lpby
  perByte : Binary64.round (lpby * t) = .number (lpby * t)
  size : Binary64.round (STORAGE_OVERHEAD + space : ℕ) = .number (STORAGE_OVERHEAD + space : ℕ)
  minimum : Binary64.round ((STORAGE_OVERHEAD + space : ℕ) * (lpby * t)) =
    .number ((STORAGE_OVERHEAD + space : ℕ) * (lpby * t))

section Main

variable {cli : Cli} {pubkey : String} {r : RentSysvar} {c : ClockSysvar} {rent : ℕ → UInt64}
  {lpby space : ℕ} {t x : ℚ} {minimum : ℤ}

/-- A whole rate is not rounded with any minimum of 53 bits. -/
theorem noRounding_of_rate {m : ℕ} (hrate : lpby * t = m) (hlpby : lpby < 2 ^ 53)
    (hspace : STORAGE_OVERHEAD + space < 2 ^ 53)
    (hminimum : (STORAGE_OVERHEAD + space) * m < 2 ^ 53) : NoRounding lpby space t := by
  have hround : ∀ n : ℕ, n < 2 ^ 53 → Binary64.round n = .number n := by
    intro n hn
    exact_mod_cast @Binary64.round_intCast n (by rw [Nat.abs_cast]; exact_mod_cast hn)
  have hpos : 0 < STORAGE_OVERHEAD + space := Nat.add_pos_left (by decide) space
  have hm : m ≤ (STORAGE_OVERHEAD + space) * m := Nat.le_mul_of_pos_left m hpos
  refine ⟨hround lpby hlpby, ?_, hround _ hspace, ?_⟩
  · rw [hrate]
    exact hround m (by omega)
  · rw [hrate]
    exact_mod_cast hround _ hminimum

theorem product_eq (ht : Binary64.ofBits r.threshold.toNat = .number t)
    (h : NoRounding r.lpby.toNat space t) :
    product r space = .number ((STORAGE_OVERHEAD + space : ℕ) * (r.lpby.toNat * t)) := by
  unfold product
  rw [ht, h.factor, Binary64.Value.mul, h.perByte, h.size, Binary64.Value.mul, h.minimum]

/-- The script up to the minimum, and from there on. -/
theorem main_eq (h : Stores cli pubkey acct data r c rent) : main cli pubkey =
    match product r acct.space.toNat with
    | .number x =>
      ⟨report pubkey acct data r c ++
        .mathHeading :: (rentMath acct r rent (truncate x)).map .math, .ok ()⟩
    | .infinity _ => ⟨report pubkey acct data r c, .err .overflow⟩
    | .nan => ⟨report pubkey acct data r c, .err .nan⟩ := by
  obtain ⟨rentAcct, more, hrentAcct, hrentRaw⟩ := h.rentSysvar
  obtain ⟨clockAcct, more', hclockAcct, hclockRaw⟩ := h.clock
  unfold main
  simp only [h.account, dataOf_eq h.data, hrentAcct, dataOf_eq hrentRaw, unpackRent_pack,
    hclockAcct, dataOf_eq hclockRaw, unpackClock_pack, h.rent _ (Or.inl rfl),
    h.rent 0 (Or.inr (Or.inl rfl)), h.rent 1 (Or.inr (Or.inr rfl)), Outcome.okOr, lift_ok_bind,
    print_bind, printAll, Printed.bind_ok]
  cases product r acct.space.toNat with
  | number x => simp [int, report, rentMath, rpcCheck, overheadLine]
  | infinity s => simp [int, report]
  | nan => simp [int, report]

variable {lines : List ReportLine} {line : RentLine} {bal : ℤ}

/-- Where the lines of the rent math are. -/
theorem math_mem_lines (h : Stores cli pubkey acct data r c rent)
    (hx : product r acct.space.toNat = .number x) :
    .math line ∈ (main cli pubkey).lines ↔ line ∈ rentMath acct r rent (truncate x) := by
  rw [main_eq h, hx]
  simp [report]

theorem judged_main (h : Stores cli pubkey acct data r c rent)
    (hx : product r acct.space.toNat = .number x) :
    Judged (main cli pubkey).lines acct.lamports.toNat (truncate x) := by
  constructor
  · intro b m surplus
    rw [math_mem_lines h hx]
    simp only [rentMath, balanceCheck, rpcCheck, overheadLine]
    split_ifs <;> simp_all
  · intro b m short
    rw [math_mem_lines h hx]
    simp only [rentMath, balanceCheck, rpcCheck, overheadLine]
    split_ifs <;> simp_all

/-- The line of the first cross-check, and that of the second. -/
theorem rpc_mem_lines (h : Stores cli pubkey acct data r c rent)
    (hx : product r acct.space.toNat = .number x) :
    (∃ m, .math (.rpc "OK " acct.space.toNat m) ∈ (main cli pubkey).lines) ↔
      ((rent acct.space.toNat).toNat : ℤ) = truncate x := by
  simp only [math_mem_lines h hx, rentMath, balanceCheck, rpcCheck, overheadLine]
  split_ifs <;> simp_all

theorem overhead_mem_lines (h : Stores cli pubkey acct data r c rent)
    (hx : product r acct.space.toNat = .number x) {ok : String} :
    (∃ derived, .math (.overhead ok derived) ∈ (main cli pubkey).lines) ↔
      ∃ derived, overheadLine Binary64.nearest (fun n => (rent n).toNat) =
        .overhead ok derived := by
  have hmem : ∀ derived, .math (.overhead ok derived) ∈ (main cli pubkey).lines ↔
      overheadLine Binary64.nearest (fun n => (rent n).toNat) = .overhead ok derived := by
    intro derived
    rw [math_mem_lines h hx, rentMath, balanceCheck]
    split_ifs <;> simp [rpcCheck, eq_comm]
  simp only [hmem]

/--
**What is printed of what a cluster stores.** Whatever the two sysvars and the account are, in
either shape of the answer and with any line breaks in it, their fields are printed. Then the script
fails if the minimum is infinite or no number. Otherwise it ends well and calls the account exempt
with a balance of the minimum or more, the surplus or the shortfall is exact, and the second
cross-check is the one of exact arithmetic unless a byte costs nine tenths of a SOL. When there is
nothing to round, the minimum is that of a cluster that computes its rent from the sysvar, and
the first cross-check tells whether this is one.
-/
theorem main_report (h : Stores cli pubkey acct data r c rent) :
    (∃ math, (main cli pubkey).lines = report pubkey acct data r c ++ math) ∧
    (∀ s, product r acct.space.toNat = .infinity s →
      main cli pubkey = ⟨report pubkey acct data r c, .err .overflow⟩) ∧
    (product r acct.space.toNat = .nan →
      main cli pubkey = ⟨report pubkey acct data r c, .err .nan⟩) ∧
    (∀ x, product r acct.space.toNat = .number x →
      (main cli pubkey).result = .ok () ∧
      Judged (main cli pubkey).lines acct.lamports.toNat (truncate x) ∧
      (|((rent 1).toNat : ℤ) - (rent 0).toNat| ≤ 9 * 10 ^ 8 →
        ((∃ derived, .math (.overhead "OK " derived) ∈ (main cli pubkey).lines) ↔
          Passes fun n => (rent n).toNat))) ∧
    ∀ t, Binary64.ofBits r.threshold.toNat = .number t → 0 ≤ t →
      NoRounding r.lpby.toNat acct.space.toNat t →
      (main cli pubkey).result = .ok () ∧
      Judged (main cli pubkey).lines acct.lamports.toNat
        (clusterRent STORAGE_OVERHEAD (r.lpby.toNat * t) acct.space.toNat) ∧
      ((∃ m, .math (.rpc "OK " acct.space.toNat m) ∈ (main cli pubkey).lines) ↔
        ((rent acct.space.toNat).toNat : ℤ) =
          clusterRent STORAGE_OVERHEAD (r.lpby.toNat * t) acct.space.toNat) := by
  have hnumber : ∀ x, product r acct.space.toNat = .number x →
      (main cli pubkey).result = .ok () := by
    intro x hx
    rw [main_eq h, hx]
  refine ⟨?_, ?_, ?_, ?_, ?_⟩
  · rw [main_eq h]
    cases product r acct.space.toNat with
    | number x => exact ⟨_, rfl⟩
    | infinity s => exact ⟨[], (List.append_nil _).symm⟩
    | nan => exact ⟨[], (List.append_nil _).symm⟩
  · intro s hs
    rw [main_eq h, hs]
  · intro hnan
    rw [main_eq h, hnan]
  · intro x hx
    refine ⟨hnumber x hx, judged_main h hx, ?_⟩
    intro hrate
    rw [overhead_mem_lines h hx]
    exact passes_rounded hrate
  · intro t ht hnonneg hround
    have hx := product_eq ht hround
    have hrate : 0 ≤ (r.lpby.toNat : ℚ) * t := mul_nonneg (Nat.cast_nonneg _) hnonneg
    have hminimum := @truncate_clusterRent acct.space.toNat _ hrate
    refine ⟨hnumber _ hx, ?_, ?_⟩
    · have hjudged := judged_main h hx
      rwa [hminimum] at hjudged
    · rw [rpc_mem_lines h hx, hminimum]

end Main

/-! ## An account on mainnet -/

def mainnetRent : RentSysvar where
  lpby := 3480
  threshold := 0x4000000000000000
  burn := 50

def sampleClock : ClockSysvar where
  slot := 312000000
  epochStartTs := 1736000000
  epoch := 722
  leaderEpoch := 723
  unixTs := 1736100000

def serving (data : Bytes) : JsonAccount where
  lamports := 900000
  data := .list (String.ofList (Base64.encode data)) ["base64"]
  owner := "11111111111111111111111111111111"
  executable := false
  rentEpoch := U64_MAX.toUInt64
  space := data.length.toUInt64

def mainnet : Cli where
  account key :=
    if key = SYSVAR_RENT then some (serving mainnetRent.pack)
    else if key = SYSVAR_CLOCK then some (serving sampleClock.pack)
    else some (serving [])
  rent n := some (6960 * (128 + n.toUInt64))

/-- A wallet with more than the minimum of 890880 lamports. -/
theorem main_report_wallet :
    .math (.exempt 900000 890880 9120) ∈ (main mainnet "wallet").lines := by
  have hstores : Stores mainnet "wallet" (serving []) [] mainnetRent sampleClock
      (fun n => 6960 * (128 + n.toUInt64)) :=
    { account := rfl
      data := JsonData.carries_encode rfl
      rentSysvar := ⟨serving mainnetRent.pack, [], rfl, by
        rw [List.append_nil]
        exact JsonData.carries_encode rfl⟩
      clock := ⟨serving sampleClock.pack, [], rfl, by
        rw [List.append_nil]
        exact JsonData.carries_encode rfl⟩
      rent := fun n _ => rfl }
  have ht : Binary64.ofBits mainnetRent.threshold.toNat = .number 2 := by decide +kernel
  have hround : NoRounding mainnetRent.lpby.toNat (serving []).space.toNat 2 := by
    refine @noRounding_of_rate _ _ 2 6960 ?_ (by decide) (by decide) (by decide)
    decide +kernel
  have hjudged := ((main_report hstores).2.2.2.2 2 ht (by decide) hround).2.1
  have hminimum : clusterRent STORAGE_OVERHEAD (mainnetRent.lpby.toNat * 2)
      (serving []).space.toNat = 890880 := by decide +kernel
  rw [hminimum] at hjudged
  exact (hjudged.exempt 900000 890880 9120).mpr ⟨by decide, rfl, rfl, by decide⟩

end BootcampSolana.Inspector
