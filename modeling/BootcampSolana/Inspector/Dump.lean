import BootcampSolana.Lib.Hex
import BootcampSolana.Rust

/-!
# The hex dump of an account

The first 64 bytes of an account's data as `02-account-inspector/inspect-account.py` prints them,
sixteen to the row, and the number of those that it does not print.

* `dump_eq_iff` — what can be told from the dump
-/

namespace BootcampSolana.Inspector

/-! ## The source -/

inductive DumpLine where
  | row (text : String)
  | more (bytes : Nat)
  deriving DecidableEq

/-- `{off:04x}`. -/
def offset (off : Nat) : List Char :=
  List.replicate (4 - (Nat.toDigits 16 off).length) '0' ++ Nat.toDigits 16 off

/-- `{cs:<width}`. -/
def ljust (width : Nat) (cs : List Char) : List Char :=
  cs ++ List.replicate (width - cs.length) ' '

/-- `chr(b) if 32 <= b < 127 else "."`. -/
def printable (b : UInt8) : Char := if 32 ≤ b ∧ b < 127 then Char.ofNat b.toNat else '.'

/-- `f"              {off:04x}  {hexs:<47}  {txt}"`. -/
def dumpRow (off : Nat) (chunk : Bytes) : String :=
  String.ofList (List.replicate 14 ' ' ++ offset off ++ "  ".toList ++
    ljust 47 (Hex.spaced chunk) ++ "  ".toList ++ chunk.map printable)

/-- `for off in range(0, min(len(data), 64), 16)`. -/
def rows (data : Bytes) : List String :=
  (List.range ((min data.length 64 + 15) / 16)).map fun i =>
    dumpRow (16 * i) (window data (16 * i) (16 * i + 16))

def dump (data : Bytes) : List DumpLine :=
  if data = [] then []
  else (rows data).map .row ++ (if 64 < data.length then [.more (data.length - 64)] else [])

/-! ## Reading it back -/

/-- The bytes of a row are between its offset and its text. -/
def readRow (text : String) : Bytes := Hex.readSpaced (text.toList.drop 20)

/-- The bytes that a line shows. -/
def DumpLine.bytes : DumpLine → Bytes
  | .row text => readRow text
  | .more _ => []

/-- The number of bytes that a line stands for. -/
def DumpLine.length : DumpLine → Nat
  | .row text => (readRow text).length
  | .more bytes => bytes

variable {data data' chunk : Bytes} {off k : Nat}

theorem length_offset (h : off < 16 ^ 4) : (offset off).length = 4 := by
  have hle := (Nat.length_toDigits_le_iff (by decide : 1 < 16) (by decide : 0 < 4)).mpr h
  rw [offset, List.length_append, List.length_replicate]
  omega

/-- A row has room for its bytes, and blanks behind them. -/
theorem ljust_spaced (chunk : Bytes) (rest : List Char) :
    ∃ more, ljust 47 (Hex.spaced chunk) ++ "  ".toList ++ rest
      = Hex.spaced chunk ++ ' ' :: ' ' :: more := by
  obtain ⟨n, hn⟩ : ∃ n, 47 - (Hex.spaced chunk).length = n := ⟨_, rfl⟩
  rw [ljust, hn]
  rcases n with _ | _ | n
  · exact ⟨rest, by simp⟩
  · exact ⟨' ' :: rest, by simp⟩
  · exact ⟨List.replicate n ' ' ++ ("  ".toList ++ rest), by simp [List.replicate_succ]⟩

/-- **A row shows its bytes.** -/
theorem readRow_dumpRow (hoff : off < 16 ^ 4) (hne : chunk ≠ []) :
    readRow (dumpRow off chunk) = chunk := by
  have hhead : (List.replicate 14 ' ' ++ offset off ++ "  ".toList).length = 20 := by
    simp [length_offset hoff]
  obtain ⟨more, hmore⟩ := ljust_spaced chunk (chunk.map printable)
  rw [readRow, dumpRow, String.toList_ofList, List.append_assoc, List.append_assoc,
    List.drop_left' hhead, ← List.append_assoc, hmore]
  exact Hex.readSpaced_spaced more hne

/-- Chunks of sixteen bytes, one after the other. -/
theorem flatMap_chunks (data : Bytes) (k : Nat) :
    (List.range k).flatMap (fun i => window data (16 * i) (16 * i + 16)) = data.take (16 * k) := by
  induction k with
  | zero => simp
  | succ k ih =>
    rw [List.range_succ, List.flatMap_append, ih, Nat.mul_succ, List.take_add]
    simp [window]

theorem flatMap_rows (data : Bytes) : (rows data).flatMap readRow = data.take 64 := by
  -- the last row ends with the data or with its 64th byte
  have hcount : data.take (16 * ((min data.length 64 + 15) / 16)) = data.take 64 := by
    by_cases h : 64 ≤ data.length
    · have hfour : (min data.length 64 + 15) / 16 = 4 := by omega
      rw [hfour]
    · rw [List.take_of_length_le (by omega), List.take_of_length_le (by omega)]
  rw [rows, List.flatMap_map, ← hcount, ← flatMap_chunks]
  refine List.flatMap_congr fun i hi => ?_
  have hi := List.mem_range.mp hi
  have hlen : (window data (16 * i) (16 * i + 16)).length = min 16 (data.length - 16 * i) := by
    simp [window]
  refine readRow_dumpRow (by omega) ?_
  rw [← List.length_pos_iff]
  omega

theorem dump_eq (data : Bytes) : dump data =
    (rows data).map .row ++ (if 64 < data.length then [.more (data.length - 64)] else []) := by
  by_cases h : data = []
  · simp [dump, h, rows]
  · rw [dump, if_neg h]

theorem bytes_dump (data : Bytes) : (dump data).flatMap DumpLine.bytes = data.take 64 := by
  rw [dump_eq, List.flatMap_append, List.flatMap_map]
  have hmore : (if 64 < data.length then [DumpLine.more (data.length - 64)] else []).flatMap
      DumpLine.bytes = [] := by
    split <;> rfl
  rw [hmore, List.append_nil]
  exact flatMap_rows data

theorem length_dump (data : Bytes) : ((dump data).map DumpLine.length).sum = data.length := by
  have hrows := congrArg List.length (flatMap_rows data)
  rw [List.length_flatMap, List.length_take] at hrows
  rw [dump_eq, List.map_append, List.sum_append, List.map_map]
  change ((rows data).map fun text => (readRow text).length).sum + _ = _
  rw [hrows]
  split
  · simp only [List.map_cons, List.map_nil, List.sum_cons, List.sum_nil, DumpLine.length]
    omega
  · simp only [List.map_nil, List.sum_nil]
    omega

/-- What is not shown does not matter. -/
theorem rows_take (data : Bytes) : rows (data.take 64) = rows data := by
  have hlen : min (data.take 64).length 64 = min data.length 64 := by
    rw [List.length_take]
    omega
  rw [rows, rows, hlen]
  refine List.map_congr_left fun i hi => ?_
  have hi := List.mem_range.mp hi
  rw [window, window, List.drop_take, List.take_take, Nat.min_eq_left (by omega)]

/--
**What can be told from the dump.** Two accounts have the same dump if and only if they have the
same first 64 bytes and as many bytes altogether.
-/
theorem dump_eq_iff : dump data = dump data' ↔
    data.take 64 = data'.take 64 ∧ data.length = data'.length := by
  constructor
  · intro h
    refine ⟨?_, ?_⟩
    · rw [← bytes_dump, h, bytes_dump]
    · rw [← length_dump, h, length_dump]
  · rintro ⟨htake, hlen⟩
    rw [dump_eq, dump_eq, ← rows_take data, htake, rows_take, hlen]

end BootcampSolana.Inspector
