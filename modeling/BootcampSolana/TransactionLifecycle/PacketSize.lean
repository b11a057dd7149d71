import BootcampSolana.TransactionLifecycle.Message

/-!
# What fits into a packet

`bincode_len` of `04-transaction-lifecycle/src/main.rs`. On the wire the signatures are preceded by
their number, seven bits to the byte, and followed by the message. `bincode_len` counts one byte
for the number, whatever it is.

* `bincodeLen_packet` — it is the length of every transaction that fits into a packet, and it is
  too long for every other one
-/

namespace BootcampSolana.TransactionLifecycle

/-! ## The source -/

def PACKET_LIMIT : Nat := 1232

/--
`serialize` stands for the method of `Message`. The sum cannot overflow: the signatures and the
bytes of the message are in memory, where a vector has fewer than `2 ^ 63` bytes.
-/
def bincodeLen (serialize : Message → Bytes) (tx : Transaction) : Nat :=
  1 + tx.signatures.length * 64 + (serialize tx.message).length

/-! ## The wire -/

/-- A compact-u16: seven bits to the byte from the lowest on, and a high bit if there are more. -/
def compact (n : Nat) : Bytes :=
  if n < 128 then [UInt8.ofNat n] else UInt8.ofNat (128 + n % 128) :: compact (n / 128)
termination_by n

def wire (serialize : Message → Bytes) (tx : Transaction) : Bytes :=
  compact tx.signatures.length ++ (tx.signatures.map (·.1)).flatten ++ serialize tx.message

variable {serialize : Message → Bytes} {tx : Transaction} {n : Nat}

theorem compact_of_lt (h : n < 128) : compact n = [UInt8.ofNat n] := by
  rw [compact, if_pos h]

theorem length_signatures : ∀ signatures : List Signature,
    (signatures.map (·.1)).flatten.length = 64 * signatures.length
  | [] => rfl
  | s :: signatures => by
    have ih := length_signatures signatures
    have hs : s.1.length = 64 := s.2
    simp only [List.map_cons, List.flatten_cons, List.length_append, List.length_cons, ih, hs]
    omega

theorem length_wire : (wire serialize tx).length =
    (compact tx.signatures.length).length + 64 * tx.signatures.length +
      (serialize tx.message).length := by
  simp only [wire, List.length_append, length_signatures]

/-- Few enough signatures are counted by one byte. -/
theorem bincodeLen_eq (h : tx.signatures.length < 128) :
    bincodeLen serialize tx = (wire serialize tx).length := by
  rw [length_wire, compact_of_lt h, bincodeLen, Nat.mul_comm]
  rfl

/-- From 128 signatures on the numbers differ, but the signatures alone are too much. -/
theorem too_many (h : ¬ tx.signatures.length < 128) :
    PACKET_LIMIT < bincodeLen serialize tx ∧ PACKET_LIMIT < (wire serialize tx).length := by
  rw [length_wire]
  unfold bincodeLen PACKET_LIMIT
  omega

/-- **`bincode_len` decides the packet limit**, and is exact on both sides of it that count. -/
theorem bincodeLen_packet (serialize : Message → Bytes) (tx : Transaction) :
    (bincodeLen serialize tx ≤ PACKET_LIMIT ↔ (wire serialize tx).length ≤ PACKET_LIMIT) ∧
    (bincodeLen serialize tx ≤ PACKET_LIMIT ∨ (wire serialize tx).length ≤ PACKET_LIMIT →
      bincodeLen serialize tx = (wire serialize tx).length) ∧
    (wire serialize tx).length = (compact tx.signatures.length).length +
      64 * tx.signatures.length + (serialize tx.message).length := by
  by_cases h : tx.signatures.length < 128
  · have heq := @bincodeLen_eq serialize tx h
    exact ⟨by rw [heq], fun _ => heq, length_wire⟩
  · obtain ⟨hlen, hwire⟩ := @too_many serialize tx h
    refine ⟨⟨?_, ?_⟩, ?_, length_wire⟩
    · intro hle
      exact absurd hle (Nat.not_le_of_lt hlen)
    · intro hle
      exact absurd hle (Nat.not_le_of_lt hwire)
    · rintro (hle | hle)
      · exact absurd hle (Nat.not_le_of_lt hlen)
      · exact absurd hle (Nat.not_le_of_lt hwire)

/-- The bytes of a message: the header, then the three lists, each behind its length. -/
def packMessage (m : Message) : Bytes :=
  [m.header.numRequiredSignatures, m.header.numReadonlySignedAccounts,
    m.header.numReadonlyUnsignedAccounts] ++
  compact m.accountKeys.length ++ (m.accountKeys.map Pubkey.bytes).flatten ++
  m.recentBlockhash.1 ++
  compact m.instructions.length ++ (m.instructions.map fun ix =>
    ix.programIdIndex :: compact ix.accounts.length ++ ix.accounts ++
      compact ix.data.length ++ ix.data).flatten

/-- The transfer of the exercise is 202 bytes of message and 267 bytes on the wire. -/
theorem bincodeLen_packet_transfer :
    (wire packMessage ⟨[⟨List.replicate 64 0, rfl⟩], transferMessage⟩).length = 267 := by
  have h := (bincodeLen_packet packMessage ⟨[⟨List.replicate 64 0, rfl⟩], transferMessage⟩).2.1
  have hlen : bincodeLen packMessage ⟨[⟨List.replicate 64 0, rfl⟩], transferMessage⟩ = 267 := by
    rw [bincodeLen, packMessage, compact_of_lt (by decide), compact_of_lt (by decide)]
    decide +kernel
  rw [hlen] at h
  exact (h (Or.inl (by decide))).symm

end BootcampSolana.TransactionLifecycle
