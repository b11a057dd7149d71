import BootcampSolana.Lib.SearchDown
import BootcampSolana.Solana.Pubkey

/-!
# Program derived addresses

The derivation hashes the seeds, the program and a marker, and accepts the hash when it is
not a point of the ed25519 curve. SHA-256 and the curve test are parameters (`Derivation`):
nothing below depends on which functions they are.

`findProgramAddress` is the client's and the program's way in: it appends one more seed, the
bump, and counts it down until the hash falls off the curve.
-/

namespace BootcampSolana

/-- The two primitives of the derivation. -/
structure Derivation where
  sha256 : Bytes → Pubkey
  isOnCurve : Pubkey → Bool

inductive PubkeyError where
  | maxSeedLengthExceeded
  | invalidSeeds
  deriving DecidableEq, Repr

def maxSeeds : Nat := 16

def maxSeedLen : Nat := 32

def pdaMarker : Bytes := ascii "ProgramDerivedAddress"

/-- What `create_program_address` hashes. -/
def pdaPreimage (seeds : List Bytes) (programId : Pubkey) : Bytes :=
  seeds.flatten ++ programId.bytes ++ pdaMarker

def createProgramAddress (D : Derivation) (seeds : List Bytes) (programId : Pubkey) :
    Except PubkeyError Pubkey :=
  if maxSeeds < seeds.length then .error .maxSeedLengthExceeded
  else if seeds.any (fun seed => maxSeedLen < seed.length) then .error .maxSeedLengthExceeded
  else
    let hash := D.sha256 (pdaPreimage seeds programId)
    if D.isOnCurve hash then .error .invalidSeeds else .ok hash

/-- The address for one value of the bump, when there is one. -/
def addressAt (D : Derivation) (seeds : List Bytes) (programId : Pubkey) (bump : Nat) :
    Option Pubkey :=
  (createProgramAddress D (seeds ++ [[UInt8.ofNat bump]]) programId).toOption

/--
`Pubkey::find_program_address`, with its panic on an exhausted search as `none`.

The loop makes 255 attempts, so the bumps tried are 255 down to 1.
-/
def findProgramAddress (D : Derivation) (seeds : List Bytes) (programId : Pubkey) :
    Option (Pubkey × UInt8) :=
  (SearchDown.search (addressAt D seeds programId) 255).map
    fun hit => (hit.2, UInt8.ofNat hit.1)

/-- `a` is an address that only `programId` can sign for. -/
def IsPda (D : Derivation) (programId a : Pubkey) : Prop :=
  ∃ seeds, createProgramAddress D seeds programId = .ok a

variable {D : Derivation} {seeds : List Bytes} {programId a : Pubkey} {bump : UInt8}

theorem createProgramAddress_eq_ok (h : createProgramAddress D seeds programId = .ok a) :
    a = D.sha256 (pdaPreimage seeds programId) ∧ D.isOnCurve a = false := by
  unfold createProgramAddress at h
  split at h
  · cases h
  · split at h
    · cases h
    · dsimp only at h
      split at h
      · cases h
      · next hc =>
        cases h
        exact ⟨rfl, by simpa using hc⟩

theorem IsPda.isOnCurve (h : IsPda D programId a) : D.isOnCurve a = false := by
  obtain ⟨seeds, hs⟩ := h
  exact (createProgramAddress_eq_ok hs).2

theorem addressAt_eq_some {n : Nat} : addressAt D seeds programId n = some a ↔
    createProgramAddress D (seeds ++ [[UInt8.ofNat n]]) programId = .ok a := by
  unfold addressAt
  cases createProgramAddress D (seeds ++ [[UInt8.ofNat n]]) programId <;> simp [Except.toOption]

/--
**What the search returns.** The bump is one that `create_program_address` accepts with that
very address, and no greater bump is accepted at all.
-/
theorem findProgramAddress_eq_some (h : findProgramAddress D seeds programId = some (a, bump)) :
    createProgramAddress D (seeds ++ [[bump]]) programId = .ok a ∧
      ∀ b, bump < b → ∀ a', createProgramAddress D (seeds ++ [[b]]) programId ≠ .ok a' := by
  obtain ⟨⟨k, x⟩, hk, he⟩ := Option.map_eq_some_iff.mp h
  obtain ⟨rfl, rfl⟩ := Prod.mk.inj he
  obtain ⟨-, hle, hhit, habove⟩ := SearchDown.search_eq_some_iff.mp hk
  refine ⟨addressAt_eq_some.mp hhit, ?_⟩
  intro b hb a' hc
  have hkb : k < b.toNat := by
    have hlt : (UInt8.ofNat k).toNat < b.toNat := hb
    rw [UInt8.toNat_ofNat', Nat.mod_eq_of_lt (by omega)] at hlt
    exact hlt
  have hnone := habove b.toNat hkb (by have := UInt8.toNat_lt b; omega)
  have hsome : addressAt D seeds programId b.toNat = some a' := by
    rw [addressAt_eq_some, UInt8.ofNat_toNat]; exact hc
  rw [hnone] at hsome
  cases hsome

theorem findProgramAddress_isPda (h : findProgramAddress D seeds programId = some (a, bump)) :
    IsPda D programId a := ⟨_, (findProgramAddress_eq_some h).1⟩

/-! ## When addresses differ -/

/-- What a search for `seeds` hashes, one string a bump. -/
def candidates (seeds : List Bytes) (programId : Pubkey) : Set Bytes :=
  { s | ∃ b : UInt8, s = pdaPreimage (seeds ++ [[b]]) programId }

/--
No two strings of `S` hash to one address. That a hash of 32 bytes has no collision at all is
true of no function, so it is assumed for the strings that are compared.
-/
def NoCollision (D : Derivation) (S : Set Bytes) : Prop :=
  Set.InjOn D.sha256 { s ∈ S | D.isOnCurve (D.sha256 s) = false }

/-- Two searches that return one address have hashed one string. -/
theorem preimage_eq_of_address_eq {seeds' : List Bytes} {programId' : Pubkey} {bump' : UInt8}
    (hD : NoCollision D (candidates seeds programId ∪ candidates seeds' programId'))
    (h : findProgramAddress D seeds programId = some (a, bump))
    (h' : findProgramAddress D seeds' programId' = some (a, bump')) :
    pdaPreimage (seeds ++ [[bump]]) programId = pdaPreimage (seeds' ++ [[bump']]) programId' := by
  obtain ⟨ha, hc⟩ := createProgramAddress_eq_ok (findProgramAddress_eq_some h).1
  obtain ⟨ha', -⟩ := createProgramAddress_eq_ok (findProgramAddress_eq_some h').1
  refine hD ⟨Or.inl ⟨bump, rfl⟩, ?_⟩ ⟨Or.inr ⟨bump', rfl⟩, ?_⟩ (ha.symm.trans ha')
  · rw [← ha]
    exact hc
  · rw [← ha']
    exact hc

end BootcampSolana
