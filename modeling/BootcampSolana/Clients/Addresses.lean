import BootcampSolana.Clients.Instructions
import BootcampSolana.CounterPda.Client

/-!
# Derived addresses identify their seeds

The seeds are hashed one after the other with nothing between them, so a string of seeds could
be cut in more than one way. Here it cannot: every seed the clients use has a width of its own,
the bump included, and so the string that was hashed gives back each of them.
-/

namespace BootcampSolana

variable {D : Derivation}

/-- Three keys and a bump, in a row. -/
theorem keys_inj {p q r p' q' r' program : Pubkey} {bump bump' : UInt8}
    (h : pdaPreimage ([p.bytes, q.bytes, r.bytes] ++ [[bump]]) program
      = pdaPreimage ([p'.bytes, q'.bytes, r'.bytes] ++ [[bump']]) program) :
    p = p' ∧ q = q' ∧ r = r' := by
  have hflat := List.append_cancel_right (List.append_cancel_right h)
  change p.bytes ++ (q.bytes ++ (r.bytes ++ [bump]))
    = p'.bytes ++ (q'.bytes ++ (r'.bytes ++ [bump'])) at hflat
  obtain ⟨hp, hflat⟩ := List.append_inj hflat (by rw [p.length_bytes, p'.length_bytes])
  obtain ⟨hq, hflat⟩ := List.append_inj hflat (by rw [q.length_bytes, q'.length_bytes])
  obtain ⟨hr, -⟩ := List.append_inj hflat (by rw [r.length_bytes, r'.length_bytes])
  exact ⟨Pubkey.bytes_inj.mp hp, Pubkey.bytes_inj.mp hq, Pubkey.bytes_inj.mp hr⟩

/-- A fixed prefix, a key and a bump. -/
theorem prefixed_key_inj {seed : Bytes} {p p' program : Pubkey} {bump bump' : UInt8}
    (h : pdaPreimage ([seed, p.bytes] ++ [[bump]]) program
      = pdaPreimage ([seed, p'.bytes] ++ [[bump']]) program) : p = p' := by
  have hflat := List.append_cancel_right (List.append_cancel_right h)
  change seed ++ (p.bytes ++ [bump]) = seed ++ (p'.bytes ++ [bump']) at hflat
  obtain ⟨hp, -⟩ := List.append_inj (List.append_cancel_left hflat)
    (by rw [p.length_bytes, p'.length_bytes])
  exact Pubkey.bytes_inj.mp hp

/--
**Derived addresses identify their seeds.** As long as the hash does not collide on what the
searches hash:

* two associated token accounts have one address if and only if wallet, mint and token program
  are the same
* the two-argument `derive_ata` is the three-argument one for SPL Token
* two users have two counters, under any program

whichever bumps the searches stop at.
-/
theorem derived_addresses (D : Derivation) :
    (∀ wallet mint tokenProgram wallet' mint' tokenProgram' ata bump ata' bump',
      NoCollision D
        (candidates [wallet.bytes, tokenProgram.bytes, mint.bytes]
            (pk FourPrograms.ATA FourPrograms.isSome_ata) ∪
          candidates [wallet'.bytes, tokenProgram'.bytes, mint'.bytes]
            (pk FourPrograms.ATA FourPrograms.isSome_ata)) →
      FourPrograms.deriveAta D wallet mint tokenProgram = some (ata, bump) →
      FourPrograms.deriveAta D wallet' mint' tokenProgram' = some (ata', bump') →
      (ata = ata' ↔ wallet = wallet' ∧ mint = mint' ∧ tokenProgram = tokenProgram')) ∧
    (∀ wallet mint, SplToken.deriveAta D wallet mint =
      (FourPrograms.deriveAta D wallet mint
        (pk FourPrograms.TOKEN FourPrograms.isSome_token)).map Prod.fst) ∧
    (∀ program user user' pda bump pda' bump',
      NoCollision D
        (candidates [CounterPda.SEED_PREFIX, user.bytes] program ∪
          candidates [CounterPda.SEED_PREFIX, user'.bytes] program) →
      CounterPda.counterPda D user program = .ok (pda, bump) →
      CounterPda.counterPda D user' program = .ok (pda', bump') →
      pda = pda' → user = user') := by
  refine ⟨?_, ?_, ?_⟩
  · intro wallet mint tokenProgram wallet' mint' tokenProgram' ata bump ata' bump' hD h h'
    constructor
    · rintro rfl
      obtain ⟨hw, ht, hm⟩ := keys_inj (preimage_eq_of_address_eq hD h h')
      exact ⟨hw, hm, ht⟩
    · rintro ⟨rfl, rfl, rfl⟩
      cases h.symm.trans h'
      rfl
  · intro wallet mint
    rfl
  · rintro program user user' pda bump _ bump' hD h h' rfl
    exact prefixed_key_inj (preimage_eq_of_address_eq hD (CounterPda.counterPda_eq_ok.mp h)
      (CounterPda.counterPda_eq_ok.mp h'))

/-! ## Two addresses of one wallet and mint

The digests for `alice`'s wallet and a mint at `bob`'s address. Under SPL Token the search stops
at once, under Token-2022 after three bumps.
-/

def aliceAta : Pubkey :=
  ⟨[0x70, 0x60, 0x32, 0x01, 0xdf, 0x22, 0xd4, 0xf7, 0xaa, 0xf3, 0xf7,
    0x3d, 0x8d, 0x6b, 0x2f, 0xa3, 0x15, 0xdd, 0xd4, 0x07, 0xf0, 0xbe,
    0x0e, 0xf3, 0xc4, 0xfb, 0x58, 0x69, 0x8e, 0xab, 0x92, 0x45], rfl⟩

def aliceAta2022 : Pubkey :=
  ⟨[0xa6, 0x6d, 0x2a, 0x9d, 0xc5, 0xeb, 0xe4, 0x6c, 0xd4, 0x6b, 0x33,
    0x72, 0xd2, 0x19, 0xe7, 0xf5, 0x25, 0xdc, 0xb4, 0x39, 0xfc, 0x73,
    0x29, 0x6e, 0x37, 0xea, 0xc4, 0x6e, 0xd5, 0x49, 0xbc, 0x19], rfl⟩

def ataDerivation : Derivation := tableDerivation
  [(pdaPreimage [alice.bytes, (pk FourPrograms.TOKEN FourPrograms.isSome_token).bytes, bob.bytes,
      [255]] (pk FourPrograms.ATA FourPrograms.isSome_ata), aliceAta),
    (pdaPreimage [alice.bytes, (pk FourPrograms.TOKEN_2022 FourPrograms.isSome_token2022).bytes,
      bob.bytes, [252]] (pk FourPrograms.ATA FourPrograms.isSome_ata), aliceAta2022)]

theorem derived_addresses_alice : ∃ ata bump ata' bump',
    FourPrograms.deriveAta ataDerivation alice bob
      (pk FourPrograms.TOKEN FourPrograms.isSome_token) = some (ata, bump) ∧
    FourPrograms.deriveAta ataDerivation alice bob
      (pk FourPrograms.TOKEN_2022 FourPrograms.isSome_token2022) = some (ata', bump') ∧
    bump ≠ bump' ∧ ata ≠ ata' := by
  have h : FourPrograms.deriveAta ataDerivation alice bob
      (pk FourPrograms.TOKEN FourPrograms.isSome_token) = some (aliceAta, 255) := by
    decide +kernel
  have h' : FourPrograms.deriveAta ataDerivation alice bob
      (pk FourPrograms.TOKEN_2022 FourPrograms.isSome_token2022) = some (aliceAta2022, 252) := by
    decide +kernel
  refine ⟨_, _, _, _, h, h', by decide, ?_⟩
  intro heq
  have hsame := ((derived_addresses ataDerivation).1 _ _ _ _ _ _ _ _ _ _
    (noCollision_table (fun _ => rfl) (by decide) (by decide) _) h h').mp heq
  exact absurd hsame.2.2 (by decide)

end BootcampSolana
