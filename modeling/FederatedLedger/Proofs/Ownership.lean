import FederatedLedger.Ledger.Keypair
import Mathlib.Data.List.Basic

/-!
# Who owns what is spelled

A keypair owns the names that spell its public key, whatever the letter case and the white space around them
(`Keypair.owns_iff`). The public key is `0x` and hexadecimal digits (`Keypair.publicKey_spelled`), so there is nothing
to trim from it, and a keypair owns its own (`Keypair.owns_publicKey`), but nothing that is spelled without the mark
(`Keypair.mark_of_owns`). The letter case of the digits is all that the checksum adds to the account
(`Secp256k1.asciiLower_checksummed`), so a name has one account only (`Keypair.account_eq_of_owns`).
-/

namespace FederatedLedger

theorem Hex.isBlank_digit : ∀ {n : Nat}, n < 16 →
    isBlank (digit n) = false ∧ isBlank (digit n).toUpper = false := by
  decide

theorem Hex.mem_ofByte {b : UInt8} {c : Char} (h : c ∈ ofByte b) : ∃ n < 16, c = digit n := by
  have hb := b.toNat_lt
  rcases List.mem_cons.1 h with rfl | h
  · exact ⟨_, by omega, rfl⟩
  · obtain rfl := List.mem_singleton.1 h
    exact ⟨_, Nat.mod_lt _ (by decide), rfl⟩

theorem Hex.toLower_digit : ∀ {n : Nat}, n < 16 → (digit n).toLower = digit n ∧ (digit n).toUpper.toLower = digit n := by
  decide

/-- Zipping with a function that keeps its first argument gives the first list, if the second one is long enough. -/
theorem zipWith_eq_left {α β : Type} {f : α → β → α} {as : List α} {bs : List β} (hlen : as.length ≤ bs.length)
    (h : ∀ a ∈ as, ∀ b, f a b = a) : List.zipWith f as bs = as :=
  calc List.zipWith f as bs
    _ = (as.zip bs).map (Function.uncurry f) := (List.map_uncurry_zip_eq_zipWith ..).symm
    _ = (as.zip bs).map Prod.fst := List.map_congr_left fun x hx => h x.1 (List.of_mem_zip hx).1 x.2
    _ = as := List.map_fst_zip hlen

/-- Without the checksum the spelling of an account is that of its bytes. -/
theorem Secp256k1.asciiLower_checksummed {account : Bytes} (h : account.length ≤ 32) :
    asciiLower (checksummed account) = String.ofList ('0' :: 'x' :: (Hex.ofBytes account).toList) := by
  have hlen : (account.flatMap Hex.ofByte).length ≤ 64 := by
    have := Hex.length_ofBytes account
    rw [Hex.ofBytes, String.length_ofList] at this
    omega
  rw [asciiLower, checksummed, Hex.ofBytes, String.toList_ofList, String.toList_ofList, List.map_cons, List.map_cons,
    List.map_zipWith, zipWith_eq_left]
  · rfl
  · rw [List.length_flatMap]
    simpa [Keccak.length_hash] using hlen
  · intro c hc guard
    obtain ⟨b, -, hb⟩ := List.mem_flatMap.1 hc
    obtain ⟨n, hn, rfl⟩ := Hex.mem_ofByte hb
    split
    · exact (Hex.toLower_digit hn).2
    · exact (Hex.toLower_digit hn).1

/-- The spelling of an account begins with its mark and holds no blank. -/
theorem Secp256k1.checksummed_spelled (account : Bytes) :
    ∃ spelled, checksummed account = String.ofList ('0' :: 'x' :: spelled) ∧ ∀ c ∈ spelled, isBlank c = false := by
  refine ⟨_, rfl, fun c hc => ?_⟩
  rw [← List.map_uncurry_zip_eq_zipWith] at hc
  obtain ⟨⟨d, guard⟩, hmem, rfl⟩ := List.mem_map.1 hc
  obtain ⟨b, -, hd⟩ := List.mem_flatMap.1 (List.of_mem_zip hmem).1
  obtain ⟨n, hn, rfl⟩ := Hex.mem_ofByte hd
  dsimp only [Function.uncurry]
  split
  · exact (Hex.isBlank_digit hn).2
  · exact (Hex.isBlank_digit hn).1

namespace Keypair
variable {k l : Keypair} {owner : String}

theorem publicKey_spelled (k : Keypair) :
    ∃ spelled, k.publicKey = String.ofList ('0' :: 'x' :: spelled) ∧ ∀ c ∈ spelled, isBlank c = false :=
  k.publicKey_eq ▸ Secp256k1.checksummed_spelled _

theorem owns_iff : k.owns owner = true ↔ asciiLower k.publicKey = asciiLower (trim owner) := sameIgnoringCase_iff

/-- A keypair owns its own public key. -/
theorem owns_publicKey (k : Keypair) : k.owns k.publicKey = true := by
  obtain ⟨spelled, hspelled, hblank⟩ := k.publicKey_spelled
  have htrim : trim k.publicKey = k.publicKey := by
    refine trim_eq_self ?_
    rw [hspelled, String.toList_ofList]
    exact List.forall_mem_cons.2 ⟨rfl, List.forall_mem_cons.2 ⟨rfl, hblank⟩⟩
  rw [owns_iff, htrim]

/-- What a keypair owns is spelled with the mark in front. -/
theorem mark_of_owns (h : k.owns owner = true) : ∃ rest, (asciiLower (trim owner)).toList = '0' :: 'x' :: rest := by
  obtain ⟨spelled, hspelled, -⟩ := k.publicKey_spelled
  refine ⟨spelled.map Char.toLower, ?_⟩
  rw [← owns_iff.1 h, hspelled, asciiLower, String.toList_ofList, String.toList_ofList]
  rfl

/-- Keypairs that own the same name have the same account. -/
theorem account_eq_of_owns (hk : k.owns owner = true) (hl : l.owns owner = true) :
    Secp256k1.account k.secret = Secp256k1.account l.secret := by
  have hlower (k : Keypair) : asciiLower k.publicKey =
      String.ofList ('0' :: 'x' :: (Hex.ofBytes (Secp256k1.account k.secret)).toList) := by
    rw [k.publicKey_eq, Secp256k1.asciiLower_checksummed]
    rw [Secp256k1.length_account]
    decide
  have heq := (owns_iff.1 hk).trans (owns_iff.1 hl).symm
  rw [hlower k, hlower l, String.ofList_inj, List.cons.injEq, List.cons.injEq, String.toList_inj] at heq
  exact Hex.ofBytes_injective heq.2.2

end Keypair
end FederatedLedger
