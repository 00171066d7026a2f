import MusicProviders.Proofs.Cipher.Segments

/-! # Decrypting a segment, block by block

`decryptChunk` is cipher-block chaining decryption with the fixed initial vector, for data
of every length and every key. Block `i` of its result is block `i` of the input run
through Blowfish decryption and XOR-ed with the ciphertext block before it, which for the
first block is the initial vector; the bytes after the last whole block come through as
they are. The key schedule cannot fail, so decryption always returns bytes, as many as it
was given, and it undoes `encryptChunk` (`decryptChunk_cbc`).

The ciphertext block before block `i` of `data` is block `i` of `initialVector ++ data`:
writing it that way lets one induction over the chaining loop carry the previous block
along (`cipherBlock_cbcDecryptFrom_go`).
-/

namespace MusicProviders.Stripe

open Blowfish

/-- Block `i` of a byte string: its bytes from `8 * i` on, at most eight of them. -/
def cipherBlock (bytes : Bytes) (i : Nat) : Bytes := (bytes.drop (8 * i)).take 8

theorem cipherBlock_zero_of_length {front : Bytes} (eight : front.length = 8) (back : Bytes) :
    cipherBlock (front ++ back) 0 = front := by
  rw [cipherBlock, Nat.mul_zero, List.drop_zero, List.take_left' eight]

theorem cipherBlock_succ_of_length {front : Bytes} (eight : front.length = 8) (back : Bytes)
    (i : Nat) : cipherBlock (front ++ back) (i + 1) = cipherBlock back i := by
  rw [cipherBlock, Nat.mul_succ, Nat.add_comm, ← List.drop_drop, List.drop_left' eight,
    cipherBlock]

theorem cipherBlock_drop (bytes : Bytes) (i : Nat) :
    cipherBlock (bytes.drop 8) i = cipherBlock bytes (i + 1) := by
  rw [cipherBlock, cipherBlock, List.drop_drop, Nat.mul_succ, Nat.add_comm]

section Chaining

variable (schedule : Schedule)

/-- Block `i` of a chaining run over `n` blocks is block `i` of its input decrypted and
masked with the ciphertext block before it, `previous` before the first. -/
theorem cipherBlock_cbcDecryptFrom_go :
    ∀ (n : Nat) (previous rest : Bytes) (i : Nat), previous.length = 8 →
      8 * n ≤ rest.length → i < n →
        cipherBlock (cbcDecryptFrom.go schedule n previous rest) i =
          xorBytes (decryptBytes schedule (cipherBlock rest i)) (cipherBlock (previous ++ rest) i)
  | 0, _, _, _, _, _, inside => absurd inside (Nat.not_lt_zero _)
  | n + 1, previous, rest, i, oneBlock, enough, inside => by
    have front : (xorBytes (decryptBytes schedule (rest.take 8)) previous).length = 8 := by
      simp [oneBlock]
    rw [cbcDecryptFrom.go]
    cases i with
    | zero =>
      rw [cipherBlock_zero_of_length front, cipherBlock_zero_of_length oneBlock, cipherBlock,
        Nat.mul_zero, List.drop_zero]
    | succ i =>
      -- the loop goes on with the block it has just read as the previous one
      have taken : (rest.take 8).length = 8 := by
        rw [List.length_take]
        omega
      have tail := cipherBlock_cbcDecryptFrom_go n (rest.take 8) (rest.drop 8) i taken
        (by rw [List.length_drop]; omega) (by omega)
      rw [cipherBlock_succ_of_length front, tail, List.take_append_drop, cipherBlock_drop,
        cipherBlock_succ_of_length oneBlock]

/-- A chaining run over `n` blocks leaves the bytes after them as they are. -/
theorem cbcDecryptFrom_go_drop :
    ∀ (n : Nat) (previous rest : Bytes), previous.length = 8 → 8 * n ≤ rest.length →
      (cbcDecryptFrom.go schedule n previous rest).drop (8 * n) = rest.drop (8 * n)
  | 0, _, _, _, _ => rfl
  | n + 1, previous, rest, oneBlock, enough => by
    have front : (xorBytes (decryptBytes schedule (rest.take 8)) previous).length = 8 := by
      simp [oneBlock]
    have tail := cbcDecryptFrom_go_drop n (rest.take 8) (rest.drop 8)
      (by rw [List.length_take]; omega) (by rw [List.length_drop]; omega)
    rw [cbcDecryptFrom.go, Nat.mul_succ, Nat.add_comm, ← List.drop_drop, List.drop_left' front,
      tail, List.drop_drop]

end Chaining

/-- Decrypting a segment is CBC decryption with the fixed initial vector, for every key and
data of every length: the result has the length of the data; each of its whole blocks is
the matching block of the data decrypted and XOR-ed with the ciphertext block before it
(the initial vector before the first); the bytes after the last whole block are those of
the data; and decrypting what `encryptChunk` produced under the same key gives back the
plain bytes. -/
theorem decryptChunk_cbc (key data : Bytes) :
    (decryptChunk (Schedule.expand key) data).length = data.length ∧
      (∀ i < data.length / 8,
        cipherBlock (decryptChunk (Schedule.expand key) data) i =
          xorBytes (decryptBytes (Schedule.expand key) (cipherBlock data i))
            (cipherBlock (initialVector ++ data) i)) ∧
      (decryptChunk (Schedule.expand key) data).drop (8 * (data.length / 8)) =
        data.drop (8 * (data.length / 8)) ∧
      ∀ plain : Bytes,
        decryptChunk (Schedule.expand key) (encryptChunk (Schedule.expand key) plain) = plain := by
  have blocks : 8 * (data.length / 8) ≤ data.length := Nat.mul_div_le data.length 8
  refine ⟨length_decryptChunk _ data, fun i inside => ?_, ?_, fun plain => ?_⟩
  · exact cipherBlock_cbcDecryptFrom_go _ _ initialVector data i rfl blocks inside
  · exact cbcDecryptFrom_go_drop _ _ initialVector data rfl blocks
  · exact cbcDecrypt_cbcEncrypt _ rfl plain

end MusicProviders.Stripe
