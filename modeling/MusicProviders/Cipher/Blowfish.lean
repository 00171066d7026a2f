import MusicProviders.Cipher.BlowfishTables
import MusicProviders.Text.Hex

/-! # The Blowfish block cipher

Blowfish with big-endian words: a 16-round Feistel network on 64-bit blocks whose
subkeys (the P-array and four S-boxes) are expanded from a key of 4 to 56 bytes.

* `Blowfish.Schedule.expand` — the key schedule: the key's bytes, taken cyclically as
  big-endian words, are XOR-ed into the initial P-array, and then a zero block is
  encrypted over and over, each result replacing the next two subkeys.
* `Blowfish.Schedule.encryptBlock`, `Blowfish.Schedule.decryptBlock` — one block as a
  pair of words; decryption runs the P-array backwards.
* `Blowfish.cbcDecrypt` — cipher-block chaining decryption with a given initial vector:
  each full 8-byte block is decrypted and XOR-ed with the previous ciphertext block;
  trailing bytes that do not fill a block are kept as they are.
* `Blowfish.cbcEncrypt` — the matching encryption, as the CDN applies it: each full
  block is XOR-ed with the previous ciphertext block and then encrypted.
-/

namespace MusicProviders

namespace Blowfish

/-- Expanded subkeys: 18 P-array words and the four S-boxes, concatenated. -/
structure Schedule where
  p : Array UInt32
  s : Array UInt32
deriving Inhabited

namespace Schedule

/-- The round function: the four bytes of `x`, most significant first, index the four
S-boxes; the results are combined by addition, XOR and addition. -/
def round (k : Schedule) (x : UInt32) : UInt32 :=
  let a := (x >>> 24).toNat
  let b := ((x >>> 16) &&& 0xFF).toNat
  let c := ((x >>> 8) &&& 0xFF).toNat
  let d := (x &&& 0xFF).toNat
  ((k.s.getD a 0 + k.s.getD (256 + b) 0) ^^^ k.s.getD (512 + c) 0) + k.s.getD (768 + d) 0

/-- Sixteen Feistel rounds using the P-array entries at the given positions, in order,
followed by the final whitening with the two remaining entries. -/
def feistel (k : Schedule) (order : List Nat) (last₁ last₂ : Nat) (l r : UInt32) :
    UInt32 × UInt32 :=
  let (l, r) := order.foldl (fun (l, r) i =>
    let l := l ^^^ k.p.getD i 0
    (r ^^^ k.round l, l)) (l, r)
  -- the last round does not swap
  (r ^^^ k.p.getD last₂ 0, l ^^^ k.p.getD last₁ 0)

/-- Encrypt one block given as its two big-endian words. -/
def encryptBlock (k : Schedule) (l r : UInt32) : UInt32 × UInt32 :=
  k.feistel (List.range 16) 16 17 l r

/-- Decrypt one block given as its two big-endian words. -/
def decryptBlock (k : Schedule) (l r : UInt32) : UInt32 × UInt32 :=
  k.feistel ((List.range 16).map (fun i => 17 - i)) 1 0 l r

/-- The big-endian word made of the key bytes at positions `4 * i` to `4 * i + 3`,
taken cyclically. -/
def keyWord (key : Bytes) (i : Nat) : UInt32 :=
  (List.range 4).foldl (fun acc j =>
    (acc <<< 8) ||| ((key.getD ((4 * i + j) % key.length) 0).toUInt32)) 0

/-- Encrypt the running block and store the two result words at `i` and `i + 1` of the
P-array (when `inP`) or of the S-boxes. -/
def fillPair (inP : Bool) (state : Schedule × UInt32 × UInt32) (i : Nat) :
    Schedule × UInt32 × UInt32 :=
  let (k, l, r) := state
  let (l, r) := k.encryptBlock l r
  let k :=
    if inP then { k with p := (k.p.setIfInBounds i l).setIfInBounds (i + 1) r }
    else { k with s := (k.s.setIfInBounds i l).setIfInBounds (i + 1) r }
  (k, l, r)

/-- The key schedule of a non-empty key. -/
def expand (key : Bytes) : Schedule :=
  let p := ((List.range 18).map fun i => initialP.getD i 0 ^^^ keyWord key i).toArray
  let start : Schedule := ⟨p, initialS⟩
  let pairs (n : Nat) := (List.range (n / 2)).map (2 * ·)
  let (k, l, r) := (pairs 18).foldl (fillPair true) (start, 0, 0)
  let (k, _, _) := (pairs 1024).foldl (fillPair false) (k, l, r)
  k

end Schedule

/-- The big-endian word of four bytes. -/
def wordBE (bytes : Bytes) : UInt32 :=
  bytes.foldl (fun acc b => (acc <<< 8) ||| b.toUInt32) 0

/-- The four bytes of a word, most significant first. -/
def wordBytesBE (w : UInt32) : Bytes :=
  [(w >>> 24).toUInt8, (w >>> 16).toUInt8, (w >>> 8).toUInt8, w.toUInt8]

/-- Decrypt one 8-byte block. -/
def decryptBytes (k : Schedule) (block : Bytes) : Bytes :=
  let (l, r) := k.decryptBlock (wordBE (block.take 4)) (wordBE (block.drop 4))
  wordBytesBE l ++ wordBytesBE r

/-- Encrypt one 8-byte block. -/
def encryptBytes (k : Schedule) (block : Bytes) : Bytes :=
  let (l, r) := k.encryptBlock (wordBE (block.take 4)) (wordBE (block.drop 4))
  wordBytesBE l ++ wordBytesBE r

/-- XOR of two byte strings, position by position. -/
def xorBytes (a b : Bytes) : Bytes := List.zipWith (· ^^^ ·) a b

/-- CBC decryption of `data` whose first ciphertext block is chained to `previous`:
every full block is decrypted and XOR-ed with the ciphertext block before it, and a
trailing partial block is kept as it is. -/
def cbcDecryptFrom (k : Schedule) (previous : Bytes) (data : Bytes) : Bytes :=
  go (data.length / 8) previous data
where
  go : Nat → Bytes → Bytes → Bytes
    | 0, _, rest => rest
    | n + 1, previous, rest =>
      let block := rest.take 8
      xorBytes (decryptBytes k block) previous ++ go n block (rest.drop 8)

/-- CBC decryption with an initial vector; trailing bytes short of a block are kept. -/
def cbcDecrypt (k : Schedule) (iv : Bytes) (data : Bytes) : Bytes := cbcDecryptFrom k iv data

/-- CBC encryption of `data` chained to the ciphertext block `previous`: every full block
is XOR-ed with the ciphertext block before it and encrypted, and a trailing partial
block is kept as it is. -/
def cbcEncryptFrom (k : Schedule) (previous : Bytes) (data : Bytes) : Bytes :=
  go (data.length / 8) previous data
where
  go : Nat → Bytes → Bytes → Bytes
    | 0, _, rest => rest
    | n + 1, previous, rest =>
      let block := encryptBytes k (xorBytes (rest.take 8) previous)
      block ++ go n block (rest.drop 8)

/-- CBC encryption with an initial vector; trailing bytes short of a block are kept. -/
def cbcEncrypt (k : Schedule) (iv : Bytes) (data : Bytes) : Bytes := cbcEncryptFrom k iv data

end Blowfish

end MusicProviders
