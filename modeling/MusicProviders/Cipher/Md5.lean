import MusicProviders.Text.Hex

/-! # MD5

The MD5 message digest (RFC 1321), on byte lists.

* `Md5.pad` — the message, a `0x80` byte, zeros up to 56 bytes modulo 64, and the bit
  length as eight little-endian bytes.
* `Md5.compress` — one 64-byte block folded into the four-word state by the 64 steps.
* `md5` — the 16-byte digest; `md5Hex` its lower-case hexadecimal text for a string's
  UTF-8 bytes.
-/

namespace MusicProviders

namespace Md5

/-- The per-step additive constants: the integer part of `|sin (i + 1)| * 2 ^ 32`. -/
def constants : Array UInt32 := #[
  0xd76aa478, 0xe8c7b756, 0x242070db, 0xc1bdceee, 0xf57c0faf, 0x4787c62a, 0xa8304613, 0xfd469501,
  0x698098d8, 0x8b44f7af, 0xffff5bb1, 0x895cd7be, 0x6b901122, 0xfd987193, 0xa679438e, 0x49b40821,
  0xf61e2562, 0xc040b340, 0x265e5a51, 0xe9b6c7aa, 0xd62f105d, 0x02441453, 0xd8a1e681, 0xe7d3fbc8,
  0x21e1cde6, 0xc33707d6, 0xf4d50d87, 0x455a14ed, 0xa9e3e905, 0xfcefa3f8, 0x676f02d9, 0x8d2a4c8a,
  0xfffa3942, 0x8771f681, 0x6d9d6122, 0xfde5380c, 0xa4beea44, 0x4bdecfa9, 0xf6bb4b60, 0xbebfbc70,
  0x289b7ec6, 0xeaa127fa, 0xd4ef3085, 0x04881d05, 0xd9d4d039, 0xe6db99e5, 0x1fa27cf8, 0xc4ac5665,
  0xf4292244, 0x432aff97, 0xab9423a7, 0xfc93a039, 0x655b59c3, 0x8f0ccc92, 0xffeff47d, 0x85845dd1,
  0x6fa87e4f, 0xfe2ce6e0, 0xa3014314, 0x4e0811a1, 0xf7537e82, 0xbd3af235, 0x2ad7d2bb, 0xeb86d391]

/-- The left-rotation amounts of the four rounds, four per round. -/
def rotations : Array (Array UInt32) := #[#[7, 12, 17, 22], #[5, 9, 14, 20], #[4, 11, 16, 23],
  #[6, 10, 15, 21]]

/-- Rotate a word left by `k` bits, `0 < k < 32`. -/
def rotateLeft (x k : UInt32) : UInt32 := (x <<< k) ||| (x >>> (32 - k))

/-- The four-word chaining state. -/
structure State where
  a : UInt32
  b : UInt32
  c : UInt32
  d : UInt32
deriving DecidableEq, Repr, Inhabited

/-- The initial state. -/
def initial : State := ⟨0x67452301, 0xefcdab89, 0x98badcfe, 0x10325476⟩

/-- The word made of four bytes, least significant first. -/
def wordLE (bytes : Bytes) : UInt32 :=
  bytes.foldr (fun b acc => (acc <<< 8) ||| b.toUInt32) 0

/-- The sixteen little-endian words of a 64-byte block. -/
def blockWords (block : Bytes) : Array UInt32 :=
  ((List.range 16).map fun i => wordLE ((block.drop (4 * i)).take 4)).toArray

/-- Step `i` of the compression function, `i < 64`. -/
def step (words : Array UInt32) (s : State) (i : Nat) : State :=
  let round := i / 16
  let (f, g) :=
    match round with
    | 0 => ((s.b &&& s.c) ||| (~~~s.b &&& s.d), i)
    | 1 => ((s.d &&& s.b) ||| (~~~s.d &&& s.c), (5 * i + 1) % 16)
    | 2 => (s.b ^^^ s.c ^^^ s.d, (3 * i + 5) % 16)
    | _ => (s.c ^^^ (s.b ||| ~~~s.d), (7 * i) % 16)
  let f := f + s.a + constants.getD i 0 + words.getD g 0
  let r := (rotations.getD round #[]).getD (i % 4) 0
  ⟨s.d, s.b + rotateLeft f r, s.b, s.c⟩

/-- Fold one 64-byte block into the state. -/
def compress (s : State) (block : Bytes) : State :=
  let words := blockWords block
  let t := (List.range 64).foldl (step words) s
  ⟨s.a + t.a, s.b + t.b, s.c + t.c, s.d + t.d⟩

/-- The `n` bytes of a number, least significant first. -/
def bytesLE (n count : Nat) : Bytes :=
  (List.range count).map fun i => UInt8.ofNat (n / Nat.pow 256 i)

/-- The padded message: a whole number of 64-byte blocks. -/
def pad (message : Bytes) : Bytes :=
  let zeros := (119 - message.length % 64) % 64
  message ++ [0x80] ++ List.replicate zeros 0 ++ bytesLE (8 * message.length) 8

/-- The 64-byte blocks of a padded message. -/
def blocks (bytes : Bytes) : List Bytes :=
  go (bytes.length / 64) bytes
where
  go : Nat → Bytes → List Bytes
    | 0, _ => []
    | n + 1, bytes => bytes.take 64 :: go n (bytes.drop 64)

/-- The bytes of a word, least significant first. -/
def wordBytes (w : UInt32) : Bytes := bytesLE w.toNat 4

end Md5

/-- The 16-byte MD5 digest of a byte string. -/
def md5 (message : Bytes) : Bytes :=
  let s := (Md5.blocks (Md5.pad message)).foldl Md5.compress Md5.initial
  Md5.wordBytes s.a ++ Md5.wordBytes s.b ++ Md5.wordBytes s.c ++ Md5.wordBytes s.d

/-- The lower-case hexadecimal MD5 digest of a string's UTF-8 bytes. -/
def md5Hex (text : String) : String := Bytes.toHex (md5 (Bytes.ofString text))

end MusicProviders
