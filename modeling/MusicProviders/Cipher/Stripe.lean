import MusicProviders.Cipher.Md5
import MusicProviders.Cipher.Blowfish
import MusicProviders.Provider.Error

/-! # Stripe decryption of audio streams

The audio is cut into 2048-byte segments, numbered from zero at the start of the file;
every third segment (0, 3, 6, ...) is Blowfish-CBC encrypted with a key derived from the
track id and the fixed initial vector `00 01 .. 07`. All other segments, and a trailing
partial segment, are plain.

* `blowfishKey` — the per-track key: the two halves of the hexadecimal MD5 text of the
  track id XOR-ed together and with a fixed secret.
* `decryptChunk` — CBC decryption of one segment.
* `seekSegmentIndex`, `segmentOffset` — where to start downloading for a seek, with
  64-bit saturating arithmetic.
* `decryptStream` — re-chunks a stream of network chunks into segments, decrypting the
  encrypted ones; a failed chunk ends the stream with that failure.
* `stripeEncrypt` — the CDN's side: every third full segment of a plain file encrypted
  with `encryptChunk`, the rest, and a trailing partial segment, left plain.
-/

namespace MusicProviders

namespace Stripe

/-- The secret mixed into every track key. -/
def secretKey : Bytes := Bytes.ofString "g4el58wc0zvf9na1"

/-- The fixed CBC initial vector. -/
def initialVector : Bytes := [0, 1, 2, 3, 4, 5, 6, 7]

/-- Size of one stripe segment. -/
def segmentSize : Nat := 2048

/-- The largest 64-bit unsigned integer. -/
def u64Max : Nat := Nat.pow 2 64 - 1

/-- Multiplication clamped to the 64-bit unsigned range. -/
def saturatingMul (a b : Nat) : Nat := min (a * b) u64Max

/-- The Blowfish key for a track: byte `i` is the XOR of characters `i` and `i + 16`
of the hexadecimal MD5 text of the id and byte `i` of the secret. -/
def blowfishKey (trackId : String) : Bytes :=
  let hash := Bytes.ofString (md5Hex trackId)
  (List.range 16).map fun i => hash.getD i 0 ^^^ hash.getD (i + 16) 0 ^^^ secretKey.getD i 0

/-- Whether the segment at `index` is encrypted: every third one, from zero. Segment
indices are 64-bit counters: a count past the largest index has wrapped around to zero,
so it is read modulo `2 ^ 64`. -/
def isEncryptedSegment (index : Nat) : Bool := index % Nat.pow 2 64 % 3 == 0

/-- Decrypt one segment with the key schedule of the track key; trailing bytes that do
not fill a cipher block are left untouched. -/
def decryptChunk (schedule : Blowfish.Schedule) (data : Bytes) : Bytes :=
  Blowfish.cbcDecrypt schedule initialVector data

/-- Encrypt one segment with the key schedule of the track key, as the CDN does; trailing
bytes that do not fill a cipher block are left untouched. -/
def encryptChunk (schedule : Blowfish.Schedule) (data : Bytes) : Bytes :=
  Blowfish.cbcEncrypt schedule initialVector data

/-- First segment to request when seeking to `seekPosition` seconds, assuming a constant
bit rate: `size / (2048 * duration) * seekPosition`, each product saturating at the
64-bit limit, and zero when the size or the duration is unknown (zero). -/
def seekSegmentIndex (size duration seekPosition : Nat) : Nat :=
  if size = 0 ∨ duration = 0 then 0
  else saturatingMul (size / saturatingMul segmentSize duration) seekPosition

/-- Byte offset of segment `index`, saturating at the 64-bit limit. -/
def segmentOffset (index : Nat) : Nat := saturatingMul index segmentSize

/-- One segment as it is emitted: decrypted when its index marks it encrypted. -/
def emitSegment (schedule : Blowfish.Schedule) (index : Nat) (segment : Bytes) : Bytes :=
  if isEncryptedSegment index then decryptChunk schedule segment else segment

/-- The full segments at the front of a buffer, emitted from segment `index` on, and the
bytes left over (fewer than a segment). -/
def drainSegments (schedule : Blowfish.Schedule) (index : Nat) (buffer : Bytes) :
    List Bytes × Bytes :=
  go (buffer.length / segmentSize) index buffer
where
  go : Nat → Nat → Bytes → List Bytes × Bytes
    | 0, _, buffer => ([], buffer)
    | n + 1, index, buffer =>
      let (rest, left) := go n (index + 1) (buffer.drop segmentSize)
      (emitSegment schedule index (buffer.take segmentSize) :: rest, left)

/-- The items of the decrypted stream, given the index of the next segment, the
buffered bytes (fewer than a segment) and the remaining input chunks. Every chunk's
bytes are buffered and the full segments emitted at once; at the end of the input a
non-empty remainder is emitted as is; a failed chunk ends the stream with its error,
dropping the buffered bytes. -/
def stripeItems (schedule : Blowfish.Schedule) : Nat → Bytes → List (Outcome Bytes) →
    List (Outcome Bytes)
  | _, buffer, [] => if buffer.isEmpty then [] else [.ok buffer]
  | _, _, .error e :: _ => [.error e]
  | index, buffer, .ok chunk :: rest =>
    let (segments, left) := drainSegments schedule index (buffer ++ chunk)
    segments.map .ok ++ stripeItems schedule (index + segments.length) left rest

/-- One full segment as the CDN serves it: encrypted when its index marks it encrypted. -/
def encryptSegment (schedule : Blowfish.Schedule) (index : Nat) (segment : Bytes) : Bytes :=
  if isEncryptedSegment index then encryptChunk schedule segment else segment

/-- A plain file as the CDN serves it: the file is cut into segments numbered from zero,
every full segment goes through `encryptSegment`, and a trailing partial segment is
served plain. -/
def stripeEncrypt (plain : Bytes) (key : Bytes) : Bytes :=
  go (Blowfish.Schedule.expand key) (plain.length / segmentSize) 0 plain
where
  go (schedule : Blowfish.Schedule) : Nat → Nat → Bytes → Bytes
    | 0, _, rest => rest
    | n + 1, index, rest =>
      encryptSegment schedule index (rest.take segmentSize) ++
        go schedule n (index + 1) (rest.drop segmentSize)

/-- Re-chunk `input` into stripe segments and decrypt the encrypted ones.
`firstSegment` is the index of the first segment in the input, non-zero when the
download started at a byte offset. -/
def decryptStream (input : List (Outcome Bytes)) (key : Bytes) (firstSegment : Nat) :
    List (Outcome Bytes) :=
  stripeItems (Blowfish.Schedule.expand key) firstSegment [] input

end Stripe

end MusicProviders
