import MusicProviders.Command.Basic
import MusicProviders.Cipher.Stripe

/-! # Cipher operations

Digests, track keys, segment arithmetic and stripe decryption, on request fields.
Byte strings in requests are hexadecimal text or `{"sample": n}`, the `n` bytes
`i % 251`; keys are given as `key_hex` or derived from `track_id`.
-/

namespace MusicProviders

namespace Command

/-- The sample byte string of length `n`: byte `i` is `i % 251`. -/
def sampleBytes (n : Nat) : Bytes := (List.range n).map fun i => UInt8.ofNat (i % 251)

/-- Bytes given in a request: hexadecimal text or a sample length. -/
def readBytes (v : Json) : Reading Bytes :=
  match v with
  | .string s => (Bytes.decodeHex s).mapError fun e => "bad hex: " ++ e.message
  | _ =>
    match (v.get? "sample").bind Json.asU64? with
    | some n => .ok (sampleBytes n)
    | none => .error "bytes must be a hex string or \x7b\"sample\": n\x7d"

/-- The key of a request: `key_hex` (sixteen bytes) when given, else the key of
`track_id`. -/
def readKey (r : Request) : Reading Bytes :=
  match r.optString "key_hex" with
  | some hex => do
    let key ← (Bytes.decodeHex hex).mapError fun e => "bad key hex: " ++ e.message
    if key.length = 16 then pure key else .error "key must be 16 bytes"
  | none => do pure (Stripe.blowfishKey (← r.requireString "track_id"))

/-- One input chunk of a stream: bytes, or `{"error": message}` for a failed read. -/
def readChunk (v : Json) : Reading (Outcome Bytes) :=
  match (v.get? "error").bind Json.asString? with
  | some message => .ok (.error (.api message))
  | none => (readBytes v).map .ok

/-- The JSON of an emitted stream: every item's length or error, and all bytes. -/
def streamJson (items : List (Outcome Bytes)) : Json :=
  let item : Outcome Bytes → Json
    | .ok bytes => Json.nat bytes.length
    | .error e => errorJson e
  let data := items.flatMap fun
    | .ok bytes => bytes
    | .error _ => []
  .object [("data", .string (Bytes.toHex data)), ("items", .array (items.map item))]

/-- Answers of the cipher operations. -/
def cipherAnswer (op : String) (r : Request) : Option Answer :=
  match op with
  | "crypto.md5_hex" => reply do pure (.string (md5Hex (← r.requireString "data")))
  | "crypto.blowfish_key" =>
    reply do pure (.string (Bytes.toHex (Stripe.blowfishKey (← r.requireString "track_id"))))
  | "crypto.is_encrypted_segment" =>
    reply do pure (.bool (Stripe.isEncryptedSegment (← r.requireU64 "index")))
  | "crypto.segment_offset" =>
    reply do pure (Json.nat (Stripe.segmentOffset (← r.requireU64 "index")))
  | "crypto.seek" => reply do
    let size ← r.requireU64 "size"
    let duration ← r.requireU64 "duration"
    let segment := Stripe.seekSegmentIndex size duration (← r.requireU64 "seek_position")
    pure (.object [("offset", Json.nat (Stripe.segmentOffset segment)),
      ("segment", Json.nat segment)])
  | "crypto.decrypt_chunk" => reply do
    let data ← readBytes (r.field "data")
    let key ← readKey r
    pure (.string (Bytes.toHex (Stripe.decryptChunk (Blowfish.Schedule.expand key) data)))
  | "crypto.decrypt_stream" => reply do
    let key ← readKey r
    let chunks ← (r.list "chunks").mapM readChunk
    pure (streamJson (Stripe.decryptStream chunks key (r.natOr "first_segment" 0)))
  | _ => none

end Command

end MusicProviders
