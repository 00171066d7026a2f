import MusicProviders.Json.Print
import MusicProviders.Json.Decode
import MusicProviders.Provider.Error

/-! # Requests and answers of the command interface

A request is one JSON object naming an operation in `op`; the answer is one JSON
object: `{"result": value}` on success, `{"error": kind, "message": text}` when the
operation failed, and `{"error": "DriverInput", ...}` when the request itself names
something the interface does not know.

* `Answer` — the three kinds of answer and `Answer.toJson`; `canonical` puts an answer
  in written form (members in key order, provider mappings in text order).
* `Request.field`, `Request.string`, ... — reading request fields with defaults.
* `Reading` — reading a request that may be unusable; `Request.requireString`,
  `Request.requireU64` and `Request.requireI64` read fields that must be there with
  their type (`missing string field 'id'` otherwise), and `decodeField` decodes a value
  whose mismatch is reported as `bad <what>: <mismatch>`.
-/

namespace MusicProviders

namespace Command

/-- The answer to one request. -/
inductive Answer
  /-- The operation succeeded with this value. -/
  | result (value : Json)
  /-- The operation failed. -/
  | failure (error : ProviderError)
  /-- The request was not understood. -/
  | badRequest (message : String)
deriving Inhabited

/-- The JSON form of an error, as it appears inside answers. -/
def errorJson (e : ProviderError) : Json :=
  .object [("error", .string e.kindName), ("message", .string e.message)]

/-- The JSON form of an outcome: the value as a result, or the error. -/
def outcomeJson (o : Outcome Json) : Json :=
  match o with
  | .ok v => .object [("result", v)]
  | .error e => errorJson e

namespace Answer

/-- The answer from an outcome. -/
def ofOutcome : Outcome Json → Answer
  | .ok v => .result v
  | .error e => .failure e

/-- The JSON form of an answer. -/
def toJson : Answer → Json
  | .result v => .object [("result", v)]
  | .failure e => errorJson e
  | .badRequest m => .object [("error", .string "DriverInput"), ("message", .string m)]

end Answer

mutual

/-- The written form of an answer value: object members in key order, and every array
under the key `provider_mappings` (a set of mappings, whatever it holds) in the order of
its items' compact text; inner values are put in written form first. -/
def canonical : Json → Json
  | .array items => .array (canonicalItems items)
  | .object fields => Json.mkObject (canonicalFields fields)
  | v => v

/-- The written form of every item of a list. -/
def canonicalItems : List Json → List Json
  | [] => []
  | v :: rest => canonical v :: canonicalItems rest

/-- The written form of every member of an object, provider mappings sorted. -/
def canonicalFields : List (String × Json) → List (String × Json)
  | [] => []
  | (k, v) :: rest =>
    let v := match k, canonical v with
      | "provider_mappings", .array items => .array (sortByText items)
      | _, w => w
    (k, v) :: canonicalFields rest

end

/-- The answer of an outcome whose value is shown through `toJson`. -/
def answerWith {α : Type} (toJson : α → Json) (o : Outcome α) : Answer :=
  Answer.ofOutcome (o.map toJson)

/-- Reading a request: the value read, or the message saying why the request cannot be
used. -/
abbrev Reading := Except String

/-- The answer of a reading that ends in an answer; a failed reading is a bad request. -/
def Answer.ofReading : Reading Answer → Answer
  | .ok a => a
  | .error m => .badRequest m

/-- A handler's answer from a reading that ends in a result value. -/
def reply (x : Reading Json) : Option Answer := some (Answer.ofReading (x.map .result))

/-- A handler's answer from a reading that ends in an outcome shown through `toJson`. -/
def replyWith {α : Type} (toJson : α → Json) (x : Reading (Outcome α)) : Option Answer :=
  some (Answer.ofReading (x.map fun o => answerWith toJson o))

/-- Decode a value given in a request; a mismatch names what was being read. -/
def decodeField {α : Type} (what : String) (d : Decoder α) (v : Json) : Reading α :=
  (d v).mapError fun e => "bad " ++ what ++ ": " ++ e.message

/-- A request: the JSON object read from one input line. -/
abbrev Request := Json

namespace Request

/-- A field of the request; absent fields read as `null`. -/
def field (r : Request) (key : String) : Json := (r.get? key).getD .null

/-- Whether the request has a non-null value at `key`. -/
def has (r : Request) (key : String) : Bool := !(r.field key).isNull

/-- A string field, or `fallback` when absent or not a string. -/
def stringOr (r : Request) (key : String) (fallback : String) : String :=
  ((r.field key).asString?).getD fallback

/-- A string field, or the empty string. -/
def string (r : Request) (key : String) : String := r.stringOr key ""

/-- An optional string field. -/
def optString (r : Request) (key : String) : Option String := (r.field key).asString?

/-- A natural-number field, or `fallback`. -/
def natOr (r : Request) (key : String) (fallback : Nat) : Nat :=
  ((r.field key).asU64?).getD fallback

/-- An optional natural-number field. -/
def optNat (r : Request) (key : String) : Option Nat := (r.field key).asU64?

/-- The message for a field that is absent or not of the type named. -/
def missingField (type key : String) : String :=
  "missing " ++ type ++ " field '" ++ key ++ "'"

/-- A string field that must be present. -/
def requireString (r : Request) (key : String) : Reading String :=
  match r.get? key with
  | some (.string s) => .ok s
  | _ => .error (missingField "string" key)

/-- An unsigned 64-bit field that must be present. -/
def requireU64 (r : Request) (key : String) : Reading Nat :=
  match (r.field key).asU64? with
  | some n => .ok n
  | none => .error (missingField "u64" key)

/-- A signed 64-bit field that must be present. -/
def requireI64 (r : Request) (key : String) : Reading Int :=
  match (r.field key).asI64? with
  | some n => .ok n
  | none => .error (missingField "i64" key)

/-- A list field, or the empty list. -/
def list (r : Request) (key : String) : List Json := ((r.field key).asArray?).getD []

/-- An object field as its members, or no members. -/
def members (r : Request) (key : String) : List (String × Json) :=
  ((r.field key).asObject?).getD []

end Request

end Command

end MusicProviders
