import MusicProviders.Json.Basic
import MusicProviders.Text.DebugQuote

/-! # Decoding JSON values into records

Vendor records and model values are read from JSON by decoders that either produce a
value or say, in a fixed wording, why the JSON does not have the expected shape.

* `DecodeError` and `DecodeError.message` — the kinds of mismatch: a value of the wrong
  type, a value out of range, an array of the wrong length, a missing record field, an
  unknown enumeration name, or a text of the decoder's own.
* `Json.unexpected` — how a value is described in a message: `null`, ``boolean `true` ``,
  ``integer `5` ``, ``floating point `7.5` ``, `string "x"` (quoted for diagnostics),
  `sequence` or `map`.
* `Decoder` — a function from JSON to a value or a `DecodeError`, with the primitive
  decoders (`i64`, `u64`, `u32`, `u8`, `f64`, `bool`, `string`, `list`, `option`, `unit`).
* `Decoder.record` — a record from an object or from an array of its fields in order.
  From an object, the first member (in key order) whose value fails its field's decoder
  decides the error; then the first required field that is absent (in declaration
  order). From an array, fields are decoded by position; a missing element is an error
  unless the field has a default, and surplus elements are an error.
* `Decoder.unitVariant` — an enumeration without payloads, written as its name or as a
  one-member object whose value is `null`.
* `Decoder.tagged` — an enumeration whose variant is named by a tag member inside the
  object itself.
-/

namespace MusicProviders

/-- Why a JSON value does not decode. -/
inductive DecodeError
  /-- A value of the wrong type: how it was described and what was expected. -/
  | invalidType (unexpected expected : String)
  /-- A value of the right type but out of range. -/
  | invalidValue (unexpected expected : String)
  /-- An array of the wrong length. -/
  | invalidLength (length : Nat) (expected : String)
  /-- A required record field is absent. -/
  | missingField (field : String)
  /-- A name that is none of the enumeration's names. -/
  | unknownVariant (variant : String) (expected : List String)
  /-- A decoder's own text. -/
  | custom (message : String)
deriving DecidableEq, Repr, Inhabited

namespace DecodeError

/-- A name between backticks. -/
def ticked (name : String) : String := "`" ++ name ++ "`"

/-- The list of allowed names in an unknown-name message. -/
def oneOf : List String → String
  | [a] => ticked a
  | [a, b] => ticked a ++ " or " ++ ticked b
  | names => "one of " ++ ", ".intercalate (names.map ticked)

/-- The text of a decoding error. -/
def message : DecodeError → String
  | .invalidType u e => "invalid type: " ++ u ++ ", expected " ++ e
  | .invalidValue u e => "invalid value: " ++ u ++ ", expected " ++ e
  | .invalidLength n e => "invalid length " ++ toString n ++ ", expected " ++ e
  | .missingField f => "missing field " ++ ticked f
  | .unknownVariant v [] => "unknown variant " ++ ticked v ++ ", there are no variants"
  | .unknownVariant v names => "unknown variant " ++ ticked v ++ ", expected " ++ oneOf names
  | .custom m => m

end DecodeError

/-- How a number is described in a decoding error; doubles are written positionally. -/
def JsonNumber.unexpected : JsonNumber → String
  | .unsigned n => "integer `" ++ toString n ++ "`"
  | .negative n => "integer `" ++ toString n ++ "`"
  | .float x => "floating point `" ++ x.render FloatStyle.json ++ "`"

/-- How a value is described in a decoding error. -/
def Json.unexpected : Json → String
  | .null => "null"
  | .bool b => "boolean `" ++ toString b ++ "`"
  | .number n => n.unexpected
  | .string s => "string " ++ Text.debugQuote s
  | .array _ => "sequence"
  | .object _ => "map"

/-- A way of reading a value of type `α` from JSON. -/
abbrev Decoder (α : Type) := Json → Except DecodeError α

namespace Decoder

/-- The wrong-type error for a value. -/
def mismatch {α : Type} (v : Json) (expected : String) : Except DecodeError α :=
  .error (.invalidType v.unexpected expected)

/-- A signed 64-bit integer. -/
def i64 : Decoder Int
  | .number (.unsigned n) =>
    if n ≤ JsonNumber.i64Max.toNat then .ok n
    else .error (.invalidValue (JsonNumber.unsigned n).unexpected "i64")
  | .number (.negative n) => .ok n
  | v => mismatch v "i64"

/-- An unsigned integer not above `limit`, named `name` in errors. -/
def unsignedUpTo (limit : Nat) (name : String) : Decoder Nat
  | .number (.unsigned n) =>
    if n ≤ limit then .ok n else .error (.invalidValue (JsonNumber.unsigned n).unexpected name)
  | .number (.negative n) => .error (.invalidValue (JsonNumber.negative n).unexpected name)
  | v => mismatch v name

/-- An unsigned 64-bit integer. -/
def u64 : Decoder Nat := unsignedUpTo (Nat.pow 2 64 - 1) "u64"

/-- An unsigned 32-bit integer. -/
def u32 : Decoder Nat := unsignedUpTo (Nat.pow 2 32 - 1) "u32"

/-- An unsigned 8-bit integer. -/
def u8 : Decoder Nat := unsignedUpTo 255 "u8"

/-- A double: any number, integers rounded to the nearest double. -/
def f64 : Decoder Binary64
  | .number n => .ok n.asF64
  | v => mismatch v "f64"

/-- A boolean. -/
def bool : Decoder Bool
  | .bool b => .ok b
  | v => mismatch v "a boolean"

/-- A string. -/
def string : Decoder String
  | .string s => .ok s
  | v => mismatch v "a string"

/-- Any value, as it is. -/
def value : Decoder Json := fun v => .ok v

/-- `null` only. -/
def unit : Decoder Unit
  | .null => .ok ()
  | v => mismatch v "unit"

/-- An object's members. -/
def members : Decoder (List (String × Json))
  | .object fields => .ok fields
  | v => mismatch v "a map"

/-- An array whose items all decode; the first failing item decides the error. -/
def list {α : Type} (d : Decoder α) : Decoder (List α)
  | .array items => items.mapM d
  | v => mismatch v "a sequence"

/-- `null` for `none`, or a value. -/
def option {α : Type} (d : Decoder α) : Decoder (Option α)
  | .null => .ok none
  | v => some <$> d v

/-- The error a decoder reports for a value, if any. -/
def check {α : Type} (d : Decoder α) (v : Json) : Option DecodeError :=
  match d v with
  | .ok _ => none
  | .error e => some e

/-- An enumeration without payloads from its names and values, in declaration order:
a name, or a one-member object naming the variant with a `null` value. -/
def unitVariant {α : Type} (variants : List (String × α)) : Decoder α
  | .string s =>
    match List.lookup s variants with
    | some a => .ok a
    | none => .error (.unknownVariant s (variants.map (·.1)))
  | .object [(s, payload)] =>
    match List.lookup s variants with
    | some a => (fun _ => a) <$> unit payload
    | none => .error (.unknownVariant s (variants.map (·.1)))
  | .object _ => .error (.invalidValue "map" "map with a single key")
  | v => mismatch v "string or map"

/-- How a record field may be absent. -/
inductive Presence
  /-- The field must be present. -/
  | required
  /-- An absent member of an object reads as `none`; an array must still have it. -/
  | optional
  /-- An absent field, in an object or an array, reads as its default. -/
  | defaulted
deriving DecidableEq, Repr

/-- A record field: its name, how it may be absent, and the check of a present value. -/
structure Field where
  name : String
  presence : Presence
  check : Json → Option DecodeError

/-- A field that must be present. -/
def Field.req {α : Type} (name : String) (d : Decoder α) : Field := ⟨name, .required, Decoder.check d⟩

/-- An optional field (`null` or absent reads as `none`). -/
def Field.opt {α : Type} (name : String) (d : Decoder α) : Field :=
  ⟨name, .optional, Decoder.check (option d)⟩

/-- A field with a default. -/
def Field.dflt {α : Type} (name : String) (d : Decoder α) : Field := ⟨name, .defaulted, Decoder.check d⟩

/-- The values of a record's fields by name, once the record has been checked. -/
structure Fields where
  lookup : String → Option Json

namespace Fields

/-- A required field. -/
def req {α : Type} (r : Fields) (name : String) (d : Decoder α) : Except DecodeError α :=
  match r.lookup name with
  | some v => d v
  | none => .error (.missingField name)

/-- An optional field. -/
def opt {α : Type} (r : Fields) (name : String) (d : Decoder α) : Except DecodeError (Option α) :=
  match r.lookup name with
  | some v => option d v
  | none => .ok none

/-- A field with a default. -/
def dflt {α : Type} (r : Fields) (name : String) (d : Decoder α) (fallback : α) :
    Except DecodeError α :=
  match r.lookup name with
  | some v => d v
  | none => .ok fallback

end Fields

/-- The first error of a record given as object members: a present field's failing
check in key order, then an absent required field in declaration order. -/
def memberError (fields : List Field) (members : List (String × Json)) : Option DecodeError :=
  match members.findSome? (fun m => (fields.find? (·.name == m.1)).bind (fun f => f.check m.2)) with
  | some e => some e
  | none =>
    (fields.find? (fun f => f.presence == .required && !(members.any (·.1 == f.name)))).map
      (fun f => .missingField f.name)

/-- The first error of a record given as an array of its fields in order; `expected`
names the record for a short array, `surplus` what a long one should have been. -/
def elementError (expected surplus : String) (fields : List Field) (items : List Json) :
    Option DecodeError :=
  let positional := (fields.zip (List.range fields.length)).findSome? fun (f, i) =>
    match items[i]? with
    | some v => f.check v
    | none => if f.presence == .defaulted then none else some (.invalidLength i expected)
  match positional with
  | some e => some e
  | none =>
    if items.length > fields.length then some (.invalidLength items.length surplus)
    else none

/-- What a record of `count` fields is called when an array has the wrong length. -/
def recordLength (what : String) (count : Nat) : String :=
  what ++ " with " ++ toString count ++ (if count = 1 then " element" else " elements")

/-- The positions of a record's fields: each field name with the array item at its index. -/
def positional (fields : List Field) (items : List Json) : Fields :=
  ⟨fun name => ((fields.zip items).find? (·.1.name == name)).map (·.2)⟩

/-- What a sequence of `count` items was expected to be, in a buffered value. -/
def inSequence (count : Nat) : String :=
  toString count ++ (if count = 1 then " element" else " elements") ++ " in sequence"

/-- Decode a record described as `what` (`struct Name`) with the given fields, building
the value from the checked fields; an array with too many items is reported with
`surplus`. -/
def recordAs {α : Type} (what surplus : String) (fields : List Field)
    (build : Fields → Except DecodeError α) : Decoder α
  | .object members =>
    match memberError fields members with
    | some e => .error e
    | none => build ⟨fun name => List.lookup name members⟩
  | .array items =>
    match elementError (recordLength what fields.length) surplus fields items with
    | some e => .error e
    | none => build (positional fields items)
  | v => mismatch v what

/-- Decode the record type `name`. -/
def record {α : Type} (name : String) (fields : List Field) (build : Fields → Except DecodeError α) :
    Decoder α :=
  recordAs ("struct " ++ name) "fewer elements in array" fields build

/-- Decode the payload of a variant of a tagged enumeration, described as `what`. The
payload was buffered when the tag was read, so an array with too many items reports
how many the record took. -/
def variantRecord {α : Type} (what : String) (fields : List Field)
    (build : Fields → Except DecodeError α) : Decoder α :=
  recordAs what (inSequence fields.length) fields build

/-- A pair from a two-item array. -/
def pair {α β : Type} (da : Decoder α) (db : Decoder β) : Decoder (α × β)
  | .array items =>
    let expected := "a tuple of size 2"
    match items with
    | [] => .error (.invalidLength 0 expected)
    | [a] => do let _ ← da a; .error (.invalidLength 1 expected)
    | [a, b] => do pure (← da a, ← db b)
    | a :: b :: _ => do
      let _ ← da a
      let _ ← db b
      .error (.invalidLength items.length "fewer elements in array")
  | v => mismatch v "a tuple of size 2"

/-- An enumeration whose variant is named by the member `tag` of an object (or by the
first item of an array). `body` reads the variant with the other members. -/
def tagged {α : Type} (tag enumName : String) (variants : List String)
    (body : String → Json → Except DecodeError α) : Decoder α
  | .object members =>
    match List.lookup tag members with
    | none => .error (.missingField tag)
    | some (.string s) =>
      if variants.contains s then body s (.object (members.filter (·.1 != tag)))
      else .error (.unknownVariant s variants)
    | some v => mismatch v "variant identifier"
  | .array [] => .error (.missingField tag)
  | .array (.string s :: rest) =>
    if variants.contains s then body s (.array rest) else .error (.unknownVariant s variants)
  | .array (v :: _) => mismatch v "variant identifier"
  | v => mismatch v ("internally tagged enum " ++ enumName)

end Decoder

end MusicProviders
