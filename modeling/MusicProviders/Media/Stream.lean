import MusicProviders.Media.Model
import MusicProviders.Media.Encode
import MusicProviders.Json.Print
import MusicProviders.Text.DebugQuote

/-! # Stream details

What a provider hands out to play an item: where it comes from, its format and size,
and a provider-specific data blob (tokens, formats, start time) that later stages of
playback read back.

* `StreamDetails` — the details, with `StreamDetails.new`, `StreamDetails.dataStr` and
  the JSON form `StreamDetails.toJson`.
* `StreamDetails.debugText` — the diagnostic dump of the details, with the data blob
  written as a structure of tagged JSON values.
-/

namespace MusicProviders

/-- How to stream one item. -/
structure StreamDetails where
  provider : String
  itemId : String
  audioFormat : AudioFormat
  duration : Option Nat
  size : Option Nat
  expires : Option Int
  /-- Provider-specific data, an object's members sorted by key. -/
  data : List (String × Json)
  direct : Option String
  secondsStreamed : Option Binary64
  /-- Whether finishing the stream reports back to the provider. -/
  hasCallback : Bool
deriving Repr, Inhabited

namespace StreamDetails

/-- Details of unknown format and size, without data. -/
def new (provider itemId : String) : StreamDetails :=
  ⟨provider, itemId, AudioFormat.ofContentType .unknown, none, none, none, [], none, none, false⟩

/-- A text entry of the data blob. -/
def dataStr (d : StreamDetails) (key : String) : Option String :=
  (List.lookup key d.data).bind Json.asString?

/-- The JSON form of the details: every field, absent ones as `null`, and whether a
callback is attached. -/
def toJson (d : StreamDetails) : Json :=
  .mkObject [("provider", .string d.provider), ("item_id", .string d.itemId),
    ("audio_format", d.audioFormat.toJson), ("duration", Json.optNat d.duration),
    ("size", Json.optNat d.size), ("expires", (d.expires.map Json.int).getD .null),
    ("data", .object d.data), ("direct", Json.optString d.direct),
    ("seconds_streamed", (d.secondsStreamed.map (Json.number ∘ .float)).getD .null),
    ("has_callback", .bool d.hasCallback)]

end StreamDetails

namespace Json

mutual

/-- Diagnostic form of a JSON value: `Null`, `Bool(true)`, `Number(5)`,
`String("x")`, `Array [...]`, `Object {...}`. -/
def debugText : Json → String
  | .null => "Null"
  | .bool b => "Bool(" ++ toString b ++ ")"
  | .number n => "Number(" ++ n.text ++ ")"
  | .string s => "String(" ++ Text.debugQuote s ++ ")"
  | .array items => "Array [" ++ debugItems items ++ "]"
  | .object fields => "Object \x7b" ++ debugMembers fields ++ "\x7d"

/-- Items separated by `, `. -/
def debugItems : List Json → String
  | [] => ""
  | [v] => debugText v
  | v :: rest => debugText v ++ ", " ++ debugItems rest

/-- Members `"key": value` separated by `, `. -/
def debugMembers : List (String × Json) → String
  | [] => ""
  | [(k, v)] => Text.debugQuote k ++ ": " ++ debugText v
  | (k, v) :: rest => Text.debugQuote k ++ ": " ++ debugText v ++ ", " ++ debugMembers rest

end

end Json

/-- Diagnostic form of an optional value. -/
def debugOption {α : Type} (render : α → String) : Option α → String
  | some a => "Some(" ++ render a ++ ")"
  | none => "None"

/-- Diagnostic form of an audio format. -/
def AudioFormat.debugText (f : AudioFormat) : String :=
  "AudioFormat \x7b content_type: " ++ f.contentType.debugName ++ ", sample_rate: " ++
    debugOption toString f.sampleRate ++ ", bit_depth: " ++ debugOption toString f.bitDepth ++
    ", bit_rate: " ++ debugOption toString f.bitRate ++ " \x7d"

/-- Diagnostic form of the details. -/
def StreamDetails.debugText (d : StreamDetails) : String :=
  "StreamDetails \x7b provider: " ++ Text.debugQuote d.provider ++
    ", item_id: " ++ Text.debugQuote d.itemId ++
    ", audio_format: " ++ d.audioFormat.debugText ++
    ", duration: " ++ debugOption toString d.duration ++
    ", size: " ++ debugOption toString d.size ++
    ", expires: " ++ debugOption toString d.expires ++
    ", data: \x7b" ++ Json.debugMembers d.data ++ "\x7d" ++
    ", direct: " ++ debugOption Text.debugQuote d.direct ++
    ", seconds_streamed: " ++ debugOption (Binary64.render FloatStyle.debug) d.secondsStreamed ++
    ", callback: " ++ toString d.hasCallback ++ " \x7d"

end MusicProviders
