import MusicProviders.Command.Basic
import MusicProviders.Media.Decode
import MusicProviders.Media.Encode
import MusicProviders.Media.Stream

/-! # Model operations

Reading models from their JSON form and the helpers defined on them.

* `models.helpers` — a model read from `value` (a failure is a `Parse` error), its
  helpers and its JSON form again.
* `models.stream_details` — stream details built from request fields, their text
  entries, their diagnostic form, and finishing them (no callback, so nothing to do).
-/

namespace MusicProviders

namespace Command

/-- Read a model; a mismatch is a parse failure. -/
def readModel {α : Type} (d : Decoder α) (v : Json) : Outcome α :=
  (d v).mapError fun e => .parse e.message

/-- Answers of `models.helpers`. -/
def modelHelpers (r : Request) : Reading Answer := do
  let v := r.field "value"
  let separator := r.stringOr "separator" ", "
  match ← r.requireString "kind" with
  | "track" => pure <| answerOf (readModel Decoder.track v) fun t => .object [
      ("isrc", Json.optString t.isrc),
      ("playlist_position", Json.optNat t.playlistPosition),
      ("artists_string", .string (artistsString t.artists separator)),
      ("roundtrip", t.toJson)]
  | "album" => pure <| answerOf (readModel Decoder.album v) fun a => .object [
      ("artists_string", .string (artistsString a.artists separator)),
      ("roundtrip", a.toJson)]
  | "artist" => pure <| answerOf (readModel Decoder.artist v) fun a => .object [
      ("item_mapping", (a.toItemMapping (r.stringOr "provider_instance" "x--1")).toJson),
      ("roundtrip", a.toJson)]
  | "playlist" => pure (answerOf (readModel Decoder.playlist v) Playlist.toJson)
  | "search_results" => pure <| answerOf (readModel Decoder.searchResults v) fun s => .object [
      ("len", Json.nat s.count), ("is_empty", .bool (s.count == 0))]
  | kind => .error ("unknown model kind " ++ kind)
where
  answerOf {α : Type} (o : Outcome α) (render : α → Json) : Answer := Answer.ofOutcome (o.map render)

/-- Stream details from request fields. -/
def requestStreamDetails (r : Request) : StreamDetails :=
  { StreamDetails.new (r.stringOr "provider" "p--1") (r.stringOr "item_id" "1") with
    audioFormat := AudioFormat.ofContentType
      ((r.optString "content_type").map ContentType.parse |>.getD .unknown)
    duration := r.optNat "duration"
    size := r.optNat "size"
    expires := (r.field "expires").asI64?
    data := r.members "data"
    direct := r.optString "direct"
    secondsStreamed := (r.field "seconds_streamed").asF64? }

/-- Answers of `models.stream_details`. -/
def streamDetailsAnswer (r : Request) : Answer :=
  let d := requestStreamDetails r
  let keys := (r.list "keys").filterMap Json.asString?
  .result (.object [
    ("data_str", .mkObject (keys.map fun k => (k, Json.optString (d.dataStr k)))),
    ("debug", .string d.debugText),
    ("finish", .object [("result", .null)])])

/-- Answers of the model operations. -/
def modelAnswer (op : String) (r : Request) : Option Answer :=
  match op with
  | "models.helpers" => some (Answer.ofReading (modelHelpers r))
  | "models.stream_details" => some (streamDetailsAnswer r)
  | _ => none

end Command

end MusicProviders
