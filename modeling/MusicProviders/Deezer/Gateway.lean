import MusicProviders.Media.Stream
import MusicProviders.Text.Decimal
import MusicProviders.Provider.Error

/-! # Deezer gateway data

The private gateway answers with loosely typed JSON: numbers arrive as numbers or as
decimal strings. This module reads those answers and builds the listen report.

* `valueToU64` — a non-negative integer number, or a string `parseU64?` accepts.
* `valueToString` — a number's text, or a non-empty string.
* `SongData` — the song record of a track: id, track token, duration, and the file size
  of each format (`FILESIZE_<format>`, when positive).
* `listenParams` — the report of a finished stream: elapsed seconds since the stream
  started (never negative), the seconds actually played capped by it, whether the
  stream was started at an offset, and the stream's format and id.
-/

namespace MusicProviders

namespace Deezer

/-- An unsigned integer from a number or a decimal string. -/
def valueToU64 : Option Json → Option Nat
  | some (.number n) => n.asU64?
  | some (.string s) => Text.parseU64? s
  | _ => none

/-- A string from a number's text or a non-empty string. -/
def valueToString : Option Json → Option String
  | some (.number n) => some n.text
  | some (.string s) => if s.isEmpty then none else some s
  | _ => none

/-- The gateway's song record. -/
structure SongData where
  id : String
  trackToken : Option String
  duration : Option Nat
  raw : Json
deriving Repr, Inhabited

namespace SongData

/-- Read a song record; it must carry an id. -/
def fromResults (results : Json) : Outcome SongData :=
  match valueToString (results.get? "SNG_ID") with
  | none => .error (.invalidData "song data without SNG_ID")
  | some id =>
    .ok ⟨id, (results.get? "TRACK_TOKEN").bind Json.asString?,
      valueToU64 (results.get? "DURATION"), results⟩

/-- The file size of a format, when known and positive. -/
def fileSize (s : SongData) (format : String) : Option Nat :=
  (valueToU64 (s.raw.get? ("FILESIZE_" ++ format))).filter (· > 0)

end SongData

/-- The device version reported with listens. -/
def listenDeviceVersion : String := "10020230525142740"

/-- A signed integer wrapped into the 64-bit two's complement range. -/
def wrapI64 (n : Int) : Int := (n + Int.pow 2 63) % Int.pow 2 64 - Int.pow 2 63

/-- The `params` object of a listen report for finished stream details at time `now`. -/
def listenParams (d : StreamDetails) (now : Int) : Json :=
  let startTs := ((List.lookup "start_ts" d.data).bind Json.asI64?).getD now
  let elapsed := max (wrapI64 (now - startTs)) 0
  let played := match d.secondsStreamed with
    | some seconds => min seconds.toInt64Saturating elapsed
    | none => elapsed
  let format := (d.dataStr "format").getD "MP3_128"
  let streamId := (d.dataStr "stream_id").getD ""
  let seeked := ((List.lookup "seek_position" d.data).bind Json.asU64?).any (· > 0)
  .mkObject [
    ("__type", .string "KEY_VALUE"),
    ("media", .mkObject [("id", .string d.itemId), ("type", .string "song"),
      ("format", .string format)]),
    ("type", Json.nat 1),
    ("stat", .mkObject [("seek", Json.nat (if seeked then 1 else 0)), ("pause", Json.nat 0),
      ("sync", Json.nat 0), ("next", .bool false)]),
    ("lt", Json.int played),
    ("ctxt", .mkObject [("t", .string "search_page"), ("id", .string d.itemId)]),
    ("dev", .mkObject [("v", .string listenDeviceVersion), ("t", Json.nat 0)]),
    ("ls", .array []),
    ("ts_listen", Json.int startTs),
    ("is_shuffle", .bool false),
    ("stream_id", .string streamId)]

end Deezer

end MusicProviders
