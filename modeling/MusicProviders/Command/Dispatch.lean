import MusicProviders.Command.Basic
import MusicProviders.Json.Parse
import MusicProviders.Provider.Logging
import MusicProviders.Text.Title
import MusicProviders.Command.Cipher
import MusicProviders.Command.Vendor
import MusicProviders.Command.Models
import MusicProviders.Command.Session

/-! # Dispatching requests

`Command.respond` answers one request; `Command.respondLine` reads the request from
a line of JSON text and writes the answer as one line, skipping blank lines.
-/

namespace MusicProviders

namespace Command

/-- Answers of the media-kind and logging operations. -/
def basicAnswer (op : String) (r : Request) : Option Answer :=
  match op with
  | "models.content_type" =>
    reply do pure (.string (ContentType.parse (← r.requireString "value")).name)
  | "models.album_type" =>
    reply do pure (.string (AlbumType.parse (← r.requireString "value")).name)
  | "logging.level" => reply do
    let level := LogLevel.parse (← r.requireString "value")
    pure (.object [("directive", .string level.filterDirective), ("level", .string level.name)])
  | "logging.init" => reply do
    let _ ← r.requireString "value"
    pure .null
  | "util.parse_title_and_version" => reply do
    let (name, version) := Text.parseTitleAndVersion (← r.requireString "title")
    pure (.object [("name", .string name), ("version", .string version)])
  | _ => none

/-- The answer to a request; the operation must be named by a string `op`. -/
def respond (r : Request) : Answer :=
  match r.get? "op" with
  | some (.string op) =>
    let handlers := [basicAnswer, cipherAnswer, vendorAnswer, modelAnswer, providerAnswer, sessionAnswer]
    match handlers.findSome? (fun h => h op r) with
    | some a => a
    | none => .badRequest ("unknown op " ++ op)
  | _ => .badRequest "missing op"

/-- An input line without its line ending (`\n` or `\r\n`). -/
def lineText (line : String) : String :=
  let cs := line.toList
  let cs := if cs.getLast? = some '\n' then cs.dropLast else cs
  let cs := if cs.getLast? = some '\r' then cs.dropLast else cs
  String.ofList cs

/-- The answer line for an input line, or `none` for a blank line. The request is read
from the line as it is, so positions in reading failures count its leading blanks. -/
def respondLine (line : String) : Option String :=
  let text := lineText line
  if text.trimAscii.isEmpty then none
  else
    match Json.parse text with
    | .ok r => some (canonical (respond r).toJson).render
    | .error e => some (Answer.badRequest ("invalid JSON: " ++ e.message)).toJson.render

end Command

end MusicProviders
