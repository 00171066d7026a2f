import MusicProviders.Json.Basic
import MusicProviders.Media.Basic
import MusicProviders.Provider.Error
import MusicProviders.Text.Decimal

/-! # Deezer API rules

How the Deezer REST API reports failures and what it accepts.

* `checkError` — an answer whose `error` member is an object is a failure: code 800 is
  a missing item, type `OAuthException` a rejected login, anything else a vendor error;
  the message defaults to "Unknown error". Any other answer passes unchanged.
* `libraryKind` — the library collection of a media type; only artists, albums, tracks
  and playlists have one.
* `numericId` — Deezer ids are 64-bit integers; anything else is rejected before a
  request is made.
-/

namespace MusicProviders

namespace Deezer

/-- The error code of a missing item. -/
def errorCodeNotFound : Nat := 800

/-- The error type of a rejected login. -/
def errorTypeOAuth : String := "OAuthException"

/-- Pass an answer through, or turn its error object into a failure. -/
def checkError (data : Json) : Outcome Json :=
  match data.get? "error" with
  | some (.object fields) =>
    let error := Json.object fields
    let message := ((error.get? "message").bind Json.asString?).getD "Unknown error"
    let code := (error.get? "code").bind Json.asU64?
    let kind := (error.get? "type").bind Json.asString?
    if code = some errorCodeNotFound then .error (.notFound message)
    else if kind = some errorTypeOAuth then .error (.loginFailed message)
    else .error (.api message)
  | _ => .ok data

/-- The library collection of a media type. -/
def libraryKind : MediaType → Outcome String
  | .artist => .ok "artists"
  | .album => .ok "albums"
  | .track => .ok "tracks"
  | .playlist => .ok "playlists"
  | other => .error (.notImplemented ("library edit of " ++ other.name))

/-- The id itself when it is a 64-bit integer. -/
def numericId (id : String) : Outcome String :=
  match Text.parseI64? id with
  | some _ => .ok id
  | none => .error (.invalidData ("invalid Deezer id: " ++ id))

end Deezer

end MusicProviders
