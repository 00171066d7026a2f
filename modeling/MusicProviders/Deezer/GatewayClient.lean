import MusicProviders.Deezer.Gateway
import MusicProviders.Http.Exchange

/-! # The Deezer gateway client

The private gateway serves playback: song records with their track tokens, the media URL
service, track mixes and listen reports. A gateway session is opened from the OAuth
token: a first request obtains a session cookie, then `deezer.getUserData` yields the
CSRF token (`checkForm`), the license token, the country and whether lossless audio is
allowed.

* `GatewayUrls` — the three endpoints (`GatewayUrls.default` are Deezer's own).
* `GatewayClient.connect` — open a session; a user id of zero (or none) means the token
  was rejected.
* `GatewayClient.callApi` — one gateway method: the answer must be JSON, and a non-empty
  `error` object or array fails the call; the result is the `results` member.
* `songData`, `trackUrl`, `trackMix`, `logListen` — the calls playback needs.
-/

namespace MusicProviders

namespace Deezer

/-- Endpoints of the gateway client. -/
structure GatewayUrls where
  gateway : String
  media : String
  session : String
deriving DecidableEq, Repr, Inhabited

/-- Deezer's own endpoints. -/
def GatewayUrls.default : GatewayUrls :=
  ⟨"https://www.deezer.com/ajax/gw-light.php", "https://media.deezer.com/v1/get_url",
    "https://api.deezer.com/platform/generic/track/3135556"⟩

/-- An open gateway session. -/
structure GatewayClient where
  urls : GatewayUrls
  accessToken : String
  apiToken : String
  licenseToken : String
  userCountry : String
  lossless : Bool
deriving DecidableEq, Repr, Inhabited

/-- A resolved media URL. -/
structure TrackUrl where
  url : String
  /-- The format, such as `FLAC` or `MP3_320`. -/
  format : String
  /-- When the URL stops working, in seconds since the epoch. -/
  expires : Option Int
deriving DecidableEq, Repr, Inhabited

/-- Whether a gateway `error` member reports an error: a non-empty object or array. -/
def reportsError : Json → Bool
  | .object fields => !fields.isEmpty
  | .array items => !items.isEmpty
  | _ => false

/-- The first element of an array. -/
def firstOf? : Option Json → Option Json
  | some (.array (x :: _)) => some x
  | _ => none

namespace GatewayClient

/-- A client before `deezer.getUserData` has answered. -/
def fresh (accessToken : String) (urls : GatewayUrls) : GatewayClient :=
  ⟨urls, accessToken, "null", "", "", false⟩

/-- Call a gateway method and return its `results` member. -/
def callApi (gw : GatewayClient) (method : String) (args : Option Json) : Http Json := do
  let params := [("api_version", "1.0"), ("api_token", gw.apiToken), ("input", "3"),
    ("method", method)]
  let body := args.getD (.object [])
  let answer ← Http.send (((Http.Request.plain .post gw.urls.gateway).withQuery params).withJson body)
  match Json.parse answer.text with
  | .error e =>
    Http.fail (.api ("Invalid gateway response (status " ++ Http.statusText answer.status ++
      "): " ++ e.message))
  | .ok result =>
    match result.get? "error" with
    | some err =>
      if reportsError err then Http.fail (.api (method ++ ": " ++ err.render))
      else pure ((result.get? "results").getD .null)
    | none => pure ((result.get? "results").getD .null)

/-- Ask for the session cookie; any answer will do. -/
def requestSessionCookie (gw : GatewayClient) : Http Unit := do
  let _ ← Http.send ((Http.Request.plain .get gw.urls.session).withHeader "authorization"
    ("Bearer " ++ gw.accessToken))
  pure ()

/-- Read the account's tokens, country and lossless option from `deezer.getUserData`. -/
def refreshUserData (gw : GatewayClient) : Http GatewayClient := do
  let userData ← gw.callApi "deezer.getUserData" none
  let user := userData.get? "USER"
  let userId := (valueToU64 (user.bind (·.get? "USER_ID"))).getD 0
  if userId = 0 then Http.fail (.loginFailed "Deezer gateway rejected the access token")
  else
    let options := user.bind (·.get? "OPTIONS")
    let losslessOption := options.bind fun o =>
      (o.get? "web_lossless").or ((o.get? "web_sound_quality").bind (·.get? "lossless"))
    pure { gw with
      apiToken := ((userData.get? "checkForm").bind Json.asString?).getD "null"
      licenseToken := ((options.bind (·.get? "license_token")).bind Json.asString?).getD ""
      lossless := (losslessOption.bind Json.asBool?).getD false
      userCountry := ((userData.get? "COUNTRY").bind Json.asString?).getD "" }

/-- Open a gateway session from an access token. -/
def connect (accessToken : String) (urls : GatewayUrls) : Http GatewayClient := do
  let gw := fresh accessToken urls
  gw.requestSessionCookie
  gw.refreshUserData

/-- The song record of a track; an empty answer means the track does not exist. -/
def songData (gw : GatewayClient) (trackId : String) : Http SongData := do
  let results ← gw.callApi "song.getData" (some (.mkObject [("sng_id", .string trackId)]))
  if results.isNull then Http.fail (.notFound ("track " ++ trackId))
  else Http.lift (SongData.fromResults results)

/-- The formats to ask for, best first: FLAC only when lossless audio is allowed. -/
def formats (gw : GatewayClient) : List Json :=
  ((if gw.lossless then ["FLAC"] else []) ++ ["MP3_320", "MP3_128"]).map fun f =>
    .mkObject [("cipher", .string "BF_CBC_STRIPE"), ("format", .string f)]

/-- The media service's answer read as a track URL. -/
def readTrackUrl (trackId : String) (result : Json) : Outcome TrackUrl := do
  let some entry := firstOf? (result.get? "data")
    | .error (.api "media service returned no data")
  if let some err := firstOf? (entry.get? "errors") then
    .error (.api (((err.get? "message").bind Json.asString?).getD "Unknown error"))
  else
    let some media := firstOf? (entry.get? "media")
      | .error (.api ("no media for track " ++ trackId))
    let some url := ((firstOf? (media.get? "sources")).bind (·.get? "url")).bind Json.asString?
      | .error (.invalidData "media without source url")
    pure ⟨url, ((media.get? "format").bind Json.asString?).getD "MP3_128",
      (media.get? "exp").bind Json.asI64?⟩

/-- The encrypted media URL of a track, with its song record. -/
def trackUrl (gw : GatewayClient) (trackId : String) : Http (TrackUrl × SongData) := do
  let song ← gw.songData trackId
  let some token := song.trackToken
    | Http.fail (.invalidData ("track " ++ trackId ++ " has no token"))
  let payload := Json.mkObject [
    ("license_token", .string gw.licenseToken),
    ("media", .array [.mkObject [("type", .string "FULL"), ("formats", .array gw.formats)]]),
    ("track_tokens", .array [.string token])]
  let answer ← Http.send ((Http.Request.plain .post gw.urls.media).withJson payload)
  let result ← Http.lift answer.json
  let url ← Http.lift (readTrackUrl trackId result)
  pure (url, song)

/-- The ids of the tracks of a track's mix. -/
def trackMix (gw : GatewayClient) (trackId : String) : Http (List String) := do
  let results ← gw.callApi "song.getSearchTrackMix" (some (.mkObject [("SNG_ID", .string trackId)]))
  match results.get? "data" with
  | some (.array tracks) => pure (tracks.filterMap fun t => valueToString (t.get? "SNG_ID"))
  | _ => pure []

/-- Report playback: a track about to play, and a finished stream at time `now`; with
neither there is nothing to send. -/
def logListen (gw : GatewayClient) (next : Option String) (last : Option StreamDetails)
    (now : Int) : Http Unit := do
  let members :=
    (next.map fun id => ("next_media", Json.mkObject [("media",
      .mkObject [("id", .string id), ("type", .string "song")])])).toList ++
    (last.map fun d => ("params", listenParams d now)).toList
  if members.isEmpty then pure ()
  else
    let _ ← gw.callApi "log.listen" (some (.mkObject members))
    pure ()

end GatewayClient

end Deezer

end MusicProviders
