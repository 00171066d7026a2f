import MusicProviders.Command.Basic
import MusicProviders.Deezer.Convert
import MusicProviders.Deezer.Rules
import MusicProviders.Deezer.Auth
import MusicProviders.Deezer.Gateway
import MusicProviders.Soundcloud.Convert
import MusicProviders.Soundcloud.Rules
import MusicProviders.Media.Encode
import MusicProviders.Media.Decode

/-! # Vendor operations

Record mapping, page decoding, error and status rules, sign-in helpers and gateway
data of the two vendors, on request fields.
-/

namespace MusicProviders

namespace Command

/-- A position given in a request, `bare` when absent or `null`. -/
def requestPosition (r : Request) : Reading TrackPosition :=
  match r.field "position" with
  | .null => .ok .bare
  | v => decodeField "position" Decoder.trackPosition v

/-- The Deezer mapper of a request, with the defaults of the interface. -/
def deezerMapper (r : Request) : Deezer.Mapper :=
  let m := r.field "mapper"
  ⟨((m.get? "domain").bind Json.asString?).getD "deezer",
    ((m.get? "instance_id").bind Json.asString?).getD "deezer--abc",
    (m.get? "user_id").bind Json.asI64?, (m.get? "user_country").bind Json.asString?⟩

/-- The SoundCloud mapper of a request, with the defaults of the interface. -/
def soundcloudMapper (r : Request) : Soundcloud.Mapper :=
  let m := r.field "mapper"
  ⟨((m.get? "domain").bind Json.asString?).getD "soundcloud",
    ((m.get? "instance_id").bind Json.asString?).getD "soundcloud--xyz"⟩

/-- Map a Deezer record of the requested kind. -/
def deezerMap (r : Request) : Reading Answer := do
  let m := deezerMapper r
  let v := r.field "value"
  match ← r.requireString "kind" with
  | "artist" => pure (answerWith Artist.toJson (m.artistFromValue v))
  | "album" => pure (answerWith Album.toJson (m.albumFromValue v))
  | "playlist" => pure (answerWith Playlist.toJson (m.playlistFromValue v))
  | "track" => pure (answerWith Track.toJson (m.trackFromValue v (← requestPosition r)))
  | kind => .error ("unknown deezer kind " ++ kind)

/-- Map a SoundCloud record of the requested kind; a track is decoded first, then its
uploader when given. -/
def soundcloudMap (r : Request) : Reading Answer := do
  let m := soundcloudMapper r
  let v := r.field "value"
  match ← r.requireString "kind" with
  | "user" => pure (answerWith Artist.toJson (m.artistFromValue v))
  | "playlist" => pure (answerWith Playlist.toJson (m.playlistFromValue v))
  | "track" =>
    let position ← requestPosition r
    pure <| answerWith Track.toJson do
      let track ← Soundcloud.decode "track" Soundcloud.trackDecoder v
      let artist ← match r.field "artist" with
        | .null => pure none
        | a => some <$> Soundcloud.decode "user" Soundcloud.userDecoder a
      m.parseTrack track artist position
  | kind => .error ("unknown soundcloud kind " ++ kind)

/-- The summary of a track record used to pick a stream. -/
def trackInfoJson (t : Soundcloud.TrackRecord) : Json :=
  .mkObject [("id", Json.optString t.id), ("duration", Json.optNat t.duration),
    ("user_id", Json.optString (t.user.bind (·.id))),
    ("track_authorization", Json.optString t.trackAuthorization),
    ("transcodings", .array (t.transcodings.map fun tr =>
      .mkObject [("url", Json.optString tr.url), ("preset", Json.optString tr.preset),
        ("is_progressive", .bool tr.isProgressive), ("mime_type", Json.optString tr.mimeType)]))]

/-- The environment a request describes. -/
def requestEnv (r : Request) (key : String) : Option String :=
  ((r.field "env").get? key).bind Json.asString?

/-- The HTTP status given in a request, kept to 16 bits (larger numbers wrap around);
only a three-digit value is a status code, anything else is invalid data. -/
def requestStatus (r : Request) : Reading (Outcome Nat) := do
  let status := (← r.requireU64 "status") % Nat.pow 2 16
  if 100 ≤ status ∧ status ≤ 999 then pure (.ok status)
  else pure (.error (.invalidData "invalid status code"))

/-- Answers of the vendor operations. -/
def vendorAnswer (op : String) (r : Request) : Option Answer :=
  match op with
  | "deezer.map" => some (Answer.ofReading (deezerMap r))
  | "soundcloud.map" => some (Answer.ofReading (soundcloudMap r))
  | "deezer.decode_page" =>
    some (answerWith (fun (p : Deezer.PageRecord) => .mkObject [("data", .array p.data),
      ("next", Json.optString p.next), ("total", Json.optNat p.total)])
      (Deezer.decodePage (r.field "value")))
  | "deezer.check_error" => some (Answer.ofOutcome (Deezer.checkError (r.field "value")))
  | "deezer.parse_access_token" =>
    replyWith Json.string do pure (Deezer.parseAccessToken (← r.requireString "body"))
  | "deezer.authorize_url" => reply do
    let app := Deezer.OAuthApp.new (← r.requireString "app_id") ""
    pure (.string (app.authorizeUrl (← r.requireString "callback_url")))
  | "deezer.library_kind" => replyWith Json.string do
    pure (Deezer.libraryKind (← decodeField "media_type" Decoder.mediaType (r.field "media_type")))
  | "deezer.numeric_id" =>
    replyWith Json.string do pure (Deezer.numericId (← r.requireString "id"))
  | "deezer.oauth_from_env" =>
    some (answerWith (fun (app : Deezer.OAuthApp) => .mkObject [("app_id", .string app.appId),
      ("app_secret", .string app.appSecret)]) (Deezer.OAuthApp.fromEnv (requestEnv r)))
  | "deezer.oauth_debug" =>
    let app := Deezer.OAuthApp.new (r.stringOr "app_id" "1") (r.stringOr "app_secret" "s")
    let app := match r.optString "token_url" with
      | some url => { app with tokenUrl := url }
      | none => app
    some (.result (.string app.debugText))
  | "gateway.value_to_u64" => some (.result (Json.optNat (Deezer.valueToU64 (r.get? "value"))))
  | "gateway.value_to_string" =>
    some (.result (Json.optString (Deezer.valueToString (r.get? "value"))))
  | "gateway.song_data" =>
    let formats := (r.list "formats").filterMap Json.asString?
    some (answerWith (fun (s : Deezer.SongData) => .mkObject [("id", .string s.id),
        ("track_token", Json.optString s.trackToken), ("duration", Json.optNat s.duration),
        ("file_sizes", .mkObject (formats.map fun f => (f, Json.optNat (s.fileSize f))))])
      (Deezer.SongData.fromResults (r.field "results")))
  | "gateway.listen_params" => reply do
    let itemId ← r.requireString "item_id"
    let details := { StreamDetails.new (r.stringOr "provider" "deezer--abc") itemId with
      data := r.members "data", secondsStreamed := (r.field "seconds_streamed").asF64? }
    pure (Deezer.listenParams details (← r.requireI64 "now"))
  | "soundcloud.track_info" =>
    some (answerWith trackInfoJson (Soundcloud.decode "track" Soundcloud.trackDecoder (r.field "value")))
  | "soundcloud.decode_id" =>
    some (answerWith Json.string (Soundcloud.decode "id" Soundcloud.decodeId (r.field "value")))
  | "soundcloud.nested_id" =>
    some (answerWith Json.string (Soundcloud.nestedId (r.field "value") (r.optString "key")))
  | "soundcloud.decode_collection" =>
    some (answerWith (fun (c : Soundcloud.CollectionRecord) => .mkObject [
      ("collection", .array c.collection), ("next_href", Json.optString c.nextHref)])
      (Soundcloud.decodeCollection (r.field "value")))
  | "soundcloud.check_status" => replyWith (fun _ => Json.null) do
    let status ← requestStatus r
    let url ← r.requireString "url"
    pure (status.bind fun s => Soundcloud.checkStatus s url)
  | _ => none

end Command

end MusicProviders
