import MusicProviders.Command.Basic
import MusicProviders.Command.Cipher
import MusicProviders.Provider.Kind
import MusicProviders.Media.Encode
import MusicProviders.Media.Decode

/-! # Calls to provider instances

Requests can drive a provider instance through a list of calls. Each call is read from a
JSON object naming it in `call`, performed on the instance, and answered like a request:
a result or an error. Listings answer a list of per-item answers.

* `readCall` — a call from its JSON form, with the interface's defaults (a search asks
  for five results of every kind, similar tracks for twenty-five); ids and names must
  be strings, media types must be known, and an unknown call is an error that stops the
  whole list of calls.
* `CallState` — the instance and the stream details kept from the last `stream_details`.
* `perform` — one call; setting up replaces the instance only when it succeeds.
* `requestJson` — a request as the server saw it: method, path, decoded query pairs,
  body (JSON when it reads as JSON, else text) and the `authorization` and `range`
  headers.
-/

namespace MusicProviders

namespace Command

/-- A media type given in a call. -/
def readMediaType (v : Json) : Reading MediaType := decodeField "media_type" Decoder.mediaType v

/-- An override of an optional number: absent is no override, `null` clears the field. -/
def overrideOf (r : Request) (key : String) : Option (Option Nat) :=
  (r.get? key).map Json.asU64?

/-- The playlist positions of a call: its unsigned numbers, each kept to 32 bits; other
items are skipped. -/
def readPositions (r : Request) : List Nat :=
  (r.list "positions").filterMap fun v => v.asU64?.map (· % Nat.pow 2 32)

/-- A call from its JSON form. -/
def readCall (r : Request) : Reading Call := do
  match ← r.requireString "call" with
  | "info" => pure .info
  | "supported_features" => pure .supportedFeatures
  | "available" => pure .available
  | "setup" => pure .setup
  | "unload" => pure .unload
  | "debug" => pure .debug
  | "search" =>
    let types ← (r.list "media_types").mapM readMediaType
    pure (.search (r.string "query") types (r.natOr "limit" 5))
  | "library_artists" => pure .libraryArtists
  | "library_albums" => pure .libraryAlbums
  | "library_tracks" => pure .libraryTracks
  | "library_playlists" => pure .libraryPlaylists
  | "get_artist" => pure (.getArtist (← r.requireString "id"))
  | "get_album" => pure (.getAlbum (← r.requireString "id"))
  | "get_track" => pure (.getTrack (← r.requireString "id"))
  | "get_playlist" => pure (.getPlaylist (← r.requireString "id"))
  | "album_tracks" => pure (.albumTracks (← r.requireString "id"))
  | "playlist_tracks" => pure (.playlistTracks (← r.requireString "id"))
  | "artist_albums" => pure (.artistAlbums (← r.requireString "id"))
  | "artist_toptracks" => pure (.artistToptracks (← r.requireString "id"))
  | "similar_tracks" => pure (.similarTracks (← r.requireString "id") (r.natOr "limit" 25))
  | "recommendations" => pure .recommendations
  | "library_add" =>
    let id ← r.requireString "id"
    pure (.libraryAdd id (← readMediaType (r.field "media_type")))
  | "library_remove" =>
    let id ← r.requireString "id"
    pure (.libraryRemove id (← readMediaType (r.field "media_type")))
  | "add_playlist_tracks" =>
    let id ← r.requireString "id"
    pure (.addPlaylistTracks id ((r.list "track_ids").filterMap Json.asString?))
  | "remove_playlist_tracks" => pure (.removePlaylistTracks (← r.requireString "id") (readPositions r))
  | "create_playlist" => pure (.createPlaylist (← r.requireString "name"))
  | "stream_details" => pure (.streamDetails (← r.requireString "id"))
  | "audio_stream" =>
    pure (.audioStream (r.natOr "seek_position" 0) (r.optString "item_id") (overrideOf r "size")
      (overrideOf r "duration"))
  | other => .error ("unknown call " ++ other)

/-- The instance a list of calls drives, and the stream details kept for the next
`audio_stream`. -/
structure CallState (σ : Type) where
  provider : σ
  kept : Option StreamDetails

/-- The answer of an outcome shown through `toJson`. -/
def outcomeWith {α : Type} (toJson : α → Json) (o : Outcome α) : Json := outcomeJson (o.map toJson)

/-- The answer of a listing: one answer per item. -/
def listingJson {α : Type} (toJson : α → Json) (items : List (Outcome α)) : Json :=
  .object [("result", .array (items.map (outcomeWith toJson)))]

/-- An optional value, `null` when absent. -/
def optionJson {α : Type} (toJson : α → Json) : Option α → Json
  | some a => toJson a
  | none => .null

/-- Stream details with the time and stream id that opening a stream records shown as
`<set>`. -/
def stampedDetailsJson (d : StreamDetails) : Json :=
  let data := d.data.map fun (k, v) =>
    if k == "start_ts" || k == "stream_id" then (k, Json.string "<set>") else (k, v)
  { d with data := data }.toJson

/-- The description of an instance: its host listing and display name. -/
def infoJson (base : Instance) (features : List ProviderFeature) : Json :=
  .object [("name", .string base.displayName), ("to_dict", base.toDict features)]

/-- Perform one call on an instance. -/
def perform {σ : Type} (k : InstanceKind σ) (st : CallState σ) (call : Call) :
    Exchange (Json × CallState σ) := do
  let base := k.base st.provider
  let ops := k.operations st.provider
  let ok (v : Json) : Json := .object [("result", v)]
  match call with
  | .info => pure (ok (infoJson base k.features), st)
  | .supportedFeatures => pure (ok (.array (k.features.map (Json.string ·.name))), st)
  | .available => pure (ok (.bool base.available), st)
  | .setup =>
    match ← Http.attempt (k.setup st.provider) with
    | .ok i => pure (ok .null, { st with provider := i })
    | .error e => pure (errorJson e, st)
  | .unload => pure (ok .null, { st with provider := k.unload st.provider })
  | .debug =>
    pure (ok (.object [("base", .string base.debugText),
      ("instance_count", Json.nat base.instanceCount)]), st)
  | .search query types limit =>
    pure (outcomeWith SearchResults.toJson (← Http.attempt (ops.search query types limit)), st)
  | .libraryArtists => pure (listingJson Artist.toJson (← ops.libraryArtists), st)
  | .libraryAlbums => pure (listingJson Album.toJson (← ops.libraryAlbums), st)
  | .libraryTracks => pure (listingJson Track.toJson (← ops.libraryTracks), st)
  | .libraryPlaylists => pure (listingJson Playlist.toJson (← ops.libraryPlaylists), st)
  | .getArtist id => pure (outcomeWith (optionJson Artist.toJson) (← Http.attempt (ops.getArtist id)), st)
  | .getAlbum id => pure (outcomeWith (optionJson Album.toJson) (← Http.attempt (ops.getAlbum id)), st)
  | .getTrack id => pure (outcomeWith (optionJson Track.toJson) (← Http.attempt (ops.getTrack id)), st)
  | .getPlaylist id =>
    pure (outcomeWith (optionJson Playlist.toJson) (← Http.attempt (ops.getPlaylist id)), st)
  | .albumTracks id =>
    pure (outcomeWith (fun ts => .array (ts.map Track.toJson)) (← Http.attempt (ops.albumTracks id)), st)
  | .playlistTracks id => pure (listingJson Track.toJson (← ops.playlistTracks id), st)
  | .artistAlbums id =>
    pure (outcomeWith (fun as => .array (as.map Album.toJson)) (← Http.attempt (ops.artistAlbums id)), st)
  | .artistToptracks id =>
    pure (outcomeWith (fun ts => .array (ts.map Track.toJson)) (← Http.attempt (ops.artistToptracks id)), st)
  | .similarTracks id limit =>
    pure (outcomeWith (fun ts => .array (ts.map Track.toJson))
      (← Http.attempt (ops.similarTracks id limit)), st)
  | .recommendations =>
    pure (outcomeWith (fun fs => .array (fs.map BrowseFolder.toJson)) (← Http.attempt ops.recommendations), st)
  | .libraryAdd id t => pure (outcomeWith Json.bool (← Http.attempt (ops.libraryAdd id t)), st)
  | .libraryRemove id t => pure (outcomeWith Json.bool (← Http.attempt (ops.libraryRemove id t)), st)
  | .addPlaylistTracks id ids =>
    pure (outcomeWith (fun _ => .null) (← Http.attempt (ops.addPlaylistTracks id ids)), st)
  | .removePlaylistTracks id positions =>
    pure (outcomeWith (fun _ => .null) (← Http.attempt (ops.removePlaylistTracks id positions)), st)
  | .createPlaylist name =>
    pure (outcomeWith Playlist.toJson (← Http.attempt (ops.createPlaylist name)), st)
  | .streamDetails id =>
    match ← Http.attempt (ops.streamDetails id) with
    | .ok d => pure (ok d.toJson, { st with kept := some d })
    | .error e => pure (errorJson e, st)
  | .audioStream seek itemId size duration =>
    let details := st.kept.getD (StreamDetails.new base.instanceId (itemId.getD "0"))
    let details := match size with
      | some s => { details with size := s }
      | none => details
    let details := match duration with
      | some d => { details with duration := d }
      | none => details
    match ← Http.attempt (ops.audioStream details seek) with
    | .ok s =>
      pure (ok (.object [("details", stampedDetailsJson s.details), ("stream", streamJson s.items)]),
        { st with kept := some s.details })
    | .error e => pure (errorJson e, st)

/-- A request as the server saw it. -/
def requestJson (r : Http.Request) : Json :=
  let body : Json :=
    if r.body.isEmpty then .null
    else
      let text := Text.decodeUtf8Lossy r.body
      match Json.parse text with
      | .ok v => .object [("json", v)]
      | .error _ => .object [("text", .string text)]
  let headers := ["authorization", "range"].filterMap fun name =>
    (r.header? name).map fun v => (name, Json.string v)
  .mkObject [("method", .string r.method.name), ("path", .string (Url.path r.url)),
    ("query", .array ((Url.queryPairs r.url).map fun (k, v) => .array [.string k, .string v])),
    ("body", body), ("headers", .mkObject headers)]

/-- Requests as the server saw them, ordered by their JSON text. -/
def requestsJson (rs : List Http.Request) : Json := .array (sortByText (rs.map requestJson))

end Command

end MusicProviders
