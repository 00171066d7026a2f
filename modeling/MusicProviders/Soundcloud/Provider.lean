import MusicProviders.Soundcloud.Api
import MusicProviders.Soundcloud.Convert
import MusicProviders.Provider.Base
import MusicProviders.Provider.Listing
import MusicProviders.Provider.Kind

/-! # The SoundCloud provider

Read-only: library, search and lookups through the API. Streams are not decoded here;
stream details carry the resolved URL for the host to fetch directly.

* `Provider.connect` — fetch the account and keep the client; on failure nothing
  changes. `Provider.setup` does this with the configured client id and authorization.
* Tracks are mapped with their uploader: the full user record when it can be fetched
  and has an id, else the record embedded in the track.
* `Provider.search` — one search request, its results split by kind with
  `Session.takeResult`; a track result is mapped with its uploader.
* Listings of likes, library entries and playlist tracks fetch each entry's details in
  turn; an entry without a usable id, or whose details are malformed, is skipped.
* `Provider.operations` — search, the three library listings, artist, track and playlist
  lookups, playlist tracks, top and similar tracks, and stream details; everything else
  is not implemented.
-/

namespace MusicProviders

namespace Soundcloud

/-- The provider's identity. -/
def manifest : Manifest := ⟨"soundcloud", "SoundCloud", "Stream music from SoundCloud."⟩

/-- The features the provider declares. -/
def features : List ProviderFeature :=
  [.libraryArtists, .libraryTracks, .libraryPlaylists, .browse, .search, .artistToptracks,
    .similarTracks]

/-- The configuration key of the client id. -/
def confClientId : String := "client_id"

/-- The configuration key of the authorization header. -/
def confAuthorization : String := "authorization"

/-- Top tracks requested per artist. -/
def artistTopTracks : Nat := 25

/-- The setup form: client id, authorization and log level. -/
def configEntries (values : ConfigValues) : List ConfigEntry :=
  [{ ConfigEntry.new confClientId .secureString "Client ID" with
      required := true, value := values.get? confClientId },
    { ConfigEntry.new confAuthorization .secureString "Authorization" with
      required := true, description := some "The OAuth token sent in the Authorization header.",
      value := values.get? confAuthorization },
    logLevelEntry]

/-- The 1-based position of the raw entry at `index`, in 32-bit arithmetic. -/
def positionOf (index : Nat) : Nat := (index % Nat.pow 2 32 + 1) % Nat.pow 2 32

/-- The client of a set-up instance and the signed-in user. -/
structure Session where
  api : Api
  mapper : Mapper
  userId : String
deriving DecidableEq, Inhabited

/-- A SoundCloud provider instance. -/
structure Provider where
  base : Instance
  session : Option Session
deriving DecidableEq, Inhabited

/-- The kind a search result names. -/
def resultKind (item : Json) : Option String := (item.get? "kind").bind Json.asString?

namespace Session

/-- The uploader of a track: none without an embedded user; the embedded user when it
has no id or its full record cannot be fetched or has no id; else the full record. -/
def uploader (s : Session) (track : TrackRecord) : Exchange (Option UserRecord) := do
  match track.user with
  | none => pure none
  | some embedded =>
    match embedded.id with
    | none => pure (some embedded)
    | some userId =>
      let full ← Http.attempt (do Http.lift (decode "user" userDecoder (← s.api.userDetails userId)))
      match full with
      | .ok user => pure (some (if user.id.isSome then user else embedded))
      | .error _ => pure (some embedded)

/-- Map a track record with its uploader. -/
def parseTrack (s : Session) (track : TrackRecord) (position : TrackPosition) : Http Track := do
  let uploader ← Http.ofExchange (s.uploader track)
  Http.lift (s.mapper.parseTrack track uploader position)

/-- The full record of a track. -/
def fetchTrack (s : Session) (trackId : String) : Http TrackRecord := do
  let details ← s.api.trackDetails trackId
  match details with
  | [] => Http.fail (.invalidData ("no details for track " ++ trackId))
  | value :: _ => Http.lift (decode "track" trackDecoder value)

/-- A track by id, mapped at a position. -/
def trackById (s : Session) (trackId : String) (position : TrackPosition) : Http Track := do
  s.parseTrack (← s.fetchTrack trackId) position

/-- A playlist by id. -/
def playlistById (s : Session) (playlistId : String) : Http Playlist := do
  Http.lift (s.mapper.playlistFromValue (← s.api.playlistDetails playlistId))

/-- A search result read as a track and mapped with its uploader. -/
def resultTrack (s : Session) (item : Json) : Http Track := do
  s.parseTrack (← Http.lift (decode "track" trackDecoder item)) .bare

/-- Add a mapped search result with `add`; a malformed one is skipped, and any other
failure fails the search. -/
def keepMapped {α : Type} (results : SearchResults) (mapped : Outcome α)
    (add : SearchResults → α → SearchResults) : Http SearchResults :=
  match skipMalformed mapped with
  | some (.ok a) => pure (add results a)
  | some (.error e) => Http.fail e
  | none => pure results

/-- Take one search result into the results: a user, track or playlist is mapped and
added to its list when its kind is wanted; results of any other kind, or of a kind that
is not wanted, are dropped. -/
def takeResult (s : Session) (wanted : MediaType → Bool) (results : SearchResults)
    (item : Json) : Http SearchResults :=
  match resultKind item with
  | some "user" =>
    if wanted .artist then
      keepMapped results (s.mapper.artistFromValue item) fun r a =>
        { r with artists := r.artists ++ [a] }
    else pure results
  | some "track" =>
    if wanted .track then do
      keepMapped results (← Http.outcome (s.resultTrack item)) fun r t =>
        { r with tracks := r.tracks ++ [t] }
    else pure results
  | some "playlist" =>
    if wanted .playlist then
      keepMapped results (s.mapper.playlistFromValue item) fun r pl =>
        { r with playlists := r.playlists ++ [pl] }
    else pure results
  | _ => pure results

/-- Fetch each listed track in full; malformed ones are skipped and the first other
failure fails the whole list. -/
def tracksFromStubs (s : Session) (stubs : List Json) : Http (List Track) := do
  let mut tracks := []
  for stub in stubs do
    let track ← Http.outcome (do s.trackById (← Http.lift (nestedId stub none)) .bare)
    match skipMalformed track with
    | none => pure ()
    | some (.ok t) => tracks := tracks ++ [t]
    | some (.error e) => Http.fail e
  pure tracks

end Session

/-- The reader that maps each entry through an exchange and keeps what is not
malformed. -/
def entryReader {α : Type} (fetch : Json → Http α) : Reader (List (Outcome α)) :=
  ⟨fun _ => true, fun s item => do
    let r ← Http.attempt (do fetch (← Http.lift item))
    pure (match skipMalformed r with
      | some o => s ++ [o]
      | none => s)⟩

namespace Provider

/-- A fresh instance on a host. -/
def new (host : Host) (config : ProviderConfig) : Provider :=
  ⟨Instance.new host manifest config, none⟩

/-- The session, or the failure of an instance that is not set up. -/
def session? (p : Provider) : Outcome Session :=
  match p.session with
  | some s => .ok s
  | none => .error (.loginFailed "SoundCloud provider is not set up")

/-- Fetch the signed-in account and keep the client. -/
def attach (p : Provider) (api : Api) : Http Provider := do
  let me ← api.accountDetails
  let some userId := me.id | Http.fail (.loginFailed "SoundCloud returned no user")
  pure { p with session := some ⟨api, ⟨p.base.domain, p.base.instanceId⟩, userId⟩ }

/-- Attach a client and mark the instance available. -/
def connect (p : Provider) (api : Api) : Http Provider := do
  let p ← p.attach api
  pure { p with base := { p.base with available := true } }

/-- Set up with the configured client id and authorization against SoundCloud itself. -/
def setup (p : Provider) : Http Provider := do
  match p.base.config.getStr confClientId, p.base.config.getStr confAuthorization with
  | some clientId, some authorization => p.connect (Api.new clientId authorization)
  | _, _ => Http.fail (.loginFailed "Invalid login credentials")

/-- Drop the session. -/
def unload (p : Provider) : Provider :=
  { p with session := none, base := { p.base with available := false } }

/-- A listing of the session, or a single failure without one. -/
def listing {α : Type} (p : Provider) (k : Session → Exchange (List (Outcome α))) :
    Exchange (List (Outcome α)) :=
  match p.session? with
  | .ok s => k s
  | .error e => failedListing e

/-- Search once and split the results by kind, keeping the wanted kinds in order. -/
def search (p : Provider) (query : String) (mediaTypes : List MediaType) (limit : Nat) :
    Http SearchResults := do
  let s ← Http.lift p.session?
  let items ← s.api.search query limit
  items.foldlM (s.takeResult (MediaType.wanted mediaTypes)) ⟨[], [], [], []⟩

/-- The tracks of a playlist, each fetched in full at its 1-based raw position. -/
def playlistTracks (p : Provider) (playlistId : String) : Exchange (List (Outcome Track)) :=
  p.listing fun s => do
    let stubs ← Http.attempt (do
      let value ← s.api.playlistDetails playlistId
      match decode "playlist" playlistDecoder value with
      | .ok playlist => pure playlist.tracks
      | .error e => Http.fail (.api ("playlist " ++ playlistId ++ " has no track list: " ++
          e.message)))
    match stubs with
    | .error e => pure ((skipMalformed (.error e : Outcome Track)).toList)
    | .ok stubs =>
      let tracks ← stubs.zipIdx.mapM fun (stub, i) => Http.attempt (do
        s.trackById (← Http.lift (nestedId stub none)) (.playlist (positionOf i)))
      pure (tracks.filterMap skipMalformed)

/-- How to stream a track: the URL of its preferred encoding, for the host to fetch. -/
def streamDetails (p : Provider) (itemId : String) : Http StreamDetails := do
  let s ← Http.lift p.session?
  let fetched ← Http.outcome (s.fetchTrack itemId)
  let track ← match fetched with
    | .ok t => pure t
    | .error (.invalidData msg) => Http.fail (.notFound msg)
    | .error e => Http.fail e
  let stream ← s.api.streamUrl track
  pure { StreamDetails.new p.base.instanceId itemId with
    audioFormat := AudioFormat.ofContentType (ContentType.parse (stream.mimeType.getD ""))
    duration := track.duration.map (· / 1000)
    direct := some stream.url }

/-- Every operation of the instance; listings request at most `fuel` pages. -/
def operations (p : Provider) (fuel : Nat) : Operations :=
  { Operations.unsupported p.streamDetails with
    search := p.search
    libraryArtists := p.listing fun s => do
      let items ← (s.api.following s.userId).all fuel
      pure (mapListing s.mapper.artistFromValue items)
    libraryTracks := p.listing fun s =>
      (s.api.tracksLiked s.userId).read fuel
        (entryReader fun entry => do
          s.trackById (← Http.lift (nestedId entry (some "track"))) .bare) []
    libraryPlaylists := p.listing fun s =>
      s.api.accountPlaylists.read fuel
        (entryReader fun entry => do
          s.playlistById (← Http.lift (nestedId entry (some "playlist")))) []
    getArtist := fun id => do
      let s ← Http.lift p.session?
      let result ← Http.outcome (do Http.lift (s.mapper.artistFromValue (← s.api.userDetails id)))
      Http.lift (softLookup result)
    getTrack := fun id => do
      let s ← Http.lift p.session?
      Http.lift (softLookup (← Http.outcome (s.trackById id .bare)))
    getPlaylist := fun id => do
      let s ← Http.lift p.session?
      Http.lift (softLookup (← Http.outcome (s.playlistById id)))
    playlistTracks := p.playlistTracks
    artistToptracks := fun id => do
      let s ← Http.lift p.session?
      s.tracksFromStubs (← s.api.popularTracks id artistTopTracks)
    similarTracks := fun id limit => do
      let s ← Http.lift p.session?
      s.tracksFromStubs (← s.api.recommended id limit) }

end Provider

/-- SoundCloud instances; listings request at most `fuel` pages. -/
def kind (fuel : Nat) : InstanceKind Provider where
  base p := p.base
  features := features
  operations p := p.operations fuel
  setup p := p.setup
  unload p := p.unload

end Soundcloud

end MusicProviders
