import MusicProviders.Deezer.Api
import MusicProviders.Deezer.Convert
import MusicProviders.Deezer.GatewayClient
import MusicProviders.Provider.Base
import MusicProviders.Provider.Listing
import MusicProviders.Provider.Kind
import MusicProviders.Cipher.Stripe

/-! # The Deezer provider

Catalog and library operations go through the public API; playback goes through the
gateway, which hands out Blowfish stripe-encrypted streams that are decrypted as they
arrive. An instance is usable once it is set up: the gateway session is open and the
signed-in user is known.

* `Provider.connect` — open the gateway, fetch the user and keep the clients; on
  failure nothing changes. `Provider.setup` does this with the configured access token
  against Deezer's own hosts.
* `Provider.operations` — every operation of `Operations`. Listings read pages lazily;
  a track's position counts the raw entries before it, skipped ones included.
* Library edits check the media type, then that every id is an integer, before any
  request.
* `removePlaylistTracks` — read the playlist until every wanted position is found, then
  remove those tracks in one request; an empty position list sends nothing.
* `Provider.search` — the four kinds are searched one after another: artists, albums,
  tracks, playlists. The four searches are independent and may as well run at once, and
  when they all succeed the results are the same. They differ when some fail: run in
  turn, the search returns the failure of the first kind that fails and requests nothing
  for the kinds after it, where a concurrent run sends every search and may return the
  failure of another kind.
* `seekSegment`, `streamRequest` — where a stream opened at a position starts, and the
  request for its bytes from there.
-/

namespace MusicProviders

namespace Deezer

/-- The provider's identity. -/
def manifest : Manifest := ⟨"deezer", "Deezer", "Stream music from Deezer."⟩

/-- The features the provider declares. -/
def features : List ProviderFeature :=
  [.libraryArtists, .libraryAlbums, .libraryTracks, .libraryPlaylists, .libraryAlbumsEdit,
    .libraryTracksEdit, .libraryArtistsEdit, .libraryPlaylistsEdit, .albumMetadata,
    .trackMetadata, .artistMetadata, .artistAlbums, .artistToptracks, .browse, .search,
    .playlistTracksEdit, .playlistCreate, .recommendations, .similarTracks]

/-- Top tracks requested per artist. -/
def artistTopTracks : Nat := 50

/-- The configuration key of the access token. -/
def confAccessToken : String := "access_token"

/-- The 1-based position of the raw entry at `index`, in 32-bit arithmetic. -/
def positionOf (index : Nat) : Nat := (index % Nat.pow 2 32 + 1) % Nat.pow 2 32

/-- The vendor clients of a set-up instance. -/
structure Session where
  api : Api
  gateway : GatewayClient
  mapper : Mapper
deriving DecidableEq, Inhabited

/-- A Deezer provider instance. -/
structure Provider where
  base : Instance
  session : Option Session
deriving DecidableEq, Inhabited

/-- The time and stream id that opening a stream records. -/
structure PlaybackStamp where
  now : Int
  streamId : String
deriving DecidableEq, Repr, Inhabited

namespace Session

/-- The mapped results of a search for one kind; malformed results are skipped. -/
def search {α : Type} (s : Session) (fuel : Nat) (kind query : String) (limit : Nat)
    (parse : Mapper → Json → Outcome α) : Http (List α) := do
  let values ← s.api.search fuel kind query limit
  Http.lift (collectOutcomes (values.filterMap fun v => skipMalformed (parse s.mapper v)))

/-- The search for one kind when it is wanted; a kind that is not wanted requests nothing
and finds nothing. -/
def searchKind {α : Type} (s : Session) (fuel : Nat) (wanted : Bool) (kind query : String)
    (limit : Nat) (parse : Mapper → Json → Outcome α) : Http (List α) :=
  if wanted then s.search fuel kind query limit parse else pure []

/-- A whole listing mapped with the raw entry's index; malformed entries are skipped and
any failure fails the listing. -/
def collect {α : Type} (s : Session) (fuel : Nat) (path : String)
    (parse : Nat → Json → Outcome α) : Http (List α) := do
  let items ← Http.ofExchange ((s.api.pages path []).all fuel)
  let values ← Http.lift (collectOutcomes items)
  Http.lift (collectOutcomes (values.zipIdx.filterMap fun (v, i) => skipMalformed (parse i v)))

/-- The tracks of a playlist page by page, each at its raw entry's position. -/
def playlistTrack (s : Session) (index : Nat) (item : Outcome Json) : Option (Outcome Track) :=
  skipMalformed (item.bind fun v => s.mapper.trackFromValue v (.playlist (positionOf index)))

end Session

/-- What removing tracks by position has found so far. -/
structure RemovalScan where
  /-- Raw entries seen. -/
  index : Nat
  /-- Ids of the tracks at wanted positions, in listing order. -/
  found : List String
  failure : Option ProviderError
  done : Bool
deriving Inhabited

/-- The reader that collects the ids of tracks at wanted positions and stops once it has
one per wanted position, or at the first failure. -/
def removalReader (track : Nat → Outcome Json → Option (Outcome Track)) (wanted : List Nat) :
    Reader RemovalScan where
  wants s := !s.done
  take s item :=
    let s' := { s with index := s.index + 1 }
    pure <| match track s.index item with
    | none => s'
    | some (.error e) => { s' with failure := some e, done := true }
    | some (.ok t) =>
      let found := if t.playlistPosition.any (wanted.contains ·) then s.found ++ [t.itemId]
        else s.found
      { s' with found := found, done := found.length == wanted.length }

namespace Provider

/-- A fresh instance on a host. -/
def new (host : Host) (config : ProviderConfig) : Provider :=
  ⟨Instance.new host manifest config, none⟩

/-- The session, or the failure of an instance that is not set up. -/
def session? (p : Provider) : Outcome Session :=
  match p.session with
  | some s => .ok s
  | none => .error (.loginFailed "Deezer provider is not set up")

/-- Fetch the signed-in user and keep the clients. -/
def attach (p : Provider) (api : Api) (gw : GatewayClient) : Http Provider := do
  let user ← api.userMe
  let some userId := user.id | Http.fail (.loginFailed "Deezer returned no user")
  let country := if gw.userCountry.isEmpty then none else some gw.userCountry
  pure { p with session := some ⟨api, gw, ⟨p.base.domain, p.base.instanceId, some userId, country⟩⟩ }

/-- Open the gateway at `urls` with an access token, attach the API client, and mark the
instance available. -/
def connect (p : Provider) (accessToken : String) (api : Api) (urls : GatewayUrls) :
    Http Provider := do
  let gw ← GatewayClient.connect accessToken urls
  let p ← p.attach api gw
  pure { p with base := { p.base with available := true } }

/-- Set up with the configured access token against Deezer's own hosts. -/
def setup (p : Provider) : Http Provider := do
  let some token := p.base.config.getStr confAccessToken
    | Http.fail (.loginFailed "Invalid login credentials")
  p.connect token (Api.new token) GatewayUrls.default

/-- Drop the session. -/
def unload (p : Provider) : Provider :=
  { p with session := none, base := { p.base with available := false } }

/-- A listing of the session, or a single failure without one. -/
def listing {α : Type} (p : Provider) (k : Session → Exchange (List (Outcome α))) :
    Exchange (List (Outcome α)) :=
  match p.session? with
  | .ok s => k s
  | .error e => failedListing e

/-- A library listing mapped item by item. -/
def libraryListing {α : Type} (p : Provider) (fuel : Nat) (kind : String)
    (parse : Mapper → Json → Outcome α) : Exchange (List (Outcome α)) :=
  p.listing fun s => do
    let items ← (s.api.pages ("user/me/" ++ kind) []).all fuel
    pure (mapListing (parse s.mapper) items)

/-- A single-item lookup; missing, refused and malformed items are absent. -/
def lookup {α : Type} (p : Provider) (kind id : String) (parse : Mapper → Json → Outcome α) :
    Http (Option α) := do
  let s ← Http.lift p.session?
  let result ← Http.outcome (do Http.lift (parse s.mapper (← s.api.item kind id)))
  Http.lift (softLookup result)

/-- Search every wanted kind: all four when `mediaTypes` is empty. -/
def search (p : Provider) (fuel : Nat) (query : String) (mediaTypes : List MediaType)
    (limit : Nat) : Http SearchResults := do
  let s ← Http.lift p.session?
  let artists ← s.searchKind fuel (MediaType.wanted mediaTypes .artist) "artist" query limit
    Mapper.artistFromValue
  let albums ← s.searchKind fuel (MediaType.wanted mediaTypes .album) "album" query limit
    Mapper.albumFromValue
  let tracks ← s.searchKind fuel (MediaType.wanted mediaTypes .track) "track" query limit
    fun m v => m.trackFromValue v .bare
  let playlists ← s.searchKind fuel (MediaType.wanted mediaTypes .playlist) "playlist" query
    limit Mapper.playlistFromValue
  pure ⟨artists, albums, tracks, playlists⟩

/-- The tracks of a playlist, each at its 1-based raw position. -/
def playlistTracks (p : Provider) (fuel : Nat) (id : String) : Exchange (List (Outcome Track)) :=
  p.listing fun s => do
    let items ← (s.api.pages ("playlist/" ++ id ++ "/tracks") []).all fuel
    pure (items.zipIdx.filterMap fun (item, i) => s.playlistTrack i item)

/-- The first fifty top tracks of an artist. -/
def artistToptracks (p : Provider) (fuel : Nat) (id : String) : Http (List Track) := do
  let s ← Http.lift p.session?
  let items ← Http.ofExchange ((s.api.pages ("artist/" ++ id ++ "/top")
    [("limit", toString artistTopTracks)]).take fuel artistTopTracks)
  let values ← Http.lift (collectOutcomes items)
  Http.lift (collectOutcomes (values.filterMap fun v =>
    skipMalformed (s.mapper.trackFromValue v .bare)))

/-- Tracks similar to one: the first `limit` ids of its mix, each looked up, the absent
ones left out. -/
def similarTracks (p : Provider) (id : String) (limit : Nat) : Http (List Track) := do
  let s ← Http.lift p.session?
  let ids ← s.gateway.trackMix id
  let found ← (ids.take limit).mapM fun trackId =>
    p.lookup "track" trackId fun m v => m.trackFromValue v .bare
  pure found.reduceOption

/-- One folder of recommended tracks. -/
def recommendations (p : Provider) (fuel : Nat) : Http (List BrowseFolder) := do
  let s ← Http.lift p.session?
  let tracks ← s.collect fuel "user/me/recommendations/tracks" fun _ v =>
    s.mapper.trackFromValue v .bare
  pure [⟨"recommendations", p.base.domain, "recommendations", "Recommendations",
    "recommendations", tracks.map MediaItem.track⟩]

/-- Edit a library collection with `call`: the media type is checked first, then the id,
then that the instance is set up, and only then is the collection edited. -/
def libraryEdit (call : Api → String → String → Http Bool) (p : Provider) (id : String)
    (mediaType : MediaType) : Http Bool := do
  let kind ← Http.lift (libraryKind mediaType)
  let id ← Http.lift (numericId id)
  let s ← Http.lift p.session?
  call s.api kind id

/-- Add an item to the library. -/
def libraryAdd (p : Provider) (id : String) (mediaType : MediaType) : Http Bool :=
  p.libraryEdit Api.libraryAdd id mediaType

/-- Remove an item from the library. -/
def libraryRemove (p : Provider) (id : String) (mediaType : MediaType) : Http Bool :=
  p.libraryEdit Api.libraryRemove id mediaType

/-- Add tracks to a playlist; every id must be an integer. -/
def addPlaylistTracks (p : Provider) (playlistId : String) (trackIds : List String) :
    Http Unit := do
  let playlistId ← Http.lift (numericId playlistId)
  for trackId in trackIds do
    let _ ← Http.lift (numericId trackId)
  let s ← Http.lift p.session?
  let _ ← s.api.addPlaylistTracks playlistId trackIds
  pure ()

/-- Remove the tracks at the given 1-based positions of a playlist. -/
def removePlaylistTracks (p : Provider) (fuel : Nat) (playlistId : String)
    (positions : List Nat) : Http Unit := do
  let playlistId ← Http.lift (numericId playlistId)
  let wanted := positions.eraseDups
  if wanted.isEmpty then pure ()
  else
    let scan ← Http.ofExchange (match p.session? with
      | .ok s => (s.api.pages ("playlist/" ++ playlistId ++ "/tracks") []).read fuel
          (removalReader s.playlistTrack wanted) ⟨0, [], none, false⟩
      | .error e => pure ⟨0, [], some e, true⟩)
    match scan.failure with
    | some e => Http.fail e
    | none =>
      if scan.found.isEmpty then pure ()
      else
        let s ← Http.lift p.session?
        let _ ← s.api.removePlaylistTracks playlistId scan.found
        pure ()

/-- Create a playlist. -/
def createPlaylist (p : Provider) (name : String) : Http Playlist := do
  let s ← Http.lift p.session?
  let record ← s.api.createPlaylist name
  Http.lift (s.mapper.parsePlaylist record)

/-- How to stream a track: its media URL and format, size and expiry. -/
def streamDetails (p : Provider) (itemId : String) : Http StreamDetails := do
  let s ← Http.lift p.session?
  let (url, song) ← s.gateway.trackUrl itemId
  let codec := ((url.format.splitOn "_").head?).getD ""
  pure { StreamDetails.new p.base.instanceId itemId with
    audioFormat := AudioFormat.ofContentType (ContentType.parse codec)
    duration := song.duration
    size := song.fileSize url.format
    expires := url.expires
    data := Json.insertField "format" (.string url.format)
      (Json.insertField "url" (.string url.url) [])
    hasCallback := true }

/-- The status failure of a stream answer, for 4xx and 5xx statuses. -/
def statusFailure (status : Nat) (url : String) : Option ProviderError :=
  if 400 ≤ status ∧ status < 600 then
    let kind := if status < 500 then "client" else "server"
    some (.request ("HTTP status " ++ kind ++ " error (" ++ Http.statusText status ++
      ") for url (" ++ url ++ ")"))
  else none

/-- The segment a stream starts at for a seek to `seekPosition` seconds: the one holding
the position when the size and duration of the details are known, else the first. -/
def seekSegment (details : StreamDetails) (seekPosition : Nat) : Nat :=
  if seekPosition > 0 then
    match details.size, details.duration with
    | some size, some duration => Stripe.seekSegmentIndex size duration seekPosition
    | _, _ => 0
  else 0

/-- The request for the audio at `url` from segment `first` on: unless that is the first
segment, a `range` header asks for the bytes from the segment's offset. -/
def streamRequest (url : String) (first : Nat) : Http.Request :=
  if first > 0 then
    (Http.Request.plain .get url).withHeader "range"
      ("bytes=" ++ toString (Stripe.segmentOffset first) ++ "-")
  else Http.Request.plain .get url

/-- Open the decrypted audio of stream details from a position in seconds. When the size
and duration are known, the request starts at the segment holding the position; the
upcoming track is reported to the gateway, whatever that answers. -/
def audioStream (p : Provider) (stamp : PlaybackStamp) (details : StreamDetails)
    (seekPosition : Nat) : Http AudioStream := do
  let s ← Http.lift p.session?
  let some url := details.dataStr "url"
    | Http.fail (.invalidData "stream details without url")
  let key := Stripe.blowfishKey details.itemId
  let firstSegment := seekSegment details seekPosition
  let request := streamRequest url firstSegment
  let details := { details with
    data := Json.insertField "seek_position" (Json.nat seekPosition)
      (Json.insertField "stream_id" (.string stamp.streamId)
        (Json.insertField "start_ts" (Json.int stamp.now) details.data)) }
  let _ ← Http.outcome (s.gateway.logListen (some details.itemId) none stamp.now)
  let answer ← Http.send request
  match statusFailure answer.status url with
  | some e => Http.fail e
  | none =>
    let input := if answer.body.isEmpty then [] else [.ok answer.body]
    pure ⟨Stripe.decryptStream input key firstSegment, details⟩

/-- Report a finished stream to the gateway, when its details ask for it. -/
def finish (p : Provider) (stamp : PlaybackStamp) (details : StreamDetails) : Http Unit :=
  match p.session, details.hasCallback with
  | some s, true => s.gateway.logListen none (some details) stamp.now
  | _, _ => pure ()

/-- Every operation of the instance; listings request at most `fuel` pages. -/
def operations (p : Provider) (fuel : Nat) (stamp : PlaybackStamp) : Operations where
  search := p.search fuel
  libraryArtists := p.libraryListing fuel "artists" Mapper.artistFromValue
  libraryAlbums := p.libraryListing fuel "albums" Mapper.albumFromValue
  libraryTracks := p.libraryListing fuel "tracks" fun m v => m.trackFromValue v .bare
  libraryPlaylists := p.libraryListing fuel "playlists" Mapper.playlistFromValue
  getArtist id := p.lookup "artist" id Mapper.artistFromValue
  getAlbum id := p.lookup "album" id Mapper.albumFromValue
  getTrack id := p.lookup "track" id fun m v => m.trackFromValue v .bare
  getPlaylist id := p.lookup "playlist" id Mapper.playlistFromValue
  albumTracks id := do
    let s ← Http.lift p.session?
    s.collect fuel ("album/" ++ id ++ "/tracks") fun i v =>
      s.mapper.trackFromValue v (.album 0 (positionOf i))
  playlistTracks := p.playlistTracks fuel
  artistAlbums id := do
    let s ← Http.lift p.session?
    s.collect fuel ("artist/" ++ id ++ "/albums") fun _ v => s.mapper.albumFromValue v
  artistToptracks := p.artistToptracks fuel
  similarTracks := p.similarTracks
  recommendations := p.recommendations fuel
  libraryAdd := p.libraryAdd
  libraryRemove := p.libraryRemove
  addPlaylistTracks := p.addPlaylistTracks
  removePlaylistTracks := p.removePlaylistTracks fuel
  createPlaylist := p.createPlaylist
  streamDetails := p.streamDetails
  audioStream := p.audioStream stamp
  finish := p.finish stamp

end Provider

/-- Deezer instances; listings request at most `fuel` pages. -/
def kind (fuel : Nat) (stamp : PlaybackStamp) : InstanceKind Provider where
  base p := p.base
  features := features
  operations p := p.operations fuel stamp
  setup p := p.setup
  unload p := p.unload

end Deezer

end MusicProviders
