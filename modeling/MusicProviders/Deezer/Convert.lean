import MusicProviders.Deezer.Record
import MusicProviders.Media.Model

/-! # Mapping Deezer records to the media model

A `Mapper` carries what mapping needs besides the record: the provider's domain, the
instance id (the `provider` of item references and the instance of provider mappings),
and the signed-in user's id and country.

* Every item needs an id: a record without one, or a nested artist or album without
  one, is invalid data ("Deezer track without id").
* A track is available unless both its country list and the user's country are known
  and the list does not name the country.
* A playlist is editable exactly when both its owner's id and the user's id are known
  and equal; the owner is the creator, or else the user, of the playlist.
-/

namespace MusicProviders

namespace Deezer

/-- What mapping needs besides the record. -/
structure Mapper where
  domain : String
  instanceId : String
  userId : Option Int
  userCountry : Option String
deriving DecidableEq, Repr, Inhabited

/-- The id of an item, or invalid data when it has none. -/
def requiredId (kind : String) (id : Option Int) : Outcome String :=
  match id with
  | some n => .ok (toString n)
  | none => .error (.invalidData ("Deezer " ++ kind ++ " without id"))

namespace Mapper

/-- The provider mapping of an item. -/
def mapping (m : Mapper) (itemId : String) (url : Option String) : ProviderMapping :=
  { ProviderMapping.new itemId m.domain m.instanceId with url := url }

/-- A reference to an artist. -/
def artistMapping (m : Mapper) (a : ArtistRecord) : Outcome ItemMapping := do
  let itemId ← requiredId "artist" a.id
  pure ⟨.artist, itemId, m.instanceId, a.name.getD "", a.pictureBig.map Image.thumb⟩

/-- A reference to an album. -/
def albumMapping (m : Mapper) (a : AlbumRecord) : Outcome ItemMapping := do
  let itemId ← requiredId "album" a.id
  pure ⟨.album, itemId, m.instanceId, a.title.getD "", a.coverBig.map Image.thumb⟩

/-- A thumbnail list of an optional picture. -/
def thumbs (picture : Option String) : List Image := picture.toList.map Image.thumb

/-- Map an artist record. -/
def parseArtist (m : Mapper) (a : ArtistRecord) : Outcome Artist := do
  let itemId ← requiredId "artist" a.id
  pure { Artist.new itemId m.domain (a.name.getD "") with
    providerMappings := [m.mapping itemId a.link]
    metadata := { Metadata.empty with images := thumbs a.pictureBig, popularity := a.nbFan } }

/-- Map an album record. -/
def parseAlbum (m : Mapper) (a : AlbumRecord) : Outcome Album := do
  let itemId ← requiredId "album" a.id
  let artists ← match a.artist with
    | some artist => do pure [← m.artistMapping artist]
    | none => pure []
  let genres := ((a.genres.getD []).filterMap (·.name)).foldl (fun acc g => insertSorted g acc) []
  pure { Album.new itemId m.domain (a.title.getD "") with
    providerMappings := [m.mapping itemId a.link]
    albumType := (a.recordType.map AlbumType.parse).getD .unknown
    artists := artists
    externalIds := a.upc.toList.map (⟨.upc, ·⟩)
    metadata := { Metadata.empty with
      images := thumbs a.coverBig, genres := genres, explicit := a.explicitLyrics,
      releaseDate := a.releaseDate } }

/-- Whether the playlist's owner is the signed-in user. -/
def ownsPlaylist (m : Mapper) (p : PlaylistRecord) : Bool :=
  match (p.owner.bind (·.id)), m.userId with
  | some ownerId, some userId => ownerId == userId
  | _, _ => false

/-- The text when it is present and not empty. -/
def nonEmpty (s : Option String) : Option String := s.filter (!·.isEmpty)

/-- Map a playlist record. -/
def parsePlaylist (m : Mapper) (p : PlaylistRecord) : Outcome Playlist := do
  let itemId ← requiredId "playlist" p.id
  pure { Playlist.new itemId m.domain (p.title.getD "") with
    providerMappings := [m.mapping itemId p.link]
    owner := p.owner.bind (·.name)
    isEditable := m.ownsPlaylist p
    metadata := { Metadata.empty with
      images := thumbs p.pictureBig, description := nonEmpty p.description,
      checksum := p.checksum } }

/-- Whether a track may be played in the user's country. -/
def availableFor (m : Mapper) (t : TrackRecord) : Bool :=
  match t.availableCountries, m.userCountry with
  | some countries, some country => countries.contains country
  | _, _ => true

/-- Map a track record at a position. -/
def parseTrack (m : Mapper) (t : TrackRecord) (position : TrackPosition) : Outcome Track := do
  let itemId ← requiredId "track" t.id
  let title := t.title.getD ""
  let artists ← match t.artist with
    | some artist => do pure [← m.artistMapping artist]
    | none => pure []
  let album ← match t.album with
    | some a => do pure (some (← m.albumMapping a))
    | none => pure none
  pure { Track.new itemId m.domain title with
    sortName := some (t.titleShort.getD title)
    duration := t.duration.getD 0
    position := position
    providerMappings := [{ m.mapping itemId t.link with
      available := m.availableFor t, audioFormat := AudioFormat.ofContentType .mp3 }]
    artists := artists
    album := album
    externalIds := t.isrc.toList.map (⟨.isrc, ·⟩)
    metadata := { Metadata.empty with
      images := thumbs (t.album.bind (·.coverBig)), explicit := t.explicitLyrics,
      popularity := t.rank, preview := nonEmpty t.preview, releaseDate := t.releaseDate } }

/-- Decode and map an artist. -/
def artistFromValue (m : Mapper) (v : Json) : Outcome Artist := do
  m.parseArtist (← decode "artist" artistDecoder v)

/-- Decode and map an album. -/
def albumFromValue (m : Mapper) (v : Json) : Outcome Album := do
  m.parseAlbum (← decode "album" albumDecoder v)

/-- Decode and map a playlist. -/
def playlistFromValue (m : Mapper) (v : Json) : Outcome Playlist := do
  m.parsePlaylist (← decode "playlist" playlistDecoder v)

/-- Decode and map a track at a position. -/
def trackFromValue (m : Mapper) (v : Json) (position : TrackPosition) : Outcome Track := do
  m.parseTrack (← decode "track" trackDecoder v) position

end Mapper

end Deezer

end MusicProviders
