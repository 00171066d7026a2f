import MusicProviders.Soundcloud.Record
import MusicProviders.Media.Model
import MusicProviders.Text.Title

/-! # Mapping SoundCloud records to the media model

A `Mapper` carries the provider's domain and instance id.

* Every item needs an id ("SoundCloud track without id"); so does the uploader given
  with a track ("SoundCloud user without id").
* A track's title is split into name and version; its duration arrives in milliseconds
  and is kept in whole seconds.
* A non-empty genre becomes the item's genre, a non-empty tag list its style.
* SoundCloud playlists are never editable here.
-/

namespace MusicProviders

namespace Soundcloud

/-- The site that artist pages live on. -/
def siteUrl : String := "https://soundcloud.com"

/-- What mapping needs besides the record. -/
structure Mapper where
  domain : String
  instanceId : String
deriving DecidableEq, Repr, Inhabited

/-- The id of an item, or invalid data when it has none. -/
def requiredId (kind : String) (id : Option String) : Outcome String :=
  match id with
  | some id => .ok id
  | none => .error (.invalidData ("SoundCloud " ++ kind ++ " without id"))

/-- The text when it is present and not empty. -/
def nonEmpty (s : Option String) : Option String := s.filter (!·.isEmpty)

/-- Metadata with the genre and tag list filled in. -/
def withGenreAndTags (m : Metadata) (genre tags : Option String) : Metadata :=
  { m with genres := (nonEmpty genre).toList, style := nonEmpty tags }

namespace Mapper

/-- The provider mapping of an item. -/
def mapping (m : Mapper) (itemId : String) (url : Option String) : ProviderMapping :=
  { ProviderMapping.new itemId m.domain m.instanceId with url := url }

/-- Map a user record to an artist. -/
def parseArtist (m : Mapper) (u : UserRecord) : Outcome Artist := do
  let itemId ← requiredId "user" u.id
  pure { Artist.new itemId m.domain (u.username.getD "") with
    providerMappings := [m.mapping itemId (u.permalink.map (siteUrl ++ "/" ++ ·))]
    metadata := { Metadata.empty with
      description := nonEmpty u.description, images := u.avatarUrl.toList.map Image.thumb } }

/-- Map a playlist record. -/
def parsePlaylist (m : Mapper) (p : PlaylistRecord) : Outcome Playlist := do
  let itemId ← requiredId "playlist" p.id
  pure { Playlist.new itemId m.domain (p.title.getD "") with
    providerMappings := [m.mapping itemId p.permalinkUrl]
    isEditable := false
    metadata := withGenreAndTags { Metadata.empty with
      description := nonEmpty p.description, images := p.artworkUrl.toList.map Image.thumb }
      p.genre p.tagList }

/-- Map a track record with its uploader, when known, at a position. -/
def parseTrack (m : Mapper) (t : TrackRecord) (artist : Option UserRecord)
    (position : TrackPosition) : Outcome Track := do
  let itemId ← requiredId "track" t.id
  let (name, version) := Text.parseTitleAndVersion (t.title.getD "")
  let artists ← match artist with
    | some user => do
      let artistId ← requiredId "user" user.id
      pure [⟨.artist, artistId, m.instanceId, user.username.getD "", user.avatarUrl.map Image.thumb⟩]
    | none => pure []
  pure { Track.new itemId m.domain name with
    version := version
    duration := t.duration.getD 0 / 1000
    position := position
    providerMappings := [{ m.mapping itemId t.permalinkUrl with
      audioFormat := AudioFormat.ofContentType .mp3 }]
    artists := artists
    metadata := withGenreAndTags { Metadata.empty with
      images := t.artworkUrl.toList.map Image.thumb, description := nonEmpty t.description }
      t.genre t.tagList }

/-- Decode and map a user. -/
def artistFromValue (m : Mapper) (v : Json) : Outcome Artist := do
  m.parseArtist (← decode "user" userDecoder v)

/-- Decode and map a playlist. -/
def playlistFromValue (m : Mapper) (v : Json) : Outcome Playlist := do
  m.parsePlaylist (← decode "playlist" playlistDecoder v)

end Mapper

end Soundcloud

end MusicProviders
