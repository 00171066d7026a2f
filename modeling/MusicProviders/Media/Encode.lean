import MusicProviders.Media.Model
import MusicProviders.Json.Print

/-! # JSON form of the media model

Every model value has one JSON form. Absent optional fields are left out (`sort_name`,
`album`, `owner`, `url`, `image`, the format details and every empty metadata field);
sets are written sorted: genres and external ids by their order, provider mappings by
the compact JSON text of each mapping.
-/

namespace MusicProviders

/-- Members for the present values among optional ones. -/
def presentMembers (fields : List (String × Option Json)) : List (String × Json) :=
  fields.filterMap fun (k, v) => v.map (k, ·)

namespace Image

/-- `{"type", "path"}`. -/
def toJson (i : Image) : Json :=
  .mkObject [("type", .string i.kind.name), ("path", .string i.path)]

end Image

namespace AudioFormat

/-- `{"content_type"}` and the details that are present. -/
def toJson (f : AudioFormat) : Json :=
  .mkObject ([("content_type", .string f.contentType.name)] ++
    presentMembers [("sample_rate", f.sampleRate.map Json.nat),
      ("bit_depth", f.bitDepth.map Json.nat), ("bit_rate", f.bitRate.map Json.nat)])

end AudioFormat

namespace ExternalId

/-- `[kind, value]`. -/
def toJson (x : ExternalId) : Json := .array [.string x.kind.name, .string x.value]

end ExternalId

namespace Metadata

/-- The fields that are present and not empty. -/
def toJson (m : Metadata) : Json :=
  .mkObject (presentMembers [
    ("description", m.description.map .string),
    ("images", if m.images.isEmpty then none else some (.array (m.images.map Image.toJson))),
    ("genres", if m.genres.isEmpty then none else some (.array (m.genres.map .string))),
    ("style", m.style.map .string),
    ("explicit", m.explicit.map .bool),
    ("popularity", m.popularity.map Json.nat),
    ("preview", m.preview.map .string),
    ("release_date", m.releaseDate.map .string),
    ("checksum", m.checksum.map .string)])

end Metadata

namespace ProviderMapping

/-- The JSON form of one mapping. -/
def toJson (m : ProviderMapping) : Json :=
  .mkObject ([("item_id", .string m.itemId), ("provider_domain", .string m.providerDomain),
    ("provider_instance", .string m.providerInstance), ("available", .bool m.available),
    ("audio_format", m.audioFormat.toJson)] ++ presentMembers [("url", m.url.map .string)])

end ProviderMapping

/-- A set of provider mappings, sorted by the compact JSON text of each. -/
def mappingsJson (ms : List ProviderMapping) : Json := .array (sortByText (ms.map ProviderMapping.toJson))

namespace ItemMapping

/-- `{"media_type", "item_id", "provider", "name"}` and the image when present. -/
def toJson (m : ItemMapping) : Json :=
  .mkObject ([("media_type", .string m.mediaType.name), ("item_id", .string m.itemId),
    ("provider", .string m.provider), ("name", .string m.name)] ++
    presentMembers [("image", m.image.map Image.toJson)])

end ItemMapping

namespace TrackPosition

/-- `{"kind": "bare"}`, `{"kind": "playlist", "position"}` or
`{"kind": "album", "disc_number", "track_number"}`. -/
def toJson : TrackPosition → Json
  | .bare => .mkObject [("kind", .string "bare")]
  | .playlist p => .mkObject [("kind", .string "playlist"), ("position", Json.nat p)]
  | .album d t => .mkObject [("kind", .string "album"), ("disc_number", Json.nat d),
      ("track_number", Json.nat t)]

end TrackPosition

/-- The members common to artists, albums, tracks and playlists. -/
def itemMembers (itemId provider name : String) (metadata : Metadata)
    (mappings : List ProviderMapping) : List (String × Json) :=
  [("item_id", .string itemId), ("provider", .string provider), ("name", .string name),
    ("metadata", metadata.toJson), ("provider_mappings", mappingsJson mappings)]

namespace Artist

/-- The JSON form of an artist. -/
def toJson (a : Artist) : Json := .mkObject (itemMembers a.itemId a.provider a.name a.metadata a.providerMappings)

end Artist

namespace Album

/-- The JSON form of an album. -/
def toJson (a : Album) : Json :=
  .mkObject (itemMembers a.itemId a.provider a.name a.metadata a.providerMappings ++
    [("album_type", .string a.albumType.name), ("artists", .array (a.artists.map ItemMapping.toJson)),
      ("external_ids", .array (a.externalIds.map ExternalId.toJson))])

end Album

namespace Track

/-- The JSON form of a track. -/
def toJson (t : Track) : Json :=
  .mkObject (itemMembers t.itemId t.provider t.name t.metadata t.providerMappings ++
    [("version", .string t.version), ("duration", Json.nat t.duration),
      ("artists", .array (t.artists.map ItemMapping.toJson)),
      ("external_ids", .array (t.externalIds.map ExternalId.toJson)),
      ("position", t.position.toJson)] ++
    presentMembers [("sort_name", t.sortName.map .string), ("album", t.album.map ItemMapping.toJson)])

end Track

namespace Playlist

/-- The JSON form of a playlist. -/
def toJson (p : Playlist) : Json :=
  .mkObject (itemMembers p.itemId p.provider p.name p.metadata p.providerMappings ++
    [("is_editable", .bool p.isEditable)] ++ presentMembers [("owner", p.owner.map .string)])

end Playlist

namespace SearchResults

/-- `{"artists", "albums", "tracks", "playlists"}`. -/
def toJson (r : SearchResults) : Json :=
  .mkObject [("artists", .array (r.artists.map Artist.toJson)),
    ("albums", .array (r.albums.map Album.toJson)), ("tracks", .array (r.tracks.map Track.toJson)),
    ("playlists", .array (r.playlists.map Playlist.toJson))]

end SearchResults

/-- An object with one more member. -/
def Json.withMember (v : Json) (key : String) (value : Json) : Json :=
  match v with
  | .object fields => .object (Json.insertField key value fields)
  | v => v

/-- The JSON form of an item: the item's own form with its `media_type`. -/
def MediaItem.toJson : MediaItem → Json
  | .artist a => a.toJson.withMember "media_type" (.string "artist")
  | .album a => a.toJson.withMember "media_type" (.string "album")
  | .track t => t.toJson.withMember "media_type" (.string "track")
  | .playlist p => p.toJson.withMember "media_type" (.string "playlist")
  | .folder itemId provider path name label items =>
    .mkObject [("media_type", .string "folder"), ("item_id", .string itemId),
      ("provider", .string provider), ("path", .string path), ("name", .string name),
      ("label", .string label), ("items", .array (items.attach.map fun ⟨i, _⟩ => MediaItem.toJson i))]

/-- The JSON form of a folder. -/
def BrowseFolder.toJson (f : BrowseFolder) : Json :=
  .mkObject [("item_id", .string f.itemId), ("provider", .string f.provider),
    ("path", .string f.path), ("name", .string f.name), ("label", .string f.label),
    ("items", .array (f.items.map MediaItem.toJson))]

end MusicProviders
