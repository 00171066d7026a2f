import MusicProviders.Media.Model
import MusicProviders.Json.Decode

/-! # Reading the media model from JSON

The inverse of the JSON form: each model type is read as a record with the fields of
its JSON form, in declaration order. Fields that the JSON form may leave out are
optional (`sort_name`, `album`, `owner`, `url`, `image`, the format details, the
metadata fields) or have defaults (`version`, `album_type`, `artists`, `metadata`,
`external_ids`, `position`, `audio_format`, and the metadata lists). Sets are
normalised while reading: provider mappings keep the first mapping of each link, genres
and external ids are sorted without repeats.
-/

namespace MusicProviders

namespace Decoder

/-- An enumeration read by its names. -/
def named {α : Type} (all : List α) (name : α → String) : Decoder α :=
  unitVariant (all.map fun a => (name a, a))

/-- A media type. -/
def mediaType : Decoder MediaType := named MediaType.all MediaType.name

/-- An album type. -/
def albumType : Decoder AlbumType := named AlbumType.all AlbumType.name

/-- A content type. -/
def contentType : Decoder ContentType := named ContentType.all ContentType.name

/-- An image type. -/
def imageType : Decoder ImageType := named ImageType.all ImageType.name

/-- An external id kind. -/
def externalIdKind : Decoder ExternalIdKind := named ExternalIdKind.all ExternalIdKind.name

/-- An image. -/
def image : Decoder Image :=
  record "MediaItemImage" [.req "type" imageType, .req "path" string] fun r => do
    pure ⟨← r.req "type" imageType, ← r.req "path" string⟩

/-- An audio format. -/
def audioFormat : Decoder AudioFormat :=
  record "AudioFormat" [.req "content_type" contentType, .opt "sample_rate" u32,
      .opt "bit_depth" u8, .opt "bit_rate" u32] fun r => do
    pure ⟨← r.req "content_type" contentType, ← r.opt "sample_rate" u32,
      ← r.opt "bit_depth" u8, ← r.opt "bit_rate" u32⟩

/-- A set of strings, sorted without repeats. -/
def stringSet : Decoder (List String) := fun v => do
  let items ← list string v
  pure (items.foldl (fun acc s => insertSorted s acc) [])

/-- A set of external ids as `[kind, value]` pairs, sorted without repeats. -/
def externalIds : Decoder (List ExternalId) := fun v => do
  let pairs ← list (pair externalIdKind string) v
  pure (pairs.foldl (fun acc p => ExternalId.insert ⟨p.1, p.2⟩ acc) [])

/-- Metadata. -/
def metadata : Decoder Metadata :=
  record "MediaItemMetadata" [.opt "description" string, .dflt "images" (list image),
      .dflt "genres" stringSet, .opt "style" string, .opt "explicit" bool, .opt "popularity" u64,
      .opt "preview" string, .opt "release_date" string, .opt "checksum" string] fun r => do
    pure ⟨← r.opt "description" string, ← r.dflt "images" (list image) [],
      ← r.dflt "genres" stringSet [], ← r.opt "style" string, ← r.opt "explicit" bool,
      ← r.opt "popularity" u64, ← r.opt "preview" string, ← r.opt "release_date" string,
      ← r.opt "checksum" string⟩

/-- The format of a mapping when none is given. -/
def unknownFormat : AudioFormat := AudioFormat.ofContentType .unknown

/-- A provider mapping. -/
def providerMapping : Decoder ProviderMapping :=
  record "ProviderMapping" [.req "item_id" string, .req "provider_domain" string,
      .req "provider_instance" string, .req "available" bool, .opt "url" string,
      .dflt "audio_format" audioFormat] fun r => do
    pure ⟨← r.req "item_id" string, ← r.req "provider_domain" string,
      ← r.req "provider_instance" string, ← r.req "available" bool, ← r.opt "url" string,
      ← r.dflt "audio_format" audioFormat unknownFormat⟩

/-- A set of provider mappings: the first mapping of each link is kept. -/
def providerMappings : Decoder (List ProviderMapping) := fun v => do
  pure (ProviderMapping.setOf (← list providerMapping v))

/-- An item mapping. -/
def itemMapping : Decoder ItemMapping :=
  record "ItemMapping" [.req "media_type" mediaType, .req "item_id" string,
      .req "provider" string, .req "name" string, .opt "image" image] fun r => do
    pure ⟨← r.req "media_type" mediaType, ← r.req "item_id" string, ← r.req "provider" string,
      ← r.req "name" string, ← r.opt "image" image⟩

/-- A 32-bit count inside a track position. -/
def positionNumber : Decoder Nat := unsignedUpTo (Nat.pow 2 32 - 1) "u32"

/-- The payload of a track position variant. -/
def positionBody (variant : String) (content : Json) : Except DecodeError TrackPosition :=
  match variant with
  | "playlist" =>
    variantRecord "struct variant TrackPosition::Playlist" [.req "position" positionNumber]
      (fun r => do pure (.playlist (← r.req "position" positionNumber))) content
  | "album" =>
    variantRecord "struct variant TrackPosition::Album"
      [.req "disc_number" positionNumber, .req "track_number" positionNumber]
      (fun r => do pure (.album (← r.req "disc_number" positionNumber)
        (← r.req "track_number" positionNumber))) content
  | _ =>
    match content with
    | .array (_ :: items) => .error (.invalidLength (items.length + 1) (inSequence 0))
    | _ => .ok .bare

/-- A track position, tagged by `kind`. -/
def trackPosition : Decoder TrackPosition :=
  tagged "kind" "TrackPosition" ["bare", "playlist", "album"] positionBody

/-- An artist. -/
def artist : Decoder Artist :=
  record "Artist" [.req "item_id" string, .req "provider" string, .req "name" string,
      .dflt "metadata" metadata, .req "provider_mappings" providerMappings] fun r => do
    pure ⟨← r.req "item_id" string, ← r.req "provider" string, ← r.req "name" string,
      ← r.dflt "metadata" metadata .empty, ← r.req "provider_mappings" providerMappings⟩

/-- An album. -/
def album : Decoder Album :=
  record "Album" [.req "item_id" string, .req "provider" string, .req "name" string,
      .dflt "album_type" albumType, .dflt "artists" (list itemMapping), .dflt "metadata" metadata,
      .req "provider_mappings" providerMappings, .dflt "external_ids" externalIds] fun r => do
    pure ⟨← r.req "item_id" string, ← r.req "provider" string, ← r.req "name" string,
      ← r.dflt "album_type" albumType .unknown, ← r.dflt "artists" (list itemMapping) [],
      ← r.dflt "metadata" metadata .empty, ← r.req "provider_mappings" providerMappings,
      ← r.dflt "external_ids" externalIds []⟩

/-- A track. -/
def track : Decoder Track :=
  record "Track" [.req "item_id" string, .req "provider" string, .req "name" string,
      .dflt "version" string, .opt "sort_name" string, .req "duration" u64,
      .dflt "artists" (list itemMapping), .opt "album" itemMapping, .dflt "metadata" metadata,
      .req "provider_mappings" providerMappings, .dflt "external_ids" externalIds,
      .dflt "position" trackPosition] fun r => do
    pure ⟨← r.req "item_id" string, ← r.req "provider" string, ← r.req "name" string,
      ← r.dflt "version" string "", ← r.opt "sort_name" string, ← r.req "duration" u64,
      ← r.dflt "artists" (list itemMapping) [], ← r.opt "album" itemMapping,
      ← r.dflt "metadata" metadata .empty, ← r.req "provider_mappings" providerMappings,
      ← r.dflt "external_ids" externalIds [], ← r.dflt "position" trackPosition .bare⟩

/-- A playlist. -/
def playlist : Decoder Playlist :=
  record "Playlist" [.req "item_id" string, .req "provider" string, .req "name" string,
      .opt "owner" string, .req "is_editable" bool, .dflt "metadata" metadata,
      .req "provider_mappings" providerMappings] fun r => do
    pure ⟨← r.req "item_id" string, ← r.req "provider" string, ← r.req "name" string,
      ← r.opt "owner" string, ← r.req "is_editable" bool, ← r.dflt "metadata" metadata .empty,
      ← r.req "provider_mappings" providerMappings⟩

/-- Search results. -/
def searchResults : Decoder SearchResults :=
  record "SearchResults" [.req "artists" (list artist), .req "albums" (list album),
      .req "tracks" (list track), .req "playlists" (list playlist)] fun r => do
    pure ⟨← r.req "artists" (list artist), ← r.req "albums" (list album),
      ← r.req "tracks" (list track), ← r.req "playlists" (list playlist)⟩

end Decoder

end MusicProviders
