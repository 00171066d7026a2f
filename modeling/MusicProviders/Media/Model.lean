import MusicProviders.Media.Basic

/-! # The media model

The canonical items every provider produces, whatever the vendor.

* `Image`, `AudioFormat`, `ExternalId`, `Metadata` — descriptive parts.
* `ProviderMapping` — the link from an item to one provider instance's native id;
  two mappings are the same link when instance and id agree, so an item keeps at most
  one mapping per pair (`ProviderMapping.insert`).
* `ItemMapping` — a light reference to another item (a track's album or artists).
* `TrackPosition` — where a track sits: nowhere in particular, in a playlist, or on an
  album's disc.
* `Artist`, `Album`, `Track`, `Playlist`, `SearchResults`, `MediaItem`, `BrowseFolder`.

Sets of the model are lists kept in a canonical form: genres sorted without repeats,
external ids sorted by kind then value without repeats (`ExternalId.insert`).
-/

namespace MusicProviders

/-- An image reference. -/
structure Image where
  kind : ImageType
  path : String
deriving DecidableEq, Repr, Inhabited

/-- A thumbnail image from a URL. -/
def Image.thumb (path : String) : Image := ⟨.thumb, path⟩

/-- Audio format details of a stream or provider mapping. -/
structure AudioFormat where
  contentType : ContentType
  sampleRate : Option Nat
  bitDepth : Option Nat
  bitRate : Option Nat
deriving DecidableEq, Repr, Inhabited

/-- A format of the given content type with no further details. -/
def AudioFormat.ofContentType (contentType : ContentType) : AudioFormat :=
  ⟨contentType, none, none, none⟩

/-- An external identifier: its kind and its value. -/
structure ExternalId where
  kind : ExternalIdKind
  value : String
deriving DecidableEq, Repr, Inhabited

namespace ExternalId

/-- The order of external ids: by kind, then by value. -/
def lt (a b : ExternalId) : Bool :=
  a.kind.rank < b.kind.rank || (a.kind = b.kind && a.value < b.value)

/-- Insert into a sorted list without repeats, keeping it so. -/
def insert (x : ExternalId) : List ExternalId → List ExternalId
  | [] => [x]
  | y :: ys => if x = y then y :: ys else if lt x y then x :: y :: ys else y :: insert x ys

end ExternalId

/-- Insert a string into a sorted list without repeats, keeping it so. -/
def insertSorted (x : String) : List String → List String
  | [] => [x]
  | y :: ys => if x = y then y :: ys else if x < y then x :: y :: ys else y :: insertSorted x ys

/-- Optional descriptive metadata of an item. -/
structure Metadata where
  description : Option String
  images : List Image
  /-- Sorted, without repeats. -/
  genres : List String
  style : Option String
  explicit : Option Bool
  popularity : Option Nat
  preview : Option String
  releaseDate : Option String
  checksum : Option String
deriving DecidableEq, Repr, Inhabited

/-- Metadata with nothing filled in. -/
def Metadata.empty : Metadata := ⟨none, [], [], none, none, none, none, none, none⟩

/-- The link from an item to one provider instance's native id. -/
structure ProviderMapping where
  itemId : String
  providerDomain : String
  providerInstance : String
  available : Bool
  url : Option String
  audioFormat : AudioFormat
deriving DecidableEq, Repr, Inhabited

namespace ProviderMapping

/-- An available mapping without a URL and of unknown format. -/
def new (itemId providerDomain providerInstance : String) : ProviderMapping :=
  ⟨itemId, providerDomain, providerInstance, true, none, AudioFormat.ofContentType .unknown⟩

/-- Two mappings are the same link when instance and item id agree. -/
def sameLink (a b : ProviderMapping) : Bool :=
  a.providerInstance == b.providerInstance && a.itemId == b.itemId

/-- Add a mapping to a set of mappings; an existing mapping of the same link stays. -/
def insert (m : ProviderMapping) (set : List ProviderMapping) : List ProviderMapping :=
  if set.any (sameLink m) then set else set ++ [m]

/-- The set of mappings of a list, the first of each link kept. -/
def setOf (ms : List ProviderMapping) : List ProviderMapping := ms.foldl (fun s m => insert m s) []

end ProviderMapping

/-- A light reference to another item. -/
structure ItemMapping where
  mediaType : MediaType
  itemId : String
  provider : String
  name : String
  image : Option Image
deriving DecidableEq, Repr, Inhabited

/-- Where a track sits. -/
inductive TrackPosition
  /-- Nowhere in particular. -/
  | bare
  /-- At a 1-based position in a playlist. -/
  | playlist (position : Nat)
  /-- On an album's disc. -/
  | album (discNumber trackNumber : Nat)
deriving DecidableEq, Repr, Inhabited

/-- An artist. -/
structure Artist where
  itemId : String
  provider : String
  name : String
  metadata : Metadata
  providerMappings : List ProviderMapping
deriving DecidableEq, Repr, Inhabited

/-- An album. -/
structure Album where
  itemId : String
  provider : String
  name : String
  albumType : AlbumType
  artists : List ItemMapping
  metadata : Metadata
  providerMappings : List ProviderMapping
  externalIds : List ExternalId
deriving DecidableEq, Repr, Inhabited

/-- A track. -/
structure Track where
  itemId : String
  provider : String
  name : String
  version : String
  sortName : Option String
  duration : Nat
  artists : List ItemMapping
  album : Option ItemMapping
  metadata : Metadata
  providerMappings : List ProviderMapping
  externalIds : List ExternalId
  position : TrackPosition
deriving DecidableEq, Repr, Inhabited

/-- A playlist. -/
structure Playlist where
  itemId : String
  provider : String
  name : String
  owner : Option String
  isEditable : Bool
  metadata : Metadata
  providerMappings : List ProviderMapping
deriving DecidableEq, Repr, Inhabited

namespace Artist

/-- An artist with only id, provider and name. -/
def new (itemId provider name : String) : Artist := ⟨itemId, provider, name, .empty, []⟩

/-- A reference to the artist on a provider instance, with its first image. -/
def toItemMapping (a : Artist) (providerInstance : String) : ItemMapping :=
  ⟨.artist, a.itemId, providerInstance, a.name, a.metadata.images.head?⟩

end Artist

/-- Names of referenced artists joined by a separator. -/
def artistsString (artists : List ItemMapping) (separator : String) : String :=
  separator.intercalate (artists.map (·.name))

namespace Album

/-- An album with only id, provider and name. -/
def new (itemId provider name : String) : Album := ⟨itemId, provider, name, .unknown, [], .empty, [], []⟩

end Album

namespace Track

/-- A track with only id, provider and name. -/
def new (itemId provider name : String) : Track :=
  ⟨itemId, provider, name, "", none, 0, [], none, .empty, [], [], .bare⟩

/-- The track's ISRC, the first external id of that kind. -/
def isrc (t : Track) : Option String := (t.externalIds.find? (·.kind = .isrc)).map (·.value)

/-- The position in a playlist, when the track has one. -/
def playlistPosition (t : Track) : Option Nat :=
  match t.position with
  | .playlist p => some p
  | _ => none

end Track

namespace Playlist

/-- A playlist with only id, provider and name. -/
def new (itemId provider name : String) : Playlist := ⟨itemId, provider, name, none, false, .empty, []⟩

end Playlist

/-- The answer to a search: one list per searchable kind. -/
structure SearchResults where
  artists : List Artist
  albums : List Album
  tracks : List Track
  playlists : List Playlist
deriving DecidableEq, Repr, Inhabited

/-- The number of items found. -/
def SearchResults.count (r : SearchResults) : Nat :=
  r.artists.length + r.albums.length + r.tracks.length + r.playlists.length

/-- Any item, or a folder of items. -/
inductive MediaItem
  | artist (a : Artist)
  | album (a : Album)
  | track (t : Track)
  | playlist (p : Playlist)
  | folder (itemId provider path name label : String) (items : List MediaItem)
deriving Repr, Inhabited

/-- A folder of items offered for browsing. -/
structure BrowseFolder where
  itemId : String
  provider : String
  path : String
  name : String
  label : String
  items : List MediaItem
deriving Repr, Inhabited

end MusicProviders
