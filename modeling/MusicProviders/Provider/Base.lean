import MusicProviders.Provider.Config
import MusicProviders.Provider.Host
import MusicProviders.Media.Basic

/-! # Provider instances

What every provider instance has, whatever its vendor: the manifest of its provider,
its configuration, the host's instance count for its domain, and whether it is
available (set up and usable).

* `ProviderFeature` — the optional capabilities a provider may support.
* `Manifest` — a provider's domain and human name.
* `Instance` — an instance's common state, with `displayName`: the configured name when
  not empty; else the provider's name, followed, when the host runs several instances
  of the domain, by a dot and the instance id without its last eight characters.
* `Instance.toDict` — the instance as the host lists it.
-/

namespace MusicProviders

/-- An optional capability of a provider. -/
inductive ProviderFeature
  | libraryArtists | libraryAlbums | libraryTracks | libraryPlaylists
  | libraryArtistsEdit | libraryAlbumsEdit | libraryTracksEdit | libraryPlaylistsEdit
  | artistMetadata | albumMetadata | trackMetadata | artistAlbums | artistToptracks
  | browse | search | playlistTracksEdit | playlistCreate | recommendations | similarTracks
deriving DecidableEq, Repr, Inhabited

namespace ProviderFeature

/-- All features, in declaration order. -/
def all : List ProviderFeature :=
  [.libraryArtists, .libraryAlbums, .libraryTracks, .libraryPlaylists, .libraryArtistsEdit,
    .libraryAlbumsEdit, .libraryTracksEdit, .libraryPlaylistsEdit, .artistMetadata,
    .albumMetadata, .trackMetadata, .artistAlbums, .artistToptracks, .browse, .search,
    .playlistTracksEdit, .playlistCreate, .recommendations, .similarTracks]

/-- Wire name. -/
def name : ProviderFeature → String
  | .libraryArtists => "library_artists"
  | .libraryAlbums => "library_albums"
  | .libraryTracks => "library_tracks"
  | .libraryPlaylists => "library_playlists"
  | .libraryArtistsEdit => "library_artists_edit"
  | .libraryAlbumsEdit => "library_albums_edit"
  | .libraryTracksEdit => "library_tracks_edit"
  | .libraryPlaylistsEdit => "library_playlists_edit"
  | .artistMetadata => "artist_metadata"
  | .albumMetadata => "album_metadata"
  | .trackMetadata => "track_metadata"
  | .artistAlbums => "artist_albums"
  | .artistToptracks => "artist_toptracks"
  | .browse => "browse"
  | .search => "search"
  | .playlistTracksEdit => "playlist_tracks_edit"
  | .playlistCreate => "playlist_create"
  | .recommendations => "recommendations"
  | .similarTracks => "similar_tracks"

end ProviderFeature

/-- A provider's identity. -/
structure Manifest where
  domain : String
  name : String
  description : String
deriving DecidableEq, Repr, Inhabited

/-- The state every provider instance has. -/
structure Instance where
  manifest : Manifest
  config : ProviderConfig
  /-- The host's instance count for the provider's domain. -/
  instanceCount : Nat
  available : Bool
deriving DecidableEq, Repr, Inhabited

namespace Instance

/-- A fresh, unavailable instance on a host. -/
def new (host : Host) (manifest : Manifest) (config : ProviderConfig) : Instance :=
  ⟨manifest, config, host.instanceCount manifest.domain, false⟩

/-- The provider's domain. -/
def domain (i : Instance) : String := i.manifest.domain

/-- The instance id. -/
def instanceId (i : Instance) : String := i.config.instanceId

/-- The name shown for the instance. -/
def displayName (i : Instance) : String :=
  match i.config.name.filter (!·.isEmpty) with
  | some name => name
  | none =>
    if i.instanceCount > 1 then
      let id := i.instanceId.toList
      i.manifest.name ++ "." ++ String.ofList (id.take (id.length - 8))
    else i.manifest.name

/-- The instance as the host lists it. -/
def toDict (i : Instance) (features : List ProviderFeature) : Json :=
  .mkObject [("type", .string "music"), ("domain", .string i.domain),
    ("name", .string i.displayName), ("instance_id", .string i.instanceId),
    ("supported_features", .array (features.map (Json.string ·.name))),
    ("available", .bool i.available)]

/-- Diagnostic form: domain, instance id and availability. -/
def debugText (i : Instance) : String :=
  "ProviderBase \x7b domain: " ++ Text.debugQuote i.domain ++ ", instance_id: " ++
    Text.debugQuote i.instanceId ++ ", available: " ++ toString i.available ++ " \x7d"

end Instance

end MusicProviders
