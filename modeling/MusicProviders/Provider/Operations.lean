import MusicProviders.Provider.Call
import MusicProviders.Provider.Paging
import MusicProviders.Media.Stream

/-! # What a provider instance can do

The catalog, library and playback operations of a provider instance, as a record of
exchanges. A provider fills in the operations it implements; `Operations.unsupported`
answers every other one with `NotImplemented`, naming the operation, and only stream
details must always be given. Listings answer a list of per-item outcomes: a listing
that cannot start answers a single failure.

* `AudioStream` — the items of an opened audio stream and the details as updated by
  opening it.
* `Operations` — the record; `Operations.unsupported` — the defaults.
-/

namespace MusicProviders

/-- An opened audio stream: its items (byte chunks or a final failure) and the stream
details with what opening them recorded. -/
structure AudioStream where
  items : List (Outcome Bytes)
  details : StreamDetails
deriving Repr, Inhabited

/-- The catalog, library and playback operations of an instance. -/
structure Operations where
  search : String → List MediaType → Nat → Http SearchResults
  libraryArtists : Exchange (List (Outcome Artist))
  libraryAlbums : Exchange (List (Outcome Album))
  libraryTracks : Exchange (List (Outcome Track))
  libraryPlaylists : Exchange (List (Outcome Playlist))
  getArtist : String → Http (Option Artist)
  getAlbum : String → Http (Option Album)
  getTrack : String → Http (Option Track)
  getPlaylist : String → Http (Option Playlist)
  albumTracks : String → Http (List Track)
  playlistTracks : String → Exchange (List (Outcome Track))
  artistAlbums : String → Http (List Album)
  artistToptracks : String → Http (List Track)
  similarTracks : String → Nat → Http (List Track)
  recommendations : Http (List BrowseFolder)
  libraryAdd : String → MediaType → Http Bool
  libraryRemove : String → MediaType → Http Bool
  addPlaylistTracks : String → List String → Http Unit
  removePlaylistTracks : String → List Nat → Http Unit
  createPlaylist : String → Http Playlist
  streamDetails : String → Http StreamDetails
  /-- Open the audio of stream details from a position in seconds. -/
  audioStream : StreamDetails → Nat → Http AudioStream
  /-- Report finished stream details back to the provider, when they ask for it. -/
  finish : StreamDetails → Http Unit

/-- A listing that fails at once. -/
def failedListing {α : Type} (e : ProviderError) : Exchange (List (Outcome α)) := pure [.error e]

namespace Operations

/-- Operations of which only stream details are implemented. -/
def unsupported (streamDetails : String → Http StreamDetails) : Operations where
  search _ _ _ := Http.fail (.notImplemented "search")
  libraryArtists := failedListing (.notImplemented "get_library_artists")
  libraryAlbums := failedListing (.notImplemented "get_library_albums")
  libraryTracks := failedListing (.notImplemented "get_library_tracks")
  libraryPlaylists := failedListing (.notImplemented "get_library_playlists")
  getArtist _ := Http.fail (.notImplemented "get_artist")
  getAlbum _ := Http.fail (.notImplemented "get_album")
  getTrack _ := Http.fail (.notImplemented "get_track")
  getPlaylist _ := Http.fail (.notImplemented "get_playlist")
  albumTracks _ := Http.fail (.notImplemented "get_album_tracks")
  playlistTracks _ := failedListing (.notImplemented "get_playlist_tracks")
  artistAlbums _ := Http.fail (.notImplemented "get_artist_albums")
  artistToptracks _ := Http.fail (.notImplemented "get_artist_toptracks")
  similarTracks _ _ := Http.fail (.notImplemented "get_similar_tracks")
  recommendations := Http.fail (.notImplemented "recommendations")
  libraryAdd _ _ := Http.fail (.notImplemented "library_add")
  libraryRemove _ _ := Http.fail (.notImplemented "library_remove")
  addPlaylistTracks _ _ := Http.fail (.notImplemented "add_playlist_tracks")
  removePlaylistTracks _ _ := Http.fail (.notImplemented "remove_playlist_tracks")
  createPlaylist _ := Http.fail (.notImplemented "create_playlist")
  streamDetails := streamDetails
  audioStream _ _ := Http.fail (.notImplemented "get_audio_stream")
  finish _ := pure ()

end Operations

end MusicProviders
