import MusicProviders.Media.Basic
import MusicProviders.Provider.Error

/-! # Calls to a provider instance

Everything a host can ask of a music provider instance, as data: lifecycle (set up,
unload), description (info, features, availability), catalog lookups and listings,
library and playlist edits, and playback.

* `Call` — one request to an instance.
* `Call.operationName` — the name under which a provider that does not implement an
  operation reports it.
-/

namespace MusicProviders

/-- A request to a provider instance. -/
inductive Call
  /-- Display name and host listing. -/
  | info
  /-- The supported features. -/
  | supportedFeatures
  /-- Whether the instance is usable. -/
  | available
  /-- Sign in with the configured credentials. -/
  | setup
  /-- Drop the session. -/
  | unload
  /-- Diagnostic form of the instance. -/
  | debug
  /-- Search the catalog for items of the given kinds (all kinds when none is given). -/
  | search (query : String) (mediaTypes : List MediaType) (limit : Nat)
  | libraryArtists
  | libraryAlbums
  | libraryTracks
  | libraryPlaylists
  | getArtist (id : String)
  | getAlbum (id : String)
  | getTrack (id : String)
  | getPlaylist (id : String)
  | albumTracks (id : String)
  | playlistTracks (id : String)
  | artistAlbums (id : String)
  | artistToptracks (id : String)
  | similarTracks (id : String) (limit : Nat)
  | recommendations
  | libraryAdd (id : String) (mediaType : MediaType)
  | libraryRemove (id : String) (mediaType : MediaType)
  | addPlaylistTracks (id : String) (trackIds : List String)
  | removePlaylistTracks (id : String) (positions : List Nat)
  | createPlaylist (name : String)
  /-- How to stream an item; the details are kept for the next `audioStream`. -/
  | streamDetails (id : String)
  /-- Open the audio of the kept details (or of item `itemId` when none are kept) from a
  position in seconds; `size` and `duration`, when given, replace the details' own. -/
  | audioStream (seekPosition : Nat) (itemId : Option String) (size duration : Option (Option Nat))
deriving DecidableEq, Repr, Inhabited

namespace Call

/-- The operation's name when a provider does not implement it. -/
def operationName : Call → String
  | .search .. => "search"
  | .libraryArtists => "get_library_artists"
  | .libraryAlbums => "get_library_albums"
  | .libraryTracks => "get_library_tracks"
  | .libraryPlaylists => "get_library_playlists"
  | .getArtist _ => "get_artist"
  | .getAlbum _ => "get_album"
  | .getTrack _ => "get_track"
  | .getPlaylist _ => "get_playlist"
  | .albumTracks _ => "get_album_tracks"
  | .playlistTracks _ => "get_playlist_tracks"
  | .artistAlbums _ => "get_artist_albums"
  | .artistToptracks _ => "get_artist_toptracks"
  | .similarTracks .. => "get_similar_tracks"
  | .recommendations => "recommendations"
  | .libraryAdd .. => "library_add"
  | .libraryRemove .. => "library_remove"
  | .addPlaylistTracks .. => "add_playlist_tracks"
  | .removePlaylistTracks .. => "remove_playlist_tracks"
  | .createPlaylist _ => "create_playlist"
  | .streamDetails _ => "get_stream_details"
  | .audioStream .. => "get_audio_stream"
  | .info => "info"
  | .supportedFeatures => "supported_features"
  | .available => "available"
  | .setup => "handle_setup"
  | .unload => "unload"
  | .debug => "debug"

/-- Whether the call drains a listing (its answer is a list of item answers). -/
def isListing : Call → Bool
  | .libraryArtists | .libraryAlbums | .libraryTracks | .libraryPlaylists | .playlistTracks _ => true
  | _ => false

/-- The failure of an operation that the provider does not implement. -/
def notImplemented (c : Call) : ProviderError := .notImplemented c.operationName

end Call

end MusicProviders
