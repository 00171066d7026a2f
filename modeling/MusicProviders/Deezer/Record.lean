import MusicProviders.Json.Decode
import MusicProviders.Provider.Error

/-! # Deezer records

The JSON records of the Deezer API as they are read. Every field is optional: search
results and listings return thin records, lookups return full ones. A record of the
wrong shape is rejected with a decoding error naming the record kind.

* `UserRecord`, `ArtistRecord`, `GenreRecord`, `AlbumRecord`, `TrackRecord`,
  `PlaylistRecord`, with their decoders.
* `PageRecord` — one page of a listing: the raw entries, the URL of the next page and
  the total count.
* `Deezer.decode` — a record or `InvalidData` "malformed Deezer ..."; `Deezer.decodePage`
  — a page or `Api` "malformed Deezer page: ...".
-/

namespace MusicProviders

namespace Deezer

/-- A user. -/
structure UserRecord where
  id : Option Int
  name : Option String
  country : Option String
  link : Option String
deriving DecidableEq, Repr, Inhabited

/-- An artist. -/
structure ArtistRecord where
  id : Option Int
  name : Option String
  link : Option String
  pictureBig : Option String
  nbFan : Option Nat
deriving DecidableEq, Repr, Inhabited

/-- A genre. -/
structure GenreRecord where
  name : Option String
deriving DecidableEq, Repr, Inhabited

/-- An album. -/
structure AlbumRecord where
  id : Option Int
  title : Option String
  link : Option String
  coverBig : Option String
  recordType : Option String
  explicitLyrics : Option Bool
  releaseDate : Option String
  upc : Option String
  artist : Option ArtistRecord
  /-- The `data` list of the `genres` object, when the object is present. -/
  genres : Option (List GenreRecord)
deriving DecidableEq, Repr, Inhabited

/-- A track. -/
structure TrackRecord where
  id : Option Int
  title : Option String
  titleShort : Option String
  link : Option String
  duration : Option Nat
  isrc : Option String
  preview : Option String
  explicitLyrics : Option Bool
  rank : Option Nat
  releaseDate : Option String
  availableCountries : Option (List String)
  artist : Option ArtistRecord
  album : Option AlbumRecord
deriving DecidableEq, Repr, Inhabited

/-- A playlist. -/
structure PlaylistRecord where
  id : Option Int
  title : Option String
  description : Option String
  link : Option String
  pictureBig : Option String
  checksum : Option String
  creator : Option UserRecord
  user : Option UserRecord
deriving DecidableEq, Repr, Inhabited

/-- The owner of a playlist: its creator, or else its user. -/
def PlaylistRecord.owner (p : PlaylistRecord) : Option UserRecord := p.creator.or p.user

/-- One page of a listing. -/
structure PageRecord where
  data : List Json
  next : Option String
  total : Option Nat
deriving Repr, Inhabited

open Decoder in
/-- Decoder of a user. -/
def userDecoder : Decoder UserRecord :=
  record "DeezerUser" [.opt "id" i64, .opt "name" string, .opt "country" string,
      .opt "link" string] fun r => do
    pure ⟨← r.opt "id" i64, ← r.opt "name" string, ← r.opt "country" string, ← r.opt "link" string⟩

open Decoder in
/-- Decoder of an artist. -/
def artistDecoder : Decoder ArtistRecord :=
  record "DeezerArtist" [.opt "id" i64, .opt "name" string, .opt "link" string,
      .opt "picture_big" string, .opt "nb_fan" u64] fun r => do
    pure ⟨← r.opt "id" i64, ← r.opt "name" string, ← r.opt "link" string,
      ← r.opt "picture_big" string, ← r.opt "nb_fan" u64⟩

open Decoder in
/-- Decoder of a genre. -/
def genreDecoder : Decoder GenreRecord :=
  record "DeezerGenre" [.opt "name" string] fun r => do pure ⟨← r.opt "name" string⟩

open Decoder in
/-- Decoder of the genres object: its `data` list, empty when absent. -/
def genresDecoder : Decoder (List GenreRecord) :=
  record "DeezerGenres" [.dflt "data" (list genreDecoder)] fun r => r.dflt "data" (list genreDecoder) []

open Decoder in
/-- Decoder of an album. -/
def albumDecoder : Decoder AlbumRecord :=
  record "DeezerAlbum" [.opt "id" i64, .opt "title" string, .opt "link" string,
      .opt "cover_big" string, .opt "record_type" string, .opt "explicit_lyrics" bool,
      .opt "release_date" string, .opt "upc" string, .opt "artist" artistDecoder,
      .opt "genres" genresDecoder] fun r => do
    pure ⟨← r.opt "id" i64, ← r.opt "title" string, ← r.opt "link" string,
      ← r.opt "cover_big" string, ← r.opt "record_type" string, ← r.opt "explicit_lyrics" bool,
      ← r.opt "release_date" string, ← r.opt "upc" string, ← r.opt "artist" artistDecoder,
      ← r.opt "genres" genresDecoder⟩

open Decoder in
/-- Decoder of a track. -/
def trackDecoder : Decoder TrackRecord :=
  record "DeezerTrack" [.opt "id" i64, .opt "title" string, .opt "title_short" string,
      .opt "link" string, .opt "duration" u64, .opt "isrc" string, .opt "preview" string,
      .opt "explicit_lyrics" bool, .opt "rank" u64, .opt "release_date" string,
      .opt "available_countries" (list string), .opt "artist" artistDecoder,
      .opt "album" albumDecoder] fun r => do
    pure ⟨← r.opt "id" i64, ← r.opt "title" string, ← r.opt "title_short" string,
      ← r.opt "link" string, ← r.opt "duration" u64, ← r.opt "isrc" string,
      ← r.opt "preview" string, ← r.opt "explicit_lyrics" bool, ← r.opt "rank" u64,
      ← r.opt "release_date" string, ← r.opt "available_countries" (list string),
      ← r.opt "artist" artistDecoder, ← r.opt "album" albumDecoder⟩

open Decoder in
/-- Decoder of a playlist. -/
def playlistDecoder : Decoder PlaylistRecord :=
  record "DeezerPlaylist" [.opt "id" i64, .opt "title" string, .opt "description" string,
      .opt "link" string, .opt "picture_big" string, .opt "checksum" string,
      .opt "creator" userDecoder, .opt "user" userDecoder] fun r => do
    pure ⟨← r.opt "id" i64, ← r.opt "title" string, ← r.opt "description" string,
      ← r.opt "link" string, ← r.opt "picture_big" string, ← r.opt "checksum" string,
      ← r.opt "creator" userDecoder, ← r.opt "user" userDecoder⟩

open Decoder in
/-- Decoder of a page. -/
def pageDecoder : Decoder PageRecord :=
  record "Page" [.dflt "data" (list value), .opt "next" string, .opt "total" u64] fun r => do
    pure ⟨← r.dflt "data" (list value) [], ← r.opt "next" string, ← r.opt "total" u64⟩

/-- Decode a record of the given kind; a mismatch is invalid data. -/
def decode {α : Type} (kind : String) (d : Decoder α) (v : Json) : Outcome α :=
  (d v).mapError fun e => .invalidData ("malformed Deezer " ++ kind ++ ": " ++ e.message)

/-- Decode a page of a listing; a mismatch is a vendor error. -/
def decodePage (v : Json) : Outcome PageRecord :=
  (pageDecoder v).mapError fun e => .api ("malformed Deezer page: " ++ e.message)

end Deezer

end MusicProviders
