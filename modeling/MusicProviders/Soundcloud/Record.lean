import MusicProviders.Json.Decode
import MusicProviders.Json.Print
import MusicProviders.Provider.Error

/-! # SoundCloud records

The JSON records of the SoundCloud API as they are read; every field is optional.

* `decodeId` — SoundCloud ids arrive as numbers or strings; a number stands for its
  text, a string for itself unless it is empty; anything else is rejected with
  "invalid id: " and the value's JSON text.
* `UserRecord`, `TranscodingRecord`, `TrackRecord`, `PlaylistRecord` and
  `CollectionRecord` (one page of a listing: the raw entries and the next page's URL),
  with their decoders.
* `Soundcloud.decode`, `Soundcloud.decodeCollection` — records with the error kinds of
  the provider: invalid data for a record, a vendor error for a page.
* `nestedId` — the id of the record under a key of a listing entry (or of the entry).
-/

namespace MusicProviders

namespace Soundcloud

/-- Decoder of an id: a number's text or a non-empty string. -/
def decodeId : Decoder String
  | .number n => .ok n.text
  | .string s => if s.isEmpty then .error (.custom ("invalid id: " ++ (Json.string s).render)) else .ok s
  | v => .error (.custom ("invalid id: " ++ v.render))

/-- A user. -/
structure UserRecord where
  id : Option String
  username : Option String
  permalink : Option String
  avatarUrl : Option String
  description : Option String
deriving DecidableEq, Repr, Inhabited

/-- One available encoding of a track. -/
structure TranscodingRecord where
  url : Option String
  preset : Option String
  /-- The `protocol` of the `format` object, when present. -/
  protocol : Option String
  /-- The `mime_type` of the `format` object, when present. -/
  mimeType : Option String
deriving DecidableEq, Repr, Inhabited

/-- Whether the encoding is served as one progressive download. -/
def TranscodingRecord.isProgressive (t : TranscodingRecord) : Bool := t.protocol == some "progressive"

/-- A track. -/
structure TrackRecord where
  id : Option String
  title : Option String
  duration : Option Nat
  permalinkUrl : Option String
  artworkUrl : Option String
  description : Option String
  genre : Option String
  tagList : Option String
  user : Option UserRecord
  /-- The `transcodings` of the `media` object; empty without one. -/
  transcodings : List TranscodingRecord
  trackAuthorization : Option String
deriving DecidableEq, Repr, Inhabited

/-- A playlist. -/
structure PlaylistRecord where
  id : Option String
  title : Option String
  description : Option String
  artworkUrl : Option String
  permalinkUrl : Option String
  genre : Option String
  tagList : Option String
  tracks : List Json
deriving Repr, Inhabited

/-- One page of a listing. -/
structure CollectionRecord where
  collection : List Json
  nextHref : Option String
deriving Repr, Inhabited

open Decoder in
/-- Decoder of a user. -/
def userDecoder : Decoder UserRecord :=
  record "SoundcloudUser" [.opt "id" decodeId, .opt "username" string, .opt "permalink" string,
      .opt "avatar_url" string, .opt "description" string] fun r => do
    pure ⟨← r.opt "id" decodeId, ← r.opt "username" string, ← r.opt "permalink" string,
      ← r.opt "avatar_url" string, ← r.opt "description" string⟩

open Decoder in
/-- Decoder of the `format` object of an encoding: protocol and mime type. -/
def formatDecoder : Decoder (Option String × Option String) :=
  record "TranscodingFormat" [.opt "protocol" string, .opt "mime_type" string] fun r => do
    pure (← r.opt "protocol" string, ← r.opt "mime_type" string)

open Decoder in
/-- Decoder of an encoding. -/
def transcodingDecoder : Decoder TranscodingRecord :=
  record "Transcoding" [.opt "url" string, .opt "preset" string, .opt "format" formatDecoder]
    fun r => do
      let format ← r.opt "format" formatDecoder
      pure ⟨← r.opt "url" string, ← r.opt "preset" string, format.bind (·.1), format.bind (·.2)⟩

open Decoder in
/-- Decoder of the `media` object: its encodings. -/
def mediaDecoder : Decoder (List TranscodingRecord) :=
  record "SoundcloudMedia" [.dflt "transcodings" (list transcodingDecoder)] fun r =>
    r.dflt "transcodings" (list transcodingDecoder) []

open Decoder in
/-- Decoder of a track. -/
def trackDecoder : Decoder TrackRecord :=
  record "SoundcloudTrack" [.opt "id" decodeId, .opt "title" string, .opt "duration" u64,
      .opt "permalink_url" string, .opt "artwork_url" string, .opt "description" string,
      .opt "genre" string, .opt "tag_list" string, .opt "user" userDecoder,
      .opt "media" mediaDecoder, .opt "track_authorization" string] fun r => do
    pure ⟨← r.opt "id" decodeId, ← r.opt "title" string, ← r.opt "duration" u64,
      ← r.opt "permalink_url" string, ← r.opt "artwork_url" string, ← r.opt "description" string,
      ← r.opt "genre" string, ← r.opt "tag_list" string, ← r.opt "user" userDecoder,
      (← r.opt "media" mediaDecoder).getD [], ← r.opt "track_authorization" string⟩

open Decoder in
/-- Decoder of a playlist. -/
def playlistDecoder : Decoder PlaylistRecord :=
  record "SoundcloudPlaylist" [.opt "id" decodeId, .opt "title" string,
      .opt "description" string, .opt "artwork_url" string, .opt "permalink_url" string,
      .opt "genre" string, .opt "tag_list" string, .dflt "tracks" (list value)] fun r => do
    pure ⟨← r.opt "id" decodeId, ← r.opt "title" string, ← r.opt "description" string,
      ← r.opt "artwork_url" string, ← r.opt "permalink_url" string, ← r.opt "genre" string,
      ← r.opt "tag_list" string, ← r.dflt "tracks" (list value) []⟩

open Decoder in
/-- Decoder of a page. -/
def collectionDecoder : Decoder CollectionRecord :=
  record "Collection" [.dflt "collection" (list value), .opt "next_href" string] fun r => do
    pure ⟨← r.dflt "collection" (list value) [], ← r.opt "next_href" string⟩

/-- Decode a record of the given kind; a mismatch is invalid data. -/
def decode {α : Type} (kind : String) (d : Decoder α) (v : Json) : Outcome α :=
  (d v).mapError fun e => .invalidData ("malformed SoundCloud " ++ kind ++ ": " ++ e.message)

/-- Decode a page of a listing; a mismatch is a vendor error. -/
def decodeCollection (v : Json) : Outcome CollectionRecord :=
  (collectionDecoder v).mapError fun e => .api ("malformed SoundCloud collection: " ++ e.message)

/-- The id of the record under `key` in a listing entry, or of the entry itself. -/
def nestedId (entry : Json) (key : Option String) : Outcome String :=
  let recordValue := match key with
    | some k => entry.get? k
    | none => some entry
  match recordValue.bind (·.get? "id") with
  | some id => decode "id" decodeId id
  | none => .error (.invalidData ("SoundCloud entry without " ++ key.getD "item" ++ " id"))

end Soundcloud

end MusicProviders
