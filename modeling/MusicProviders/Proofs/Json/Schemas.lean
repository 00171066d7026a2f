import MusicProviders.Proofs.Json.Shapes
import MusicProviders.Deezer.Record
import MusicProviders.Soundcloud.Record

/-! # The shapes of the vendors' records

The records of the Deezer and SoundCloud APIs declare every field optional, with the
listings' entry lists defaulted to empty. Their declared shapes, field by field, and the
fact that each decoder reads exactly the values of its record's shape:

* `Deezer.userShape`, ..., `Deezer.pageShape`, `Soundcloud.userShape`, ...,
  `Soundcloud.collectionShape` — the declared fields; nested records are fields of their
  record's shape, in either of its forms.
* `Soundcloud.accepts_decodeId` — an id is any number or a non-empty string.
* `vendorRecords_read_declared_shapes` — every record decoder accepts exactly its
  declared shape, an object or an array of the fields in order; a failure is invalid data
  for a record and a vendor error for a page.
* `decodePage_reads_array` — a page given as an array of its fields is read, though
  it is no object.
-/

namespace MusicProviders

open Json (IsI64 IsU64 IsString IsBool IsArrayOf)
open Declared (Conforms)
open Decoder (Accepts accepts_i64 accepts_u64 accepts_string accepts_bool accepts_value
  accepts_list recordAs_accepts)

namespace Deezer

def userShape : List Declared :=
  [.opt "id" IsI64, .opt "name" IsString, .opt "country" IsString, .opt "link" IsString]

def artistShape : List Declared :=
  [.opt "id" IsI64, .opt "name" IsString, .opt "link" IsString, .opt "picture_big" IsString,
    .opt "nb_fan" IsU64]

def genreShape : List Declared := [.opt "name" IsString]

def genresShape : List Declared := [.dflt "data" (IsArrayOf (Conforms genreShape))]

def albumShape : List Declared :=
  [.opt "id" IsI64, .opt "title" IsString, .opt "link" IsString, .opt "cover_big" IsString,
    .opt "record_type" IsString, .opt "explicit_lyrics" IsBool, .opt "release_date" IsString,
    .opt "upc" IsString, .opt "artist" (Conforms artistShape), .opt "genres" (Conforms genresShape)]

def trackShape : List Declared :=
  [.opt "id" IsI64, .opt "title" IsString, .opt "title_short" IsString, .opt "link" IsString,
    .opt "duration" IsU64, .opt "isrc" IsString, .opt "preview" IsString,
    .opt "explicit_lyrics" IsBool, .opt "rank" IsU64, .opt "release_date" IsString,
    .opt "available_countries" (IsArrayOf IsString), .opt "artist" (Conforms artistShape),
    .opt "album" (Conforms albumShape)]

def playlistShape : List Declared :=
  [.opt "id" IsI64, .opt "title" IsString, .opt "description" IsString, .opt "link" IsString,
    .opt "picture_big" IsString, .opt "checksum" IsString, .opt "creator" (Conforms userShape),
    .opt "user" (Conforms userShape)]

/-- A page: its entries, any values, default to none. -/
def pageShape : List Declared :=
  [.dflt "data" (IsArrayOf fun _ => True), .opt "next" IsString, .opt "total" IsU64]

-- Each record: its fields realize the declared ones, their names are distinct, and once
-- the fields are checked every one of them reads, so that the record is built.

theorem accepts_user : Accepts userDecoder (Conforms userShape) := by
  unfold userDecoder Decoder.record
  apply recordAs_accepts
  · exact .cons (.opt accepts_i64) <| .cons (.opt accepts_string) <|
      .cons (.opt accepts_string) <| .cons (.opt accepts_string) .nil
  · decide
  · intro r sound
    simp (disch := simp) only [sound.opt_eq, Decoder.ok_bind]
    exact ⟨_, rfl⟩

theorem accepts_artist : Accepts artistDecoder (Conforms artistShape) := by
  unfold artistDecoder Decoder.record
  apply recordAs_accepts
  · exact .cons (.opt accepts_i64) <| .cons (.opt accepts_string) <|
      .cons (.opt accepts_string) <| .cons (.opt accepts_string) <| .cons (.opt accepts_u64) .nil
  · decide
  · intro r sound
    simp (disch := simp) only [sound.opt_eq, Decoder.ok_bind]
    exact ⟨_, rfl⟩

theorem accepts_genre : Accepts genreDecoder (Conforms genreShape) := by
  unfold genreDecoder Decoder.record
  apply recordAs_accepts
  · exact .cons (.opt accepts_string) .nil
  · decide
  · intro r sound
    simp (disch := simp) only [sound.opt_eq, Decoder.ok_bind]
    exact ⟨_, rfl⟩

theorem accepts_genres : Accepts genresDecoder (Conforms genresShape) := by
  unfold genresDecoder Decoder.record
  apply recordAs_accepts
  · exact .cons (.dflt (accepts_list accepts_genre)) .nil
  · decide
  · intro r sound
    simp (disch := simp) only [sound.dflt_eq]
    exact ⟨_, rfl⟩

theorem accepts_album : Accepts albumDecoder (Conforms albumShape) := by
  unfold albumDecoder Decoder.record
  apply recordAs_accepts
  · exact .cons (.opt accepts_i64) <| .cons (.opt accepts_string) <|
      .cons (.opt accepts_string) <| .cons (.opt accepts_string) <|
      .cons (.opt accepts_string) <| .cons (.opt accepts_bool) <| .cons (.opt accepts_string) <|
      .cons (.opt accepts_string) <| .cons (.opt accepts_artist) <|
      .cons (.opt accepts_genres) .nil
  · decide
  · intro r sound
    simp (disch := simp) only [sound.opt_eq, Decoder.ok_bind]
    exact ⟨_, rfl⟩

theorem accepts_track : Accepts trackDecoder (Conforms trackShape) := by
  unfold trackDecoder Decoder.record
  apply recordAs_accepts
  · exact .cons (.opt accepts_i64) <| .cons (.opt accepts_string) <|
      .cons (.opt accepts_string) <| .cons (.opt accepts_string) <| .cons (.opt accepts_u64) <|
      .cons (.opt accepts_string) <| .cons (.opt accepts_string) <| .cons (.opt accepts_bool) <|
      .cons (.opt accepts_u64) <| .cons (.opt accepts_string) <|
      .cons (.opt (accepts_list accepts_string)) <| .cons (.opt accepts_artist) <|
      .cons (.opt accepts_album) .nil
  · decide
  · intro r sound
    simp (disch := simp) only [sound.opt_eq, Decoder.ok_bind]
    exact ⟨_, rfl⟩

theorem accepts_playlist : Accepts playlistDecoder (Conforms playlistShape) := by
  unfold playlistDecoder Decoder.record
  apply recordAs_accepts
  · exact .cons (.opt accepts_i64) <| .cons (.opt accepts_string) <|
      .cons (.opt accepts_string) <| .cons (.opt accepts_string) <|
      .cons (.opt accepts_string) <| .cons (.opt accepts_string) <| .cons (.opt accepts_user) <|
      .cons (.opt accepts_user) .nil
  · decide
  · intro r sound
    simp (disch := simp) only [sound.opt_eq, Decoder.ok_bind]
    exact ⟨_, rfl⟩

theorem accepts_page : Accepts pageDecoder (Conforms pageShape) := by
  unfold pageDecoder Decoder.record
  apply recordAs_accepts
  · exact .cons (.dflt (accepts_list accepts_value)) <| .cons (.opt accepts_string) <|
      .cons (.opt accepts_u64) .nil
  · decide
  · intro r sound
    simp (disch := simp) only [sound.opt_eq, sound.dflt_eq, Decoder.ok_bind]
    exact ⟨_, rfl⟩

end Deezer

namespace Soundcloud

/-- An id: any number, or a non-empty string. -/
def IsId : Json → Prop
  | .number _ => True
  | .string s => s ≠ ""
  | _ => False

theorem accepts_decodeId : Accepts decodeId IsId := by
  intro v
  cases v
  case string s => by_cases empty : s = "" <;> simp [decodeId, IsId, empty]
  all_goals simp [decodeId, IsId]

def userShape : List Declared :=
  [.opt "id" IsId, .opt "username" IsString, .opt "permalink" IsString,
    .opt "avatar_url" IsString, .opt "description" IsString]

def formatShape : List Declared := [.opt "protocol" IsString, .opt "mime_type" IsString]

def transcodingShape : List Declared :=
  [.opt "url" IsString, .opt "preset" IsString, .opt "format" (Conforms formatShape)]

def mediaShape : List Declared := [.dflt "transcodings" (IsArrayOf (Conforms transcodingShape))]

def trackShape : List Declared :=
  [.opt "id" IsId, .opt "title" IsString, .opt "duration" IsU64, .opt "permalink_url" IsString,
    .opt "artwork_url" IsString, .opt "description" IsString, .opt "genre" IsString,
    .opt "tag_list" IsString, .opt "user" (Conforms userShape), .opt "media" (Conforms mediaShape),
    .opt "track_authorization" IsString]

/-- A playlist: its track stubs, any values, default to none. -/
def playlistShape : List Declared :=
  [.opt "id" IsId, .opt "title" IsString, .opt "description" IsString,
    .opt "artwork_url" IsString, .opt "permalink_url" IsString, .opt "genre" IsString,
    .opt "tag_list" IsString, .dflt "tracks" (IsArrayOf fun _ => True)]

/-- A page: its entries, any values, default to none. -/
def collectionShape : List Declared :=
  [.dflt "collection" (IsArrayOf fun _ => True), .opt "next_href" IsString]

theorem accepts_user : Accepts userDecoder (Conforms userShape) := by
  unfold userDecoder Decoder.record
  apply recordAs_accepts
  · exact .cons (.opt accepts_decodeId) <| .cons (.opt accepts_string) <|
      .cons (.opt accepts_string) <| .cons (.opt accepts_string) <|
      .cons (.opt accepts_string) .nil
  · decide
  · intro r sound
    simp (disch := simp) only [sound.opt_eq, Decoder.ok_bind]
    exact ⟨_, rfl⟩

theorem accepts_format : Accepts formatDecoder (Conforms formatShape) := by
  unfold formatDecoder Decoder.record
  apply recordAs_accepts
  · exact .cons (.opt accepts_string) <| .cons (.opt accepts_string) .nil
  · decide
  · intro r sound
    simp (disch := simp) only [sound.opt_eq, Decoder.ok_bind]
    exact ⟨_, rfl⟩

theorem accepts_transcoding : Accepts transcodingDecoder (Conforms transcodingShape) := by
  unfold transcodingDecoder Decoder.record
  apply recordAs_accepts
  · exact .cons (.opt accepts_string) <| .cons (.opt accepts_string) <|
      .cons (.opt accepts_format) .nil
  · decide
  · intro r sound
    simp (disch := simp) only [sound.opt_eq, Decoder.ok_bind]
    exact ⟨_, rfl⟩

theorem accepts_media : Accepts mediaDecoder (Conforms mediaShape) := by
  unfold mediaDecoder Decoder.record
  apply recordAs_accepts
  · exact .cons (.dflt (accepts_list accepts_transcoding)) .nil
  · decide
  · intro r sound
    simp (disch := simp) only [sound.dflt_eq]
    exact ⟨_, rfl⟩

theorem accepts_track : Accepts trackDecoder (Conforms trackShape) := by
  unfold trackDecoder Decoder.record
  apply recordAs_accepts
  · exact .cons (.opt accepts_decodeId) <| .cons (.opt accepts_string) <|
      .cons (.opt accepts_u64) <| .cons (.opt accepts_string) <| .cons (.opt accepts_string) <|
      .cons (.opt accepts_string) <| .cons (.opt accepts_string) <| .cons (.opt accepts_string) <|
      .cons (.opt accepts_user) <| .cons (.opt accepts_media) <| .cons (.opt accepts_string) .nil
  · decide
  · intro r sound
    simp (disch := simp) only [sound.opt_eq, Decoder.ok_bind]
    exact ⟨_, rfl⟩

theorem accepts_playlist : Accepts playlistDecoder (Conforms playlistShape) := by
  unfold playlistDecoder Decoder.record
  apply recordAs_accepts
  · exact .cons (.opt accepts_decodeId) <| .cons (.opt accepts_string) <|
      .cons (.opt accepts_string) <| .cons (.opt accepts_string) <| .cons (.opt accepts_string) <|
      .cons (.opt accepts_string) <| .cons (.opt accepts_string) <|
      .cons (.dflt (accepts_list accepts_value)) .nil
  · decide
  · intro r sound
    simp (disch := simp) only [sound.opt_eq, sound.dflt_eq, Decoder.ok_bind]
    exact ⟨_, rfl⟩

theorem accepts_collection : Accepts collectionDecoder (Conforms collectionShape) := by
  unfold collectionDecoder Decoder.record
  apply recordAs_accepts
  · exact .cons (.dflt (accepts_list accepts_value)) <| .cons (.opt accepts_string) .nil
  · decide
  · intro r sound
    simp (disch := simp) only [sound.opt_eq, sound.dflt_eq, Decoder.ok_bind]
    exact ⟨_, rfl⟩

end Soundcloud

/-- Every record of the two vendors is read from exactly the values of its declared shape:
an object whose members of declared fields have their declared types (`null` standing for
an absent optional field, other members ignored), or an array of the fields in declaration
order that leaves out only trailing fields with defaults. A record that does not read is
invalid data, a page that does not read a vendor error. -/
theorem vendorRecords_read_declared_shapes :
    (∀ kind, Accepts (Deezer.decode kind Deezer.userDecoder) (Conforms Deezer.userShape)) ∧
    (∀ kind, Accepts (Deezer.decode kind Deezer.artistDecoder) (Conforms Deezer.artistShape)) ∧
    (∀ kind, Accepts (Deezer.decode kind Deezer.albumDecoder) (Conforms Deezer.albumShape)) ∧
    (∀ kind, Accepts (Deezer.decode kind Deezer.trackDecoder) (Conforms Deezer.trackShape)) ∧
    (∀ kind, Accepts (Deezer.decode kind Deezer.playlistDecoder)
      (Conforms Deezer.playlistShape)) ∧
    Accepts Deezer.decodePage (Conforms Deezer.pageShape) ∧
    Accepts Deezer.genreDecoder (Conforms Deezer.genreShape) ∧
    Accepts Deezer.genresDecoder (Conforms Deezer.genresShape) ∧
    (∀ kind, Accepts (Soundcloud.decode kind Soundcloud.userDecoder)
      (Conforms Soundcloud.userShape)) ∧
    (∀ kind, Accepts (Soundcloud.decode kind Soundcloud.trackDecoder)
      (Conforms Soundcloud.trackShape)) ∧
    (∀ kind, Accepts (Soundcloud.decode kind Soundcloud.playlistDecoder)
      (Conforms Soundcloud.playlistShape)) ∧
    Accepts Soundcloud.decodeCollection (Conforms Soundcloud.collectionShape) ∧
    Accepts Soundcloud.formatDecoder (Conforms Soundcloud.formatShape) ∧
    Accepts Soundcloud.transcodingDecoder (Conforms Soundcloud.transcodingShape) ∧
    Accepts Soundcloud.mediaDecoder (Conforms Soundcloud.mediaShape) ∧
    Accepts Soundcloud.decodeId Soundcloud.IsId ∧
    (∀ {α : Type} (kind : String) (d : Decoder α) (v : Json) (e : ProviderError),
      Deezer.decode kind d v = .error e → ∃ m, e = .invalidData m) ∧
    (∀ (v : Json) (e : ProviderError), Deezer.decodePage v = .error e → ∃ m, e = .api m) ∧
    (∀ {α : Type} (kind : String) (d : Decoder α) (v : Json) (e : ProviderError),
      Soundcloud.decode kind d v = .error e → ∃ m, e = .invalidData m) ∧
    (∀ (v : Json) (e : ProviderError), Soundcloud.decodeCollection v = .error e →
      ∃ m, e = .api m) := by
  -- the record decoders are read through the vendors' error kinds, which keep what they accept
  refine ⟨fun _ => Decoder.accepts_mapError Deezer.accepts_user _,
    fun _ => Decoder.accepts_mapError Deezer.accepts_artist _,
    fun _ => Decoder.accepts_mapError Deezer.accepts_album _,
    fun _ => Decoder.accepts_mapError Deezer.accepts_track _,
    fun _ => Decoder.accepts_mapError Deezer.accepts_playlist _,
    Decoder.accepts_mapError Deezer.accepts_page _, Deezer.accepts_genre, Deezer.accepts_genres,
    fun _ => Decoder.accepts_mapError Soundcloud.accepts_user _,
    fun _ => Decoder.accepts_mapError Soundcloud.accepts_track _,
    fun _ => Decoder.accepts_mapError Soundcloud.accepts_playlist _,
    Decoder.accepts_mapError Soundcloud.accepts_collection _, Soundcloud.accepts_format,
    Soundcloud.accepts_transcoding, Soundcloud.accepts_media, Soundcloud.accepts_decodeId,
    ?_, ?_, ?_, ?_⟩
  all_goals
    intros
    obtain ⟨_, rfl⟩ := Decoder.error_of_mapError ‹_›
    exact ⟨_, rfl⟩

/-- A page given as an array of its fields has the declared shape, and an artist given as
a string is invalid data. -/
theorem vendorRecords_read_array_page :
    Conforms Deezer.pageShape (.array [.array [], .null, .null]) ∧
      ∃ m, Deezer.decode "artist" Deezer.artistDecoder (.string "x") = .error (.invalidData m) := by
  obtain ⟨-, -, -, -, -, page, -, -, -, -, -, -, -, -, -, -, invalid, -, -, -⟩ :=
    vendorRecords_read_declared_shapes
  refine ⟨(page _).1 ⟨_, rfl⟩, ?_⟩
  cases decoded : Deezer.decode "artist" Deezer.artistDecoder (.string "x") with
  | error e =>
    obtain ⟨m, rfl⟩ := invalid "artist" Deezer.artistDecoder (.string "x") e decoded
    exact ⟨m, rfl⟩
  | ok a => cases decoded

/-- A page given as an array of its three fields is read, though it is no object. -/
theorem decodePage_reads_array :
    Deezer.decodePage (.array [.array [], .null, .null]) = .ok ⟨[], none, none⟩ := rfl

end MusicProviders
