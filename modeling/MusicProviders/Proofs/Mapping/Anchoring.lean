import MusicProviders.Deezer.Convert
import MusicProviders.Soundcloud.Convert

/-! # Mapped items are anchored to their provider instance

Every vendor record that maps to an item needs an id, and so does every nested artist,
album or uploader that comes with it. Without one the mapping fails with invalid data;
with them the item carries the record's id and the provider's domain, exactly one
provider mapping of that id on the domain and the instance, and one reference per nested
record, made on the instance (items name the domain, references the instance).

* `Anchor` — the part of an item that ties it to a provider: id, provider, provider
  mappings and the references it holds; `Anchor.Anchored` — the rule above for one id.
* `MapsAnchored` — the outcome of a mapping as the rule says it must be, for the ids of
  the record and of its nested records.
* One lemma per mapper, and `mappers_anchor_items` for all seven.
-/

namespace MusicProviders

/-- What ties a mapped item to a provider: its id and provider, its provider mappings and
the items it refers to. -/
structure Anchor where
  itemId : String
  provider : String
  mappings : List ProviderMapping
  references : List ItemMapping

/-- An artist refers to nothing. -/
def Artist.anchor (a : Artist) : Anchor := ⟨a.itemId, a.provider, a.providerMappings, []⟩

/-- An album refers to its artists. -/
def Album.anchor (a : Album) : Anchor := ⟨a.itemId, a.provider, a.providerMappings, a.artists⟩

/-- A track refers to its artists and then its album. -/
def Track.anchor (t : Track) : Anchor :=
  ⟨t.itemId, t.provider, t.providerMappings, t.artists ++ t.album.toList⟩

/-- A playlist refers to nothing. -/
def Playlist.anchor (p : Playlist) : Anchor := ⟨p.itemId, p.provider, p.providerMappings, []⟩

/-- An item anchored to instance `instanceId` of `domain` under the id `id`: it carries the
id and the domain, exactly one provider mapping, of the same id on that domain and
instance, and one reference per id of `nested`, in order, each made on the instance. -/
def Anchor.Anchored (a : Anchor) (domain instanceId id : String) (nested : List String) : Prop :=
  a.itemId = id ∧ a.provider = domain ∧
    (∃ link, a.mappings = [link] ∧ link.itemId = a.itemId ∧ link.providerDomain = domain ∧
      link.providerInstance = instanceId) ∧
    a.references.map (fun r => (r.itemId, r.provider)) = nested.map (·, instanceId)

/-- The outcome of mapping a record whose id is `id` and whose nested records have the ids
`nested` (`none` for a nested record without one), on instance `instanceId` of `domain`:
invalid data exactly when an id is missing, and otherwise an item anchored under the
record's id with references to the nested records. -/
def MapsAnchored {α : Type} (anchor : α → Anchor) (domain instanceId : String)
    (id : Option String) (nested : List (Option String)) : Outcome α → Prop
  | .ok item => ∃ itemId, id = some itemId ∧ none ∉ nested ∧
      (anchor item).Anchored domain instanceId itemId (nested.filterMap fun n => n)
  | .error e => (id = none ∨ none ∈ nested) ∧ ∃ detail, e = .invalidData detail

section Mappers

/-! The monad steps of a mapping, as simplification rules for this module. -/

theorem Outcome.ok_bind {α β : Type} (a : α) (f : α → Outcome β) : (Except.ok a >>= f) = f a := rfl

theorem Outcome.error_bind {α β : Type} (e : ProviderError) (f : α → Outcome β) :
    (Except.error e >>= f) = .error e := rfl

theorem Outcome.map_ok {α β : Type} (f : α → β) (a : α) :
    (f <$> (Except.ok a : Outcome α)) = .ok (f a) := rfl

theorem Outcome.map_error {α β : Type} (f : α → β) (e : ProviderError) :
    (f <$> (Except.error e : Outcome α)) = .error e := rfl

theorem Outcome.pure_eq {α : Type} (a : α) : (pure a : Outcome α) = .ok a := rfl

attribute [local simp] Outcome.ok_bind Outcome.error_bind Outcome.map_ok Outcome.map_error
  Outcome.pure_eq

/-! ## Deezer -/

namespace Deezer

@[simp] theorem requiredId_some (kind : String) (n : Int) :
    requiredId kind (some n) = .ok (toString n) := rfl

@[simp] theorem requiredId_none (kind : String) :
    requiredId kind none = .error (.invalidData ("Deezer " ++ kind ++ " without id")) := rfl

namespace Mapper

variable (m : Mapper)

/-- The text ids of nested records, `none` for one without an id. -/
def nestedIds {ρ : Type} (idOf : ρ → Option Int) (nested : Option ρ) : List (Option String) :=
  nested.toList.map fun r => (idOf r).map toString

theorem parseArtist_anchored (a : ArtistRecord) :
    MapsAnchored Artist.anchor m.domain m.instanceId (a.id.map toString) [] (m.parseArtist a) := by
  cases identified : a.id with
  | none => simp [MapsAnchored, parseArtist, identified]
  | some n =>
    simp [MapsAnchored, parseArtist, identified, Anchor.Anchored, Artist.anchor, mapping,
      ProviderMapping.new, Artist.new]

theorem parsePlaylist_anchored (p : PlaylistRecord) :
    MapsAnchored Playlist.anchor m.domain m.instanceId (p.id.map toString) []
      (m.parsePlaylist p) := by
  cases identified : p.id with
  | none => simp [MapsAnchored, parsePlaylist, identified]
  | some n =>
    simp [MapsAnchored, parsePlaylist, identified, Anchor.Anchored, Playlist.anchor, mapping,
      ProviderMapping.new, Playlist.new]

theorem parseAlbum_anchored (a : AlbumRecord) :
    MapsAnchored Album.anchor m.domain m.instanceId (a.id.map toString)
      (nestedIds ArtistRecord.id a.artist) (m.parseAlbum a) := by
  cases identified : a.id with
  | none => simp [MapsAnchored, parseAlbum, identified]
  | some n =>
    -- the album's own id is there; what is left is the nested artist
    rcases artist : a.artist with _ | ⟨_ | artistId, name, link, picture, fans⟩
    · simp [MapsAnchored, parseAlbum, identified, artist, nestedIds, Anchor.Anchored,
        Album.anchor, mapping, ProviderMapping.new, Album.new]
    · simp [MapsAnchored, parseAlbum, identified, artist, nestedIds, artistMapping]
    · simp [MapsAnchored, parseAlbum, identified, artist, nestedIds, artistMapping,
        Anchor.Anchored, Album.anchor, mapping, ProviderMapping.new, Album.new]

theorem parseTrack_anchored (t : TrackRecord) (position : TrackPosition) :
    MapsAnchored Track.anchor m.domain m.instanceId (t.id.map toString)
      (nestedIds ArtistRecord.id t.artist ++ nestedIds AlbumRecord.id t.album)
      (m.parseTrack t position) := by
  cases identified : t.id with
  | none => simp [MapsAnchored, parseTrack, identified]
  | some n =>
    -- the track's own id is there; the nested artist and album may each be absent, or
    -- present with or without an id
    rcases artist : t.artist with _ | ⟨_ | artistId, artistRest⟩ <;>
      rcases album : t.album with _ | ⟨_ | albumId, albumRest⟩ <;>
      simp [MapsAnchored, parseTrack, identified, artist, album, nestedIds, artistMapping,
        albumMapping, Anchor.Anchored, Track.anchor, mapping, ProviderMapping.new, Track.new]

end Mapper

end Deezer

/-! ## SoundCloud -/

namespace Soundcloud

@[simp] theorem requiredId_some (kind id : String) : requiredId kind (some id) = .ok id := rfl

@[simp] theorem requiredId_none (kind : String) :
    requiredId kind none = .error (.invalidData ("SoundCloud " ++ kind ++ " without id")) := rfl

namespace Mapper

variable (m : Mapper)

theorem parseArtist_anchored (u : UserRecord) :
    MapsAnchored Artist.anchor m.domain m.instanceId u.id [] (m.parseArtist u) := by
  cases identified : u.id with
  | none => simp [MapsAnchored, parseArtist, identified]
  | some id =>
    simp [MapsAnchored, parseArtist, identified, Anchor.Anchored, Artist.anchor, mapping,
      ProviderMapping.new, Artist.new]

theorem parsePlaylist_anchored (p : PlaylistRecord) :
    MapsAnchored Playlist.anchor m.domain m.instanceId p.id [] (m.parsePlaylist p) := by
  cases identified : p.id with
  | none => simp [MapsAnchored, parsePlaylist, identified]
  | some id =>
    simp [MapsAnchored, parsePlaylist, identified, Anchor.Anchored, Playlist.anchor, mapping,
      ProviderMapping.new, Playlist.new]

/-- The uploader given with a track is its one nested record. -/
theorem parseTrack_anchored (t : TrackRecord) (uploader : Option UserRecord)
    (position : TrackPosition) :
    MapsAnchored Track.anchor m.domain m.instanceId t.id (uploader.toList.map UserRecord.id)
      (m.parseTrack t uploader position) := by
  cases identified : t.id with
  | none => simp [MapsAnchored, parseTrack, identified]
  | some id =>
    rcases uploader with _ | ⟨_ | uploaderId, uploaderRest⟩ <;>
      simp [MapsAnchored, parseTrack, identified, Anchor.Anchored, Track.anchor, mapping,
        ProviderMapping.new, Track.new]

end Mapper

end Soundcloud

/-- All seven mappers, for every mapper context and every record: mapping fails with
invalid data exactly when the record, or a nested artist, album or uploader that comes
with it, has no id; otherwise the item carries the record's id as text and the domain,
exactly one provider mapping of that id on the domain and the instance, and a reference
on the instance to each nested record, under that record's id. -/
theorem mappers_anchor_items :
    (∀ (m : Deezer.Mapper) (a : Deezer.ArtistRecord),
      MapsAnchored Artist.anchor m.domain m.instanceId (a.id.map toString) [] (m.parseArtist a)) ∧
    (∀ (m : Deezer.Mapper) (a : Deezer.AlbumRecord),
      MapsAnchored Album.anchor m.domain m.instanceId (a.id.map toString)
        (Deezer.Mapper.nestedIds Deezer.ArtistRecord.id a.artist) (m.parseAlbum a)) ∧
    (∀ (m : Deezer.Mapper) (p : Deezer.PlaylistRecord),
      MapsAnchored Playlist.anchor m.domain m.instanceId (p.id.map toString) []
        (m.parsePlaylist p)) ∧
    (∀ (m : Deezer.Mapper) (t : Deezer.TrackRecord) (position : TrackPosition),
      MapsAnchored Track.anchor m.domain m.instanceId (t.id.map toString)
        (Deezer.Mapper.nestedIds Deezer.ArtistRecord.id t.artist ++
          Deezer.Mapper.nestedIds Deezer.AlbumRecord.id t.album)
        (m.parseTrack t position)) ∧
    (∀ (m : Soundcloud.Mapper) (u : Soundcloud.UserRecord),
      MapsAnchored Artist.anchor m.domain m.instanceId u.id [] (m.parseArtist u)) ∧
    (∀ (m : Soundcloud.Mapper) (p : Soundcloud.PlaylistRecord),
      MapsAnchored Playlist.anchor m.domain m.instanceId p.id [] (m.parsePlaylist p)) ∧
    (∀ (m : Soundcloud.Mapper) (t : Soundcloud.TrackRecord) (uploader : Option Soundcloud.UserRecord)
        (position : TrackPosition),
      MapsAnchored Track.anchor m.domain m.instanceId t.id (uploader.toList.map Soundcloud.UserRecord.id)
        (m.parseTrack t uploader position)) :=
  ⟨Deezer.Mapper.parseArtist_anchored, Deezer.Mapper.parseAlbum_anchored,
    Deezer.Mapper.parsePlaylist_anchored, Deezer.Mapper.parseTrack_anchored,
    Soundcloud.Mapper.parseArtist_anchored, Soundcloud.Mapper.parsePlaylist_anchored,
    Soundcloud.Mapper.parseTrack_anchored⟩

end Mappers

end MusicProviders
