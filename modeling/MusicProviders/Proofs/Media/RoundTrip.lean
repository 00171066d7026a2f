import MusicProviders.Proofs.Json.Records
import MusicProviders.Proofs.Media.Sets
import MusicProviders.Media.Decode
import MusicProviders.Media.Encode
import Mathlib

/-! # The media model reads back from its JSON form

Every artist, album, track, playlist and set of search results the program can hold is
written as JSON and read back as itself; only the order of its provider mappings may
change, since they form a set, written in the order of their text.

What the program can hold is what its types allow (`Track.Canonical` and the like): the
counts fit the integer types they are read as, genres and external ids are sorted
without repeats, and an item has one provider mapping per link. Each type's lemma is
built from those of its parts:

* `Decoder.image_toJson`, `Decoder.audioFormat_toJson`, `Decoder.metadata_toJson`,
  `Decoder.itemMapping_toJson`, `Decoder.trackPosition_toJson` — the parts read back
  exactly. Optional members are left out when absent and empty lists when empty; they
  read back as absent and empty.
* `Decoder.providerMappings_mappingsJson` — the mappings of an item read back as the
  same set, in another order.
* `Decoder.mediaModel_toJson` — the items and search results.
-/

namespace MusicProviders

/-! ## What the program's values keep -/

/-- The details of an audio format fit the integer types they are read as. -/
def AudioFormat.InRange (f : AudioFormat) : Prop :=
  (∀ n ∈ f.sampleRate, n < 2 ^ 32) ∧ (∀ n ∈ f.bitDepth, n < 2 ^ 8) ∧
    ∀ n ∈ f.bitRate, n < 2 ^ 32

/-- Metadata as an item holds it: genres sorted without repeats, a popularity that fits
64 bits. -/
def Metadata.Canonical (m : Metadata) : Prop :=
  m.genres.Pairwise (· < ·) ∧ ∀ n ∈ m.popularity, n < 2 ^ 64

/-- A set of provider mappings as an item holds it: one mapping per link, each with the
details of its format in range. -/
def ProviderMapping.CanonicalSet (ms : List ProviderMapping) : Prop :=
  ms.Pairwise (fun a b => a.sameLink b = false) ∧ ∀ m ∈ ms, m.audioFormat.InRange

/-- The numbers of a track position fit 32 bits. -/
def TrackPosition.InRange : TrackPosition → Prop
  | .bare => True
  | .playlist position => position < 2 ^ 32
  | .album disc track => disc < 2 ^ 32 ∧ track < 2 ^ 32

/-- An artist as the program holds it. -/
def Artist.Canonical (a : Artist) : Prop :=
  a.metadata.Canonical ∧ ProviderMapping.CanonicalSet a.providerMappings

/-- An album as the program holds it: also its external ids sorted without repeats. -/
def Album.Canonical (a : Album) : Prop :=
  a.metadata.Canonical ∧ ProviderMapping.CanonicalSet a.providerMappings ∧
    a.externalIds.Pairwise (ExternalId.lt · · = true)

/-- A track as the program holds it: also a duration that fits 64 bits and a position in
range. -/
def Track.Canonical (t : Track) : Prop :=
  t.duration < 2 ^ 64 ∧ t.metadata.Canonical ∧ ProviderMapping.CanonicalSet t.providerMappings ∧
    t.externalIds.Pairwise (ExternalId.lt · · = true) ∧ t.position.InRange

/-- A playlist as the program holds it. -/
def Playlist.Canonical (p : Playlist) : Prop :=
  p.metadata.Canonical ∧ ProviderMapping.CanonicalSet p.providerMappings

/-- Search results as the program holds them: every item as the program holds it. -/
def SearchResults.Canonical (r : SearchResults) : Prop :=
  (∀ a ∈ r.artists, a.Canonical) ∧ (∀ a ∈ r.albums, a.Canonical) ∧
    (∀ t ∈ r.tracks, t.Canonical) ∧ ∀ p ∈ r.playlists, p.Canonical

instance (f : AudioFormat) : Decidable f.InRange := inferInstanceAs (Decidable (_ ∧ _ ∧ _))

instance (m : Metadata) : Decidable m.Canonical := inferInstanceAs (Decidable (_ ∧ _))

instance (ms : List ProviderMapping) : Decidable (ProviderMapping.CanonicalSet ms) :=
  inferInstanceAs (Decidable (_ ∧ _))

instance : (p : TrackPosition) → Decidable p.InRange
  | .bare => inferInstanceAs (Decidable True)
  | .playlist _ => inferInstanceAs (Decidable (_ < _))
  | .album _ _ => inferInstanceAs (Decidable (_ ∧ _))

instance (a : Artist) : Decidable a.Canonical := inferInstanceAs (Decidable (_ ∧ _))

instance (a : Album) : Decidable a.Canonical := inferInstanceAs (Decidable (_ ∧ _ ∧ _))

instance (t : Track) : Decidable t.Canonical := inferInstanceAs (Decidable (_ ∧ _ ∧ _ ∧ _ ∧ _))

instance (p : Playlist) : Decidable p.Canonical := inferInstanceAs (Decidable (_ ∧ _))

example : ({ Track.new "1" "deezer" "Intro" with
    metadata := { Metadata.empty with genres := ["electronic", "house"] } } : Track).Canonical := by
  decide

/-! ## Optional members -/

@[simp] theorem presentMembers_nil : presentMembers [] = [] := rfl

theorem lookup_presentMembers_cons (k k' : String) (o : Option Json)
    (fs : List (String × Option Json)) :
    (presentMembers ((k', o) :: fs)).lookup k =
      if k = k' then o.or ((presentMembers fs).lookup k) else (presentMembers fs).lookup k := by
  by_cases same : k = k'
  · subst same
    cases o <;> simp [presentMembers]
  · cases o <;> simp [presentMembers, List.lookup, beq_false_of_ne same, same]

theorem keys_presentMembers_sublist :
    ∀ fs : List (String × Option Json),
      List.Sublist ((presentMembers fs).map Prod.fst) (fs.map Prod.fst)
  | [] => .slnil
  | (k, o) :: fs => by
    cases o with
    | none => exact (keys_presentMembers_sublist fs).cons k
    | some v => exact (keys_presentMembers_sublist fs).cons_cons k

theorem nodup_keys_presentMembers (opts : List (String × Option Json))
    (distinct : (opts.map Prod.fst).Nodup) : ((presentMembers opts).map Prod.fst).Nodup :=
  distinct.sublist (keys_presentMembers_sublist opts)

theorem nodup_keys_append_presentMembers (fixed : List (String × Json))
    (opts : List (String × Option Json))
    (distinct : (fixed.map Prod.fst ++ opts.map Prod.fst).Nodup) :
    ((fixed ++ presentMembers opts).map Prod.fst).Nodup := by
  rw [List.map_append]
  exact distinct.sublist ((keys_presentMembers_sublist opts).append_left _)

namespace Decoder

/-! ## Names, numbers and sets -/

@[simp] theorem imageType_name (k : ImageType) : imageType (.string k.name) = .ok k := by
  cases k <;> rfl

@[simp] theorem contentType_name (k : ContentType) : contentType (.string k.name) = .ok k := by
  cases k <;> rfl

@[simp] theorem mediaType_name (k : MediaType) : mediaType (.string k.name) = .ok k := by
  cases k <;> rfl

@[simp] theorem albumType_name (k : AlbumType) : albumType (.string k.name) = .ok k := by
  cases k <;> rfl

@[simp] theorem externalIdKind_name (k : ExternalIdKind) :
    externalIdKind (.string k.name) = .ok k := by
  cases k <;> rfl

theorem positionNumber_nat {n : Nat} (fits : n < 2 ^ 32) :
    positionNumber (Json.nat n) = .ok n :=
  u32_nat fits

theorem stringSet_sorted {genres : List String} (sorted : genres.Pairwise (· < ·)) :
    stringSet (.array (genres.map .string)) = .ok genres := by
  have items := list_map_self string .string genres fun _ _ => rfl
  simp only [stringSet, items, ok_bind, foldl_insertSorted sorted [] (by simp), List.nil_append]
  rfl

theorem externalIds_sorted {ids : List ExternalId}
    (sorted : ids.Pairwise (ExternalId.lt · · = true)) :
    externalIds (.array (ids.map ExternalId.toJson)) = .ok ids := by
  have pairs := list_map (pair externalIdKind string) ExternalId.toJson (fun x => (x.kind, x.value))
    ids fun x _ => by simp [ExternalId.toJson, pair]
  have eta : (fun acc (x : ExternalId) => ExternalId.insert ⟨x.kind, x.value⟩ acc) =
      fun acc x => ExternalId.insert x acc := rfl
  simp only [externalIds, pairs, ok_bind, List.foldl_map, eta,
    ExternalId.foldl_insert sorted [] (by simp), List.nil_append]
  rfl

/-! ## The parts of an item

Each record is read through `record_mkObject`: its members have distinct keys, each
passes its field's check, and the required fields are there. `simp` then evaluates the
fields one by one from the members. A number is read back through its bound, given to
`simp` as the decoded fact itself (`u64_nat fits`) rather than left for it to discharge;
an optional number is split on, so that the fact meets its value. -/

theorem image_toJson (i : Image) : image i.toJson = .ok i := by
  rw [Image.toJson, image, record_mkObject]
  · simp [List.lookup]
  · simp
  · simp [List.lookup, Field.req, check]
  · simp [List.lookup, Field.req]

theorem audioFormat_toJson (f : AudioFormat) (inRange : f.InRange) :
    audioFormat f.toJson = .ok f := by
  obtain ⟨contentType, sampleRate, bitDepth, bitRate⟩ := f
  obtain ⟨sampleRate32, bitDepth8, bitRate32⟩ := inRange
  have sampleRateBack : ∀ n ∈ sampleRate, u32 (Json.nat n) = .ok n :=
    fun n mem => u32_nat (sampleRate32 n mem)
  have bitDepthBack : ∀ n ∈ bitDepth, u8 (Json.nat n) = .ok n :=
    fun n mem => u8_nat (bitDepth8 n mem)
  have bitRateBack : ∀ n ∈ bitRate, u32 (Json.nat n) = .ok n :=
    fun n mem => u32_nat (bitRate32 n mem)
  rw [AudioFormat.toJson, audioFormat, record_mkObject]
  · cases sampleRate <;> cases bitDepth <;> cases bitRate <;>
      simp [List.lookup, lookup_presentMembers_cons, sampleRateBack, bitDepthBack, bitRateBack]
  · exact nodup_keys_append_presentMembers _ _ (by simp)
  · cases sampleRate <;> cases bitDepth <;> cases bitRate <;>
      simp [List.lookup, lookup_presentMembers_cons, Field.req, Field.opt, check, sampleRateBack,
        bitDepthBack, bitRateBack]
  · simp [List.lookup, Field.req, Field.opt]

theorem metadata_toJson (m : Metadata) (canonical : m.Canonical) :
    metadata m.toJson = .ok m := by
  obtain ⟨description, images, genres, style, explicit, popularity, preview, releaseDate,
    checksum⟩ := m
  obtain ⟨sorted, popular⟩ := canonical
  have imagesBack := list_map_self image Image.toJson images fun i _ => image_toJson i
  have genresBack := stringSet_sorted sorted
  have popularityBack : ∀ n ∈ popularity, u64 (Json.nat n) = .ok n :=
    fun n mem => u64_nat (popular n mem)
  rw [Metadata.toJson, metadata, record_mkObject]
  · cases popularity <;> simp [lookup_presentMembers_cons, Function.comp_def, imagesBack,
      genresBack, popularityBack]
  · exact nodup_keys_presentMembers _ (by simp)
  · cases popularity <;> simp [lookup_presentMembers_cons, Field.opt, Field.dflt, check,
      imagesBack, genresBack, popularityBack, or_imp, forall_and]
  · simp [Field.opt, Field.dflt]

theorem providerMapping_toJson (m : ProviderMapping) (inRange : m.audioFormat.InRange) :
    providerMapping m.toJson = .ok m := by
  obtain ⟨itemId, domain, providerInstance, available, url, format⟩ := m
  have formatBack := audioFormat_toJson format inRange
  rw [ProviderMapping.toJson, providerMapping, record_mkObject]
  · simp [List.lookup, lookup_presentMembers_cons, formatBack, Function.comp_def]
  · exact nodup_keys_append_presentMembers _ _ (by simp)
  · simp [List.lookup, lookup_presentMembers_cons, Field.req, Field.opt, Field.dflt, check,
      formatBack]
  · simp [List.lookup, Field.req, Field.opt, Field.dflt]

/-- The mappings of an item read back as the same set: the same mappings, in the order
of their JSON text. -/
theorem providerMappings_mappingsJson (ms : List ProviderMapping)
    (canonical : ProviderMapping.CanonicalSet ms) :
    ∃ ms', ms'.Perm ms ∧ providerMappings (mappingsJson ms) = .ok ms' := by
  obtain ⟨distinct, inRange⟩ := canonical
  -- the text order reorders the mappings' forms, so it is the forms of a reordering
  have reordered := congrFun (congrFun (List.eq_map_comp_perm ProviderMapping.toJson)
    (sortByText (ms.map ProviderMapping.toJson))) ms
  obtain ⟨ms', sorted, perm⟩ := reordered.mpr (sortByText_perm _)
  have back := list_map_self providerMapping ProviderMapping.toJson ms'
    fun m mem => providerMapping_toJson m (inRange m (perm.subset mem))
  have distinct' : ms'.Pairwise (fun a b => a.sameLink b = false) :=
    distinct.perm perm.symm fun same => by rwa [ProviderMapping.sameLink_comm]
  refine ⟨ms', perm, ?_⟩
  simp only [providerMappings, mappingsJson, sorted, back, ok_bind,
    ProviderMapping.setOf_of_distinct distinct']
  rfl

theorem itemMapping_toJson (m : ItemMapping) : itemMapping m.toJson = .ok m := by
  obtain ⟨mediaType, itemId, provider, name, image⟩ := m
  have imageBack : ∀ i : Image, option Decoder.image i.toJson = .ok (some i) :=
    fun i => option_mkObject_ok (image_toJson i)
  rw [ItemMapping.toJson, itemMapping, record_mkObject]
  · cases image <;> simp [List.lookup, lookup_presentMembers_cons, imageBack]
  · exact nodup_keys_append_presentMembers _ _ (by simp)
  · cases image <;> simp [List.lookup, lookup_presentMembers_cons, Field.req, Field.opt, check,
      imageBack]
  · simp [List.lookup, Field.req, Field.opt]

theorem trackPosition_toJson (p : TrackPosition) (inRange : p.InRange) :
    trackPosition p.toJson = .ok p := by
  -- the tag is read first; the other members are the variant's record
  cases p with
  | bare => rfl
  | playlist position =>
    have positionBack := positionNumber_nat (inRange : position < 2 ^ 32)
    have shape : (TrackPosition.playlist position).toJson =
        .object [("kind", .string "playlist"), ("position", Json.nat position)] := rfl
    simp [shape, trackPosition, tagged, positionBody, variantRecord, List.lookup]
    rw [recordAs_object]
    · simp [List.lookup, positionBack]
    · simp
    · simp [List.lookup, Field.req, check, positionBack]
    · simp [List.lookup, Field.req]
  | album disc track =>
    obtain ⟨discFits, trackFits⟩ : disc < 2 ^ 32 ∧ track < 2 ^ 32 := inRange
    have discBack := positionNumber_nat discFits
    have trackBack := positionNumber_nat trackFits
    have shape : (TrackPosition.album disc track).toJson = .object [("disc_number", Json.nat disc),
        ("kind", .string "album"), ("track_number", Json.nat track)] := rfl
    simp [shape, trackPosition, tagged, positionBody, variantRecord, List.lookup]
    rw [recordAs_object]
    · simp [List.lookup, discBack, trackBack]
    · simp
    · simp [List.lookup, Field.req, check, discBack, trackBack]
    · simp [List.lookup, Field.req]

/-! ## Items -/

theorem artist_toJson (a : Artist) (canonical : a.Canonical) :
    ∃ ms, ms.Perm a.providerMappings ∧ artist a.toJson = .ok { a with providerMappings := ms } := by
  obtain ⟨itemId, provider, name, metadata, mappings⟩ := a
  obtain ⟨metadataCanonical, mappingsCanonical⟩ := canonical
  obtain ⟨ms, perm, mappingsBack⟩ := providerMappings_mappingsJson mappings mappingsCanonical
  have metadataBack := metadata_toJson metadata metadataCanonical
  refine ⟨ms, perm, ?_⟩
  rw [Artist.toJson, artist, record_mkObject]
  · simp [itemMembers, List.lookup, metadataBack, mappingsBack]
  · simp [itemMembers]
  · simp [itemMembers, List.lookup, Field.req, Field.dflt, check, metadataBack, mappingsBack]
  · simp [itemMembers, List.lookup, Field.req, Field.dflt]

theorem album_toJson (a : Album) (canonical : a.Canonical) :
    ∃ ms, ms.Perm a.providerMappings ∧ album a.toJson = .ok { a with providerMappings := ms } := by
  obtain ⟨itemId, provider, name, albumType, artists, metadata, mappings, externalIds⟩ := a
  obtain ⟨metadataCanonical, mappingsCanonical, sorted⟩ := canonical
  obtain ⟨ms, perm, mappingsBack⟩ := providerMappings_mappingsJson mappings mappingsCanonical
  have metadataBack := metadata_toJson metadata metadataCanonical
  have artistsBack := list_map_self itemMapping ItemMapping.toJson artists
    fun m _ => itemMapping_toJson m
  have externalIdsBack := externalIds_sorted sorted
  refine ⟨ms, perm, ?_⟩
  rw [Album.toJson, album, record_mkObject]
  · simp [itemMembers, List.lookup, metadataBack, mappingsBack, artistsBack, externalIdsBack]
  · simp [itemMembers]
  · simp [itemMembers, List.lookup, Field.req, Field.dflt, check, metadataBack, mappingsBack,
      artistsBack, externalIdsBack]
  · simp [itemMembers, List.lookup, Field.req, Field.dflt]

theorem track_toJson (t : Track) (canonical : t.Canonical) :
    ∃ ms, ms.Perm t.providerMappings ∧ track t.toJson = .ok { t with providerMappings := ms } := by
  obtain ⟨itemId, provider, name, version, sortName, duration, artists, album, metadata, mappings,
    externalIds, position⟩ := t
  obtain ⟨fits, metadataCanonical, mappingsCanonical, sorted, inRange⟩ := canonical
  obtain ⟨ms, perm, mappingsBack⟩ := providerMappings_mappingsJson mappings mappingsCanonical
  have metadataBack := metadata_toJson metadata metadataCanonical
  have artistsBack := list_map_self itemMapping ItemMapping.toJson artists
    fun m _ => itemMapping_toJson m
  have albumBack : ∀ m : ItemMapping, option itemMapping m.toJson = .ok (some m) :=
    fun m => option_mkObject_ok (itemMapping_toJson m)
  have externalIdsBack := externalIds_sorted sorted
  have positionBack := trackPosition_toJson position inRange
  have durationBack := u64_nat fits
  refine ⟨ms, perm, ?_⟩
  rw [Track.toJson, track, record_mkObject]
  · simp [itemMembers, List.lookup, lookup_presentMembers_cons, Function.comp_def, durationBack,
      metadataBack, mappingsBack, artistsBack, albumBack, externalIdsBack, positionBack]
  · exact nodup_keys_append_presentMembers _ _ (by simp [itemMembers])
  · simp [itemMembers, List.lookup, lookup_presentMembers_cons, Field.req, Field.opt, Field.dflt,
      check, durationBack, metadataBack, mappingsBack, artistsBack, albumBack, externalIdsBack,
      positionBack]
  · simp [itemMembers, List.lookup, Field.req, Field.opt, Field.dflt]

theorem playlist_toJson (p : Playlist) (canonical : p.Canonical) :
    ∃ ms, ms.Perm p.providerMappings ∧
      playlist p.toJson = .ok { p with providerMappings := ms } := by
  obtain ⟨itemId, provider, name, owner, isEditable, metadata, mappings⟩ := p
  obtain ⟨metadataCanonical, mappingsCanonical⟩ := canonical
  obtain ⟨ms, perm, mappingsBack⟩ := providerMappings_mappingsJson mappings mappingsCanonical
  have metadataBack := metadata_toJson metadata metadataCanonical
  refine ⟨ms, perm, ?_⟩
  rw [Playlist.toJson, playlist, record_mkObject]
  · simp [itemMembers, List.lookup, lookup_presentMembers_cons, Function.comp_def, metadataBack,
      mappingsBack]
  · exact nodup_keys_append_presentMembers _ _ (by simp [itemMembers])
  · simp [itemMembers, List.lookup, lookup_presentMembers_cons, Field.req, Field.opt, Field.dflt,
      check, metadataBack, mappingsBack]
  · simp [itemMembers, List.lookup, Field.req, Field.opt, Field.dflt]

theorem searchResults_toJson (r : SearchResults) (canonical : r.Canonical) :
    ∃ r', searchResults r.toJson = .ok r' ∧
      List.Forall₂ (fun a a' => ∃ ms, ms.Perm a.providerMappings ∧
        a' = { a with providerMappings := ms }) r.artists r'.artists ∧
      List.Forall₂ (fun a a' => ∃ ms, ms.Perm a.providerMappings ∧
        a' = { a with providerMappings := ms }) r.albums r'.albums ∧
      List.Forall₂ (fun t t' => ∃ ms, ms.Perm t.providerMappings ∧
        t' = { t with providerMappings := ms }) r.tracks r'.tracks ∧
      List.Forall₂ (fun p p' => ∃ ms, ms.Perm p.providerMappings ∧
        p' = { p with providerMappings := ms }) r.playlists r'.playlists := by
  obtain ⟨artists, albums, tracks, playlists⟩ := r
  obtain ⟨artistsCanonical, albumsCanonical, tracksCanonical, playlistsCanonical⟩ := canonical
  -- each list reads back item by item
  obtain ⟨artists', artistsRelated, artistsBack⟩ :=
    list_map_exists artist Artist.toJson
      (fun a a' => ∃ ms, ms.Perm a.providerMappings ∧ a' = { a with providerMappings := ms })
      artists fun a mem => by
        obtain ⟨ms, perm, back⟩ := artist_toJson a (artistsCanonical a mem)
        exact ⟨_, ⟨ms, perm, rfl⟩, back⟩
  obtain ⟨albums', albumsRelated, albumsBack⟩ :=
    list_map_exists album Album.toJson
      (fun a a' => ∃ ms, ms.Perm a.providerMappings ∧ a' = { a with providerMappings := ms })
      albums fun a mem => by
        obtain ⟨ms, perm, back⟩ := album_toJson a (albumsCanonical a mem)
        exact ⟨_, ⟨ms, perm, rfl⟩, back⟩
  obtain ⟨tracks', tracksRelated, tracksBack⟩ :=
    list_map_exists track Track.toJson
      (fun t t' => ∃ ms, ms.Perm t.providerMappings ∧ t' = { t with providerMappings := ms })
      tracks fun t mem => by
        obtain ⟨ms, perm, back⟩ := track_toJson t (tracksCanonical t mem)
        exact ⟨_, ⟨ms, perm, rfl⟩, back⟩
  obtain ⟨playlists', playlistsRelated, playlistsBack⟩ :=
    list_map_exists playlist Playlist.toJson
      (fun p p' => ∃ ms, ms.Perm p.providerMappings ∧ p' = { p with providerMappings := ms })
      playlists fun p mem => by
        obtain ⟨ms, perm, back⟩ := playlist_toJson p (playlistsCanonical p mem)
        exact ⟨_, ⟨ms, perm, rfl⟩, back⟩
  refine ⟨⟨artists', albums', tracks', playlists'⟩, ?_, artistsRelated, albumsRelated,
    tracksRelated, playlistsRelated⟩
  rw [SearchResults.toJson, searchResults, record_mkObject]
  · simp [List.lookup, artistsBack, albumsBack, tracksBack, playlistsBack]
  · simp
  · simp [List.lookup, Field.req, check, artistsBack, albumsBack, tracksBack, playlistsBack]
  · simp [List.lookup, Field.req]

/-- Every artist, album, track, playlist and set of search results the program can hold
reads back from its JSON form as itself, but for the order of its provider mappings. -/
theorem mediaModel_toJson :
    (∀ a : Artist, a.Canonical →
      ∃ ms, ms.Perm a.providerMappings ∧ artist a.toJson = .ok { a with providerMappings := ms }) ∧
    (∀ a : Album, a.Canonical →
      ∃ ms, ms.Perm a.providerMappings ∧ album a.toJson = .ok { a with providerMappings := ms }) ∧
    (∀ t : Track, t.Canonical →
      ∃ ms, ms.Perm t.providerMappings ∧ track t.toJson = .ok { t with providerMappings := ms }) ∧
    (∀ p : Playlist, p.Canonical →
      ∃ ms, ms.Perm p.providerMappings ∧
        playlist p.toJson = .ok { p with providerMappings := ms }) ∧
    (∀ r : SearchResults, r.Canonical →
      ∃ r', searchResults r.toJson = .ok r' ∧
        List.Forall₂ (fun a a' => ∃ ms, ms.Perm a.providerMappings ∧
          a' = { a with providerMappings := ms }) r.artists r'.artists ∧
        List.Forall₂ (fun a a' => ∃ ms, ms.Perm a.providerMappings ∧
          a' = { a with providerMappings := ms }) r.albums r'.albums ∧
        List.Forall₂ (fun t t' => ∃ ms, ms.Perm t.providerMappings ∧
          t' = { t with providerMappings := ms }) r.tracks r'.tracks ∧
        List.Forall₂ (fun p p' => ∃ ms, ms.Perm p.providerMappings ∧
          p' = { p with providerMappings := ms }) r.playlists r'.playlists) :=
  ⟨artist_toJson, album_toJson, track_toJson, playlist_toJson, searchResults_toJson⟩

/-- A track with a provider mapping and genres reads back. -/
theorem mediaModel_toJson_track :
    ({ Track.new "1" "deezer" "Intro" with
        metadata := { Metadata.empty with genres := ["electronic", "house"] },
        providerMappings := [ProviderMapping.new "1" "deezer" "deezer--abc"] } : Track).Canonical ∧
      ∃ ms, ms.Perm [ProviderMapping.new "1" "deezer" "deezer--abc"] ∧
        track ({ Track.new "1" "deezer" "Intro" with
            metadata := { Metadata.empty with genres := ["electronic", "house"] },
            providerMappings := [ProviderMapping.new "1" "deezer" "deezer--abc"] } : Track).toJson =
          .ok { Track.new "1" "deezer" "Intro" with
            metadata := { Metadata.empty with genres := ["electronic", "house"] },
            providerMappings := ms } := by
  have canonical : ({ Track.new "1" "deezer" "Intro" with
      metadata := { Metadata.empty with genres := ["electronic", "house"] },
      providerMappings := [ProviderMapping.new "1" "deezer" "deezer--abc"] } : Track).Canonical := by
    decide
  exact ⟨canonical, mediaModel_toJson.2.2.1 _ canonical⟩

end Decoder

end MusicProviders
