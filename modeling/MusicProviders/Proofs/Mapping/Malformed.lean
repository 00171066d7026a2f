import MusicProviders.Deezer.Convert
import MusicProviders.Soundcloud.Convert
import MusicProviders.Proofs.Http.Failures

/-! # Mappers fail only on malformed records

A vendor record becomes an item in two steps: it is decoded from JSON, and the decoded
record is mapped, which needs the id of the record and of every record nested in it.
Both steps fail only as invalid data, so a listing or a search may skip the items that
fail to map without hiding a failure of the network or of the vendor.

* `outcome_bind_kind` — a chain of steps fails only as one of its steps does.
* `Deezer.decode_kind`, `Soundcloud.decode_kind`, `Deezer.requiredId_kind`,
  `Soundcloud.requiredId_kind`, `Soundcloud.nestedId_kind` — a record that does not
  decode, or lacks an id, is invalid data.
* `Deezer.Mapper.*_kind`, `Soundcloud.Mapper.*_kind` — the same for every mapper.
-/

namespace MusicProviders

theorem outcome_bind_kind {α β : Type} {P : ProviderError → Prop} {o : Outcome α}
    {f : α → Outcome β} (first : ∀ e, o = .error e → P e)
    (rest : ∀ a e, f a = .error e → P e) :
    ∀ e, (o >>= f) = .error e → P e := by
  intro e failed
  cases o with
  | error e' =>
    cases failed
    exact first _ rfl
  | ok a => exact rest a e failed

/-- A decoder's failure reported as invalid data is invalid data. -/
theorem mapError_invalidData_kind {α ε : Type} (x : Except ε α) (message : ε → String)
    {e : ProviderError} (failed : x.mapError (fun d => .invalidData (message d)) = .error e) :
    e.IsInvalidData := by
  cases x with
  | error d =>
    cases failed
    trivial
  | ok _ => cases failed

/-! ## Deezer -/

namespace Deezer

theorem decode_kind {α : Type} {kind : String} {d : Decoder α} {v : Json} {e : ProviderError}
    (failed : decode kind d v = .error e) : e.IsInvalidData :=
  mapError_invalidData_kind (d v) _ failed

theorem requiredId_kind {kind : String} {id : Option Int} {e : ProviderError}
    (failed : requiredId kind id = .error e) : e.IsInvalidData := by
  cases id with
  | none =>
    cases failed
    trivial
  | some _ => cases failed

namespace Mapper

theorem artistMapping_kind (m : Mapper) (a : ArtistRecord) :
    ∀ e, m.artistMapping a = .error e → e.IsInvalidData :=
  outcome_bind_kind (fun _ => requiredId_kind) fun _ _ failed => by cases failed

theorem albumMapping_kind (m : Mapper) (a : AlbumRecord) :
    ∀ e, m.albumMapping a = .error e → e.IsInvalidData :=
  outcome_bind_kind (fun _ => requiredId_kind) fun _ _ failed => by cases failed

theorem artistFromValue_kind (m : Mapper) (v : Json) :
    ∀ e, m.artistFromValue v = .error e → e.IsInvalidData :=
  outcome_bind_kind (fun _ => decode_kind) fun _ =>
    outcome_bind_kind (fun _ => requiredId_kind) fun _ _ failed => by cases failed

theorem albumFromValue_kind (m : Mapper) (v : Json) :
    ∀ e, m.albumFromValue v = .error e → e.IsInvalidData := by
  refine outcome_bind_kind (fun _ => decode_kind) fun a => ?_
  refine outcome_bind_kind (fun _ => requiredId_kind) fun _ => ?_
  -- an album needs an id, and so does its artist when it names one
  intro e failed
  dsimp only at failed
  split at failed
  case h_1 artist _ =>
    exact outcome_bind_kind (m.artistMapping_kind artist) (fun _ _ built => by cases built) e
      failed
  case h_2 => cases failed

theorem playlistFromValue_kind (m : Mapper) (v : Json) :
    ∀ e, m.playlistFromValue v = .error e → e.IsInvalidData :=
  outcome_bind_kind (fun _ => decode_kind) fun _ =>
    outcome_bind_kind (fun _ => requiredId_kind) fun _ _ failed => by cases failed

/-- Mapping a track fails only on a record without id: the track's own, its artist's or its
album's. -/
theorem parseTrack_kind (m : Mapper) (t : TrackRecord) (position : TrackPosition) :
    ∀ e, m.parseTrack t position = .error e → e.IsInvalidData := by
  unfold parseTrack
  refine outcome_bind_kind (fun _ => requiredId_kind) fun _ => ?_
  dsimp only
  -- the artist and then the album need ids when the track names them; the album's step
  -- comes in both cases of the artist
  split
  case h_1 artist _ =>
    refine outcome_bind_kind (m.artistMapping_kind artist) fun _ => ?_
    simp only [pure_bind]
    split
    case h_1 album _ =>
      exact outcome_bind_kind (m.albumMapping_kind album) fun _ _ built => by cases built
    case h_2 => exact fun _ built => by cases built
  case h_2 =>
    simp only [pure_bind]
    split
    case h_1 album _ =>
      exact outcome_bind_kind (m.albumMapping_kind album) fun _ _ built => by cases built
    case h_2 => exact fun _ built => by cases built

theorem trackFromValue_kind (m : Mapper) (v : Json) (position : TrackPosition) :
    ∀ e, m.trackFromValue v position = .error e → e.IsInvalidData :=
  outcome_bind_kind (fun _ => decode_kind) fun record => m.parseTrack_kind record position

end Mapper

end Deezer

/-! ## SoundCloud -/

namespace Soundcloud

theorem decode_kind {α : Type} {kind : String} {d : Decoder α} {v : Json} {e : ProviderError}
    (failed : decode kind d v = .error e) : e.IsInvalidData :=
  mapError_invalidData_kind (d v) _ failed

theorem requiredId_kind {kind : String} {id : Option String} {e : ProviderError}
    (failed : requiredId kind id = .error e) : e.IsInvalidData := by
  unfold requiredId at failed
  cases id with
  | none =>
    cases failed
    trivial
  | some _ => cases failed

/-- An entry without a usable id is malformed. -/
theorem nestedId_kind {entry : Json} {key : Option String} {e : ProviderError}
    (failed : nestedId entry key = .error e) : e.IsInvalidData := by
  revert failed
  unfold nestedId
  dsimp only
  split
  · exact decode_kind
  · intro failed
    cases failed
    trivial

namespace Mapper

theorem artistFromValue_kind (m : Mapper) (v : Json) :
    ∀ e, m.artistFromValue v = .error e → e.IsInvalidData :=
  outcome_bind_kind (fun _ => decode_kind) fun _ =>
    outcome_bind_kind (fun _ => requiredId_kind) fun _ _ failed => by cases failed

theorem playlistFromValue_kind (m : Mapper) (v : Json) :
    ∀ e, m.playlistFromValue v = .error e → e.IsInvalidData := by
  unfold playlistFromValue
  refine outcome_bind_kind (fun _ => decode_kind) fun record => ?_
  unfold parsePlaylist
  refine outcome_bind_kind (fun _ => requiredId_kind) ?_
  intro itemId e failed
  cases failed

/-- Mapping a track fails only on a missing track id or an uploader without id. -/
theorem parseTrack_kind (m : Mapper) (t : TrackRecord) (artist : Option UserRecord)
    (position : TrackPosition) :
    ∀ e, m.parseTrack t artist position = .error e → e.IsInvalidData := by
  unfold parseTrack
  refine outcome_bind_kind (fun _ => requiredId_kind) fun itemId => ?_
  rcases Text.parseTitleAndVersion (t.title.getD "") with ⟨name, version⟩
  dsimp only
  -- the uploader's id is the only other field a track needs
  cases artist with
  | none =>
    intro e failed
    cases failed
  | some user =>
    refine outcome_bind_kind (fun _ => requiredId_kind) ?_
    intro artistId e failed
    cases failed

end Mapper

end Soundcloud

end MusicProviders
