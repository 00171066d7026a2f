import MusicProviders.Deezer.Provider
import MusicProviders.Soundcloud.Provider
import MusicProviders.Proofs.Http.Failures
import Mathlib.Data.List.ReduceOption

/-! # Single-item lookups

A lookup of one artist, album, track or playlist fetches the item's record and maps it.
A failure on the vendor's side (the item does not exist, the vendor refused with a
message, or the record does not map) makes the item absent; every other failure, such as
a rejected login or a request that could not be sent, reaches the caller as it is.

* `ProviderError.IsVendorSide` — the failures a lookup turns into an absent item, and
  `softLookup_eq_ok_none_iff` and its siblings, the three answers of `softLookup`.
* `DegradesVendorFailures session fetch lookup` — how a lookup answers, on every network
  and from every log: without a session it fails as a rejected login before any
  request; with one, it answers what `fetch` gives, a vendor-side failure as absence.
* `runLookups` — lookups in turn, the items found kept in order, absent ones left out,
  the first failure ending the run; `runFrom_similarTracks` says Deezer's similar tracks
  are exactly that over the first ids of a track's mix.
* `singleLookups_degrade_vendor_failures` — the lookups of both providers, and Deezer's
  similar tracks.
-/

namespace MusicProviders

open Http

namespace ProviderError

/-- The failures on the vendor's side of a single-item lookup: the item does not exist,
the vendor refused with a message, or its record does not map. -/
def IsVendorSide : ProviderError → Prop
  | .notFound _ | .api _ | .invalidData _ => True
  | _ => False

theorem isSoftLookupFailure_iff (e : ProviderError) :
    e.isSoftLookupFailure = true ↔ e.IsVendorSide := by
  cases e <;> simp [isSoftLookupFailure, IsVendorSide]

end ProviderError

section SoftLookup

variable {α : Type}

theorem softLookup_eq_ok_some_iff {o : Outcome α} {a : α} :
    softLookup o = .ok (some a) ↔ o = .ok a := by
  cases o with
  | ok b => simp [softLookup]
  | error e => by_cases soft : e.isSoftLookupFailure = true <;> simp [softLookup, soft]

theorem softLookup_eq_ok_none_iff {o : Outcome α} :
    softLookup o = .ok none ↔ ∃ e, o = .error e ∧ e.IsVendorSide := by
  cases o with
  | ok b => simp [softLookup]
  | error e =>
    unfold softLookup
    by_cases soft : e.isSoftLookupFailure = true
    · simpa [soft] using (e.isSoftLookupFailure_iff).mp soft
    · simp [soft, ← e.isSoftLookupFailure_iff]

theorem softLookup_eq_error_iff {o : Outcome α} {e : ProviderError} :
    softLookup o = .error e ↔ o = .error e ∧ ¬ e.IsVendorSide := by
  cases o with
  | ok b => simp [softLookup]
  | error e' =>
    unfold softLookup
    by_cases soft : e'.isSoftLookupFailure = true
    · simp only [soft, if_true, reduceCtorEq, false_iff, not_and, Except.error.injEq]
      rintro rfl notSide
      exact notSide ((ProviderError.isSoftLookupFailure_iff _).mp soft)
    · simp only [soft, Bool.false_eq_true, if_false, Except.error.injEq]
      constructor
      · rintro rfl
        exact ⟨rfl, fun side => soft ((ProviderError.isSoftLookupFailure_iff _).mpr side)⟩
      · exact fun same => same.1

end SoftLookup

/-- How a single-item lookup answers, on every network and from every log. Without a
session it fails as a rejected login and no request is answered. With one, it answers the
requests `fetch` does and gives the item `fetch` gives: a vendor-side failure of `fetch`
as an absent item, and every other failure of `fetch` as that same failure. -/
def DegradesVendorFailures {S α : Type} (session : Option S) (fetch : S → Http α)
    (lookup : Http (Option α)) : Prop :=
  ∀ net log,
    match session with
    | none => ∃ detail, runFrom net log lookup = (.error (.loginFailed detail), log)
    | some s =>
      (runFrom net log lookup).2 = (runFrom net log (fetch s)).2 ∧
      (∀ a, (runFrom net log lookup).1 = .ok (some a) ↔ (runFrom net log (fetch s)).1 = .ok a) ∧
      ((runFrom net log lookup).1 = .ok none ↔
        ∃ e, (runFrom net log (fetch s)).1 = .error e ∧ e.IsVendorSide) ∧
      (∀ e, (runFrom net log lookup).1 = .error e ↔
        (runFrom net log (fetch s)).1 = .error e ∧ ¬ e.IsVendorSide)

/-- The session of an instance, or a rejected login without one. -/
def sessionOr {S : Type} (detail : String) : Option S → Outcome S
  | some s => .ok s
  | none => .error (.loginFailed detail)

/-- A lookup that takes the session, runs `fetch` keeping its failure, and degrades that
failure with `softLookup`. -/
theorem runFrom_softLookup {S α : Type} (net : Network) (log : List Request)
    (session : Outcome S) (fetch : S → Http α) :
    runFrom net log (do
        let s ← Http.lift session
        Http.lift (softLookup (← Http.outcome (fetch s)))) =
      match session with
      | .ok s => (softLookup (runFrom net log (fetch s)).1, (runFrom net log (fetch s)).2)
      | .error e => (.error e, log) := by
  cases session with
  | error e => rfl
  | ok s =>
    rw [runFrom_bind, runFrom_lift]
    dsimp only
    rw [runFrom_bind, runFrom_outcome]
    exact runFrom_lift _ _ _

theorem degradesVendorFailures_of_sessionOr {S α : Type} (detail : String) (session : Option S)
    (fetch : S → Http α) :
    DegradesVendorFailures session fetch (do
      let s ← Http.lift (sessionOr detail session)
      Http.lift (softLookup (← Http.outcome (fetch s)))) := by
  intro net log
  cases session with
  | none => exact ⟨detail, by rw [runFrom_softLookup]; rfl⟩
  | some s =>
    dsimp only
    rw [runFrom_softLookup]
    exact ⟨rfl, fun _ => softLookup_eq_ok_some_iff, softLookup_eq_ok_none_iff,
      fun _ => softLookup_eq_error_iff⟩

/-- Lookups in turn, each from the log the one before it left: the items found, in order,
with the absent ones left out; the first failure ends the run with its error. -/
def runLookups {α : Type} (net : Network) (lookup : String → Http (Option α)) :
    List Request → List String → Outcome (List α) × List Request
  | log, [] => (.ok [], log)
  | log, id :: ids =>
    match runFrom net log (lookup id) with
    | (.ok (some a), log') =>
      match runLookups net lookup log' ids with
      | (.ok found, log'') => (.ok (a :: found), log'')
      | (.error e, log'') => (.error e, log'')
    | (.ok none, log') => runLookups net lookup log' ids
    | (.error e, log') => (.error e, log')

/-- Looking items up one by one and keeping those found is `runLookups`. -/
theorem runFrom_mapM_reduceOption {α : Type} (net : Network) (lookup : String → Http (Option α))
    (ids : List String) (log : List Request) :
    runFrom net log (do
        let found ← ids.mapM lookup
        pure found.reduceOption) = runLookups net lookup log ids := by
  -- one lookup per id: the step is split by what the lookup of the first id answers
  induction ids generalizing log with
  | nil => rfl
  | cons id ids ih =>
    rw [List.mapM_cons]
    simp only [bind_assoc, pure_bind]
    rw [runFrom_bind, runLookups]
    rcases runFrom net log (lookup id) with ⟨_ | _ | a, log'⟩
    · rfl
    · simp only [List.reduceOption_cons_of_none]
      exact ih log'
    · simp only [List.reduceOption_cons_of_some]
      rw [← ih log', runFrom_bind, runFrom_bind]
      rcases runFrom net log' (ids.mapM lookup) with ⟨_ | found, log''⟩ <;> rfl

namespace Deezer.Provider

theorem session?_eq (p : Provider) :
    p.session? = sessionOr "Deezer provider is not set up" p.session := by
  unfold session? sessionOr
  cases p.session <;> rfl

theorem degradesVendorFailures_of_session? {α : Type} (p : Provider) (fetch : Session → Http α) :
    DegradesVendorFailures p.session fetch (do
      let s ← Http.lift p.session?
      Http.lift (softLookup (← Http.outcome (fetch s)))) := by
  rw [session?_eq]
  exact degradesVendorFailures_of_sessionOr _ _ _

/-- Deezer's similar tracks: without a session a rejected login; else the track's mix,
whose failure is the answer, and then the lookups of its first `limit` ids in turn. -/
theorem runFrom_similarTracks (p : Provider) (id : String) (limit : Nat) (net : Network)
    (log : List Request) :
    runFrom net log (p.similarTracks id limit) =
      match p.session with
      | none => (.error (.loginFailed "Deezer provider is not set up"), log)
      | some s =>
        match runFrom net log (s.gateway.trackMix id) with
        | (.ok ids, log') =>
          runLookups net (fun trackId => p.lookup "track" trackId fun m v => m.trackFromValue v .bare)
            log' (ids.take limit)
        | (.error e, log') => (.error e, log') := by
  obtain ⟨base, session⟩ := p
  unfold similarTracks
  rw [session?_eq]
  cases session with
  | none => rfl
  | some s =>
    rw [runFrom_bind]
    simp only [sessionOr, runFrom_lift]
    rw [runFrom_bind]
    rcases runFrom net log (s.gateway.trackMix id) with ⟨_ | ids, log'⟩
    · rfl
    · exact runFrom_mapM_reduceOption _ _ _ _

end Deezer.Provider

namespace Soundcloud.Provider

theorem session?_eq (p : Provider) :
    p.session? = sessionOr "SoundCloud provider is not set up" p.session := by
  unfold session? sessionOr
  cases p.session <;> rfl

theorem degradesVendorFailures_of_session? {α : Type} (p : Provider) (fetch : Session → Http α) :
    DegradesVendorFailures p.session fetch (do
      let s ← Http.lift p.session?
      Http.lift (softLookup (← Http.outcome (fetch s)))) := by
  rw [session?_eq]
  exact degradesVendorFailures_of_sessionOr _ _ _

end Soundcloud.Provider

/-- Every single-item lookup of both providers degrades exactly the vendor-side failures,
and fails as a rejected login before any request without a session; Deezer's similar
tracks are the lookups that find their item among the first `limit` ids of the track's
mix, in order, up to the first lookup that fails. -/
theorem singleLookups_degrade_vendor_failures :
    (∀ (p : Deezer.Provider) (fuel : Nat) (stamp : Deezer.PlaybackStamp) (id : String),
      DegradesVendorFailures p.session
          (fun s => do Http.lift (s.mapper.artistFromValue (← s.api.item "artist" id)))
          ((p.operations fuel stamp).getArtist id) ∧
        DegradesVendorFailures p.session
          (fun s => do Http.lift (s.mapper.albumFromValue (← s.api.item "album" id)))
          ((p.operations fuel stamp).getAlbum id) ∧
        DegradesVendorFailures p.session
          (fun s => do Http.lift (s.mapper.trackFromValue (← s.api.item "track" id) .bare))
          ((p.operations fuel stamp).getTrack id) ∧
        DegradesVendorFailures p.session
          (fun s => do Http.lift (s.mapper.playlistFromValue (← s.api.item "playlist" id)))
          ((p.operations fuel stamp).getPlaylist id)) ∧
    (∀ (p : Soundcloud.Provider) (fuel : Nat) (id : String),
      DegradesVendorFailures p.session
          (fun s => do Http.lift (s.mapper.artistFromValue (← s.api.userDetails id)))
          ((p.operations fuel).getArtist id) ∧
        DegradesVendorFailures p.session (fun s => s.trackById id .bare)
          ((p.operations fuel).getTrack id) ∧
        DegradesVendorFailures p.session (fun s => s.playlistById id)
          ((p.operations fuel).getPlaylist id)) ∧
    (∀ (p : Deezer.Provider) (fuel : Nat) (stamp : Deezer.PlaybackStamp) (id : String)
        (limit : Nat) (net : Network) (log : List Request),
      runFrom net log ((p.operations fuel stamp).similarTracks id limit) =
        match p.session with
        | none => (.error (.loginFailed "Deezer provider is not set up"), log)
        | some s =>
          match runFrom net log (s.gateway.trackMix id) with
          | (.ok ids, log') => runLookups net (p.operations fuel stamp).getTrack log' (ids.take limit)
          | (.error e, log') => (.error e, log')) := by
  refine ⟨fun p fuel stamp id => ?_, fun p fuel id => ?_,
    fun p fuel stamp id limit net log => p.runFrom_similarTracks id limit net log⟩
  -- every lookup takes the session, runs its fetch keeping the failure, and degrades it
  · exact ⟨p.degradesVendorFailures_of_session? _, p.degradesVendorFailures_of_session? _,
      p.degradesVendorFailures_of_session? _, p.degradesVendorFailures_of_session? _⟩
  · exact ⟨p.degradesVendorFailures_of_session? _, p.degradesVendorFailures_of_session? _,
      p.degradesVendorFailures_of_session? _⟩

end MusicProviders
