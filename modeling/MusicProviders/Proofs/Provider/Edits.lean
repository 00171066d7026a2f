import MusicProviders.Proofs.Paging.Removal

/-! # Library edits are checked before anything is sent

A Deezer library edit names a collection by media type and items by id, and Deezer ids
are 64-bit integers. Every check runs before the first request and in a fixed order, so
an edit that fails a check sends nothing, and the first check that fails names the error.

* `Deezer.Provider.runFrom_libraryEdit` — adding to or removing from the library refuses
  a media type without a library collection, then an id that is not an integer, then an
  instance that is not set up; an edit that passes the three checks is the one API call.
* `runFrom_forIn_check` — a loop whose body only checks its element fails with the
  failure of the first element that fails, and sends nothing.
* `Deezer.Provider.runFrom_addPlaylistTracks` — adding tracks to a playlist checks the
  playlist id, then the track ids in order, then the session; `Deezer.Api.addPlaylistTracks_log`
  — the tracks then go out in one POST that names all of them, or nothing is sent.
* `Deezer.Provider.libraryEdits_checked_before_sending` — the three edits together.
-/

namespace MusicProviders

/-! ## Checking every element of a list -/

/-- A loop whose body only checks its element, sending nothing, fails with the failure
of the first element that fails its check, and sends nothing. The body is given by its
runs so that the loop of any `do` block matches it. -/
theorem runFrom_forIn_check {α β : Type} (check : α → Outcome β)
    (body : α → PUnit → Http (ForInStep PUnit)) (net : Http.Network) (log : List Http.Request)
    (checks : ∀ x, Http.runFrom net log (body x ⟨⟩) = ((check x).map fun _ => .yield ⟨⟩, log)) :
    ∀ xs : List α,
      Http.runFrom net log (forIn xs ⟨⟩ body) = ((xs.mapM check).map fun _ => ⟨⟩, log)
  | [] => rfl
  | x :: xs => by
    rw [List.forIn_cons, Http.runFrom_bind, checks x, List.mapM_cons]
    cases check x with
    | error e => rfl
    | ok b =>
      dsimp only [Except.map]
      rw [runFrom_forIn_check check body net log checks xs]
      cases xs.mapM check <;> rfl

/-- Checking a list fails at its first element that fails. -/
theorem mapM_of_first_failure {α β : Type} (check : α → Outcome β) {pre post : List α} {bad : α}
    {e : ProviderError} (passed : ∀ x ∈ pre, ∃ b, check x = .ok b) (failed : check bad = .error e) :
    (pre ++ bad :: post).mapM check = .error e := by
  induction pre with
  | nil =>
    rw [List.nil_append, List.mapM_cons, failed]
    rfl
  | cons x pre ih =>
    obtain ⟨b, ok⟩ := passed x (by simp)
    rw [List.cons_append, List.mapM_cons, ok, ih (fun y mem => passed y (by simp [mem]))]
    rfl

theorem mapM_of_all_pass {α β : Type} (check : α → Outcome β) :
    ∀ xs : List α, (∀ x ∈ xs, ∃ b, check x = .ok b) → ∃ bs, xs.mapM check = .ok bs
  | [], _ => ⟨[], rfl⟩
  | x :: xs, passed => by
    obtain ⟨b, ok⟩ := passed x (by simp)
    obtain ⟨bs, rest⟩ := mapM_of_all_pass check xs (fun y mem => passed y (by simp [mem]))
    exact ⟨b :: bs, by rw [List.mapM_cons, ok, rest]; rfl⟩

namespace Deezer

/-! ## The checks -/

/-- The media types that have a library collection. -/
def libraryMediaTypes : List MediaType := [.artist, .album, .track, .playlist]

/-- Only artists, albums, tracks and playlists have a library collection; any other media
type is refused as not implemented. -/
theorem libraryKind_cases (t : MediaType) :
    (t ∈ libraryMediaTypes ∧ ∃ kind, libraryKind t = .ok kind) ∨
      (t ∉ libraryMediaTypes ∧ libraryKind t = .error (.notImplemented ("library edit of " ++ t.name))) := by
  cases t <;> simp [libraryMediaTypes, libraryKind]

theorem numericId_of_parse {id : String} (parsed : Text.parseI64? id ≠ none) :
    numericId id = .ok id := by
  unfold numericId
  cases parse : Text.parseI64? id with
  | none => exact absurd parse parsed
  | some n => rfl

theorem numericId_of_parse_eq_none {id : String} (rejected : Text.parseI64? id = none) :
    numericId id = .error (.invalidData ("invalid Deezer id: " ++ id)) := by
  unfold numericId
  rw [rejected]

/-- An id that passes the check is kept as it is. -/
theorem eq_of_numericId {id id' : String} (checked : numericId id = .ok id') : id' = id := by
  unfold numericId at checked
  split at checked <;> cases checked
  rfl

/-! ## Editing the library -/

namespace Provider

/-- A library edit fails at the first check that fails, sending nothing: the media type,
then the id, then the session. An edit that passes them is the API call. -/
theorem runFrom_libraryEdit (call : Api → String → String → Http Bool) (p : Provider)
    (id : String) (t : MediaType) (net : Http.Network) (log : List Http.Request) :
    Http.runFrom net log (p.libraryEdit call id t) =
      match libraryKind t, numericId id, p.session with
      | .error e, _, _ => (.error e, log)
      | .ok _, .error e, _ => (.error e, log)
      | .ok _, .ok _, none => (.error (.loginFailed "Deezer provider is not set up"), log)
      | .ok kind, .ok _, some s => Http.runFrom net log (call s.api kind id) := by
  unfold libraryEdit
  rw [Http.runFrom_bind, Http.runFrom_lift]
  cases libraryKind t with
  | error e => rfl
  | ok kind =>
    dsimp only
    rw [Http.runFrom_bind, Http.runFrom_lift]
    cases checked : numericId id with
    | error e => rfl
    | ok id' =>
      cases eq_of_numericId checked
      dsimp only
      rw [Http.runFrom_bind, Http.runFrom_lift]
      unfold session?
      cases p.session <;> rfl

/-- Adding tracks to a playlist fails at the first check that fails, sending nothing:
the playlist id, then the track ids in order, then the session. With every check passed
it is the one API call. -/
theorem runFrom_addPlaylistTracks (p : Provider) (playlistId : String) (trackIds : List String)
    (net : Http.Network) (log : List Http.Request) :
    Http.runFrom net log (p.addPlaylistTracks playlistId trackIds) =
      match numericId playlistId, trackIds.mapM numericId, p.session with
      | .error e, _, _ => (.error e, log)
      | .ok _, .error e, _ => (.error e, log)
      | .ok _, .ok _, none => (.error (.loginFailed "Deezer provider is not set up"), log)
      | .ok _, .ok _, some s =>
        Http.runFrom net log (s.api.addPlaylistTracks playlistId trackIds >>= fun _ => pure ()) := by
  unfold addPlaylistTracks
  rw [Http.runFrom_bind, Http.runFrom_lift]
  cases checked : numericId playlistId with
  | error e => rfl
  | ok id' =>
    cases eq_of_numericId checked
    dsimp only
    rw [Http.runFrom_bind, runFrom_forIn_check numericId _ net log
      (fun x => by rw [Http.runFrom_bind, Http.runFrom_lift]; cases numericId x <;> rfl)]
    cases trackIds.mapM numericId with
    | error e => rfl
    | ok ids =>
      dsimp only [Except.map]
      rw [Http.runFrom_bind, Http.runFrom_lift]
      unfold session?
      cases p.session <;> rfl

end Provider

/-- Adding tracks to a playlist sends one POST to the playlist's tracks that names every
track, or nothing when that request cannot be sent. -/
theorem Api.addPlaylistTracks_log (api : Api) (playlistId : String) (trackIds : List String)
    (net : Http.Network) (log : List Http.Request) :
    (Http.runFrom net log (api.addPlaylistTracks playlistId trackIds >>= fun _ => pure ())).2 = log ∨
      (Http.runFrom net log (api.addPlaylistTracks playlistId trackIds >>= fun _ => pure ())).2 =
        log ++ [api.buildRequest .post (api.endpoint ("playlist/" ++ playlistId ++ "/tracks"))
          [("songs", ",".intercalate trackIds)]] := by
  rw [Http.runFrom_bind_pure_log]
  unfold Api.addPlaylistTracks
  rw [Http.runFrom_bind_pure_log]
  exact Api.request_log api .post _ _ net log

namespace Provider

/-- A library edit with `call` checks before it sends: a media type without a library
collection is refused first, then an id that is not a 64-bit integer, then an instance
that is not set up, each time on every network and with nothing sent; an edit that
passes the three checks is the API call for the media type's collection. -/
def ChecksBeforeSending (p : Provider) (edit : String → MediaType → Http Bool)
    (call : Api → String → String → Http Bool) : Prop :=
  ∀ (id : String) (t : MediaType) (net : Http.Network) (log : List Http.Request),
    (t ∉ libraryMediaTypes →
      ∃ detail, Http.runFrom net log (edit id t) = (.error (.notImplemented detail), log)) ∧
    (t ∈ libraryMediaTypes → Text.parseI64? id = none →
      Http.runFrom net log (edit id t) = (.error (.invalidData ("invalid Deezer id: " ++ id)), log)) ∧
    (t ∈ libraryMediaTypes → Text.parseI64? id ≠ none → p.session = none →
      Http.runFrom net log (edit id t) = (.error (.loginFailed "Deezer provider is not set up"), log)) ∧
    (∀ s, p.session = some s → t ∈ libraryMediaTypes → Text.parseI64? id ≠ none →
      ∃ kind, libraryKind t = .ok kind ∧
        Http.runFrom net log (edit id t) = Http.runFrom net log (call s.api kind id))

theorem libraryEdit_checksBeforeSending (p : Provider) (call : Api → String → String → Http Bool) :
    p.ChecksBeforeSending (p.libraryEdit call) call := by
  intro id t net log
  rcases libraryKind_cases t with ⟨listed, kind, found⟩ | ⟨unlisted, refused⟩
  · refine ⟨fun unlisted => absurd listed unlisted, fun _ rejected => ?_,
      fun _ parsed none => ?_, fun s some _ parsed => ⟨kind, found, ?_⟩⟩
    · rw [runFrom_libraryEdit, found, numericId_of_parse_eq_none rejected]
    · rw [runFrom_libraryEdit, found, numericId_of_parse parsed, none]
    · rw [runFrom_libraryEdit, found, numericId_of_parse parsed, some]
  · refine ⟨fun _ => ⟨_, by rw [runFrom_libraryEdit, refused]⟩, fun listed => absurd listed unlisted,
      fun listed => absurd listed unlisted, fun _ _ listed => absurd listed unlisted⟩

/-- Library edits are checked before anything is sent. Adding to and removing from the
library check the media type, then the id, then the session, and only then send their
request. Adding tracks to a playlist refuses a playlist id that is not a 64-bit integer,
then the first track id, in order, that is not one, then an instance that is not set up,
each time sending nothing; with every id an integer, the tracks go out together in one
POST, or nothing is sent. -/
theorem libraryEdits_checked_before_sending (p : Provider) :
    p.ChecksBeforeSending p.libraryAdd Api.libraryAdd ∧
    p.ChecksBeforeSending p.libraryRemove Api.libraryRemove ∧
    ∀ (playlistId : String) (trackIds : List String) (net : Http.Network)
      (log : List Http.Request),
      (Text.parseI64? playlistId = none →
        Http.runFrom net log (p.addPlaylistTracks playlistId trackIds) =
          (.error (.invalidData ("invalid Deezer id: " ++ playlistId)), log)) ∧
      (Text.parseI64? playlistId ≠ none → ∀ pre bad post, trackIds = pre ++ bad :: post →
        (∀ x ∈ pre, Text.parseI64? x ≠ none) → Text.parseI64? bad = none →
        Http.runFrom net log (p.addPlaylistTracks playlistId trackIds) =
          (.error (.invalidData ("invalid Deezer id: " ++ bad)), log)) ∧
      (Text.parseI64? playlistId ≠ none → (∀ x ∈ trackIds, Text.parseI64? x ≠ none) →
        (p.session = none →
          Http.runFrom net log (p.addPlaylistTracks playlistId trackIds) =
            (.error (.loginFailed "Deezer provider is not set up"), log)) ∧
        ∀ s, p.session = some s →
          (Http.runFrom net log (p.addPlaylistTracks playlistId trackIds)).2 = log ∨
          (Http.runFrom net log (p.addPlaylistTracks playlistId trackIds)).2 =
            log ++ [s.api.buildRequest .post (s.api.endpoint ("playlist/" ++ playlistId ++ "/tracks"))
              [("songs", ",".intercalate trackIds)]]) := by
  refine ⟨p.libraryEdit_checksBeforeSending Api.libraryAdd,
    p.libraryEdit_checksBeforeSending Api.libraryRemove,
    fun playlistId trackIds net log => ⟨fun rejected => ?_, fun parsed pre bad post split passed
      rejected => ?_, fun parsed allParsed => ?_⟩⟩
  · rw [runFrom_addPlaylistTracks, numericId_of_parse_eq_none rejected]
  · have firstBad : trackIds.mapM numericId = .error (.invalidData ("invalid Deezer id: " ++ bad)) := by
      rw [split]
      exact mapM_of_first_failure numericId (fun x mem => ⟨x, numericId_of_parse (passed x mem)⟩)
        (numericId_of_parse_eq_none rejected)
    rw [runFrom_addPlaylistTracks, numericId_of_parse parsed, firstBad]
  · obtain ⟨ids, checked⟩ := mapM_of_all_pass numericId trackIds
      (fun x mem => ⟨x, numericId_of_parse (allParsed x mem)⟩)
    refine ⟨fun none => ?_, fun s some => ?_⟩
    · rw [runFrom_addPlaylistTracks, numericId_of_parse parsed, checked, none]
    · rw [runFrom_addPlaylistTracks, numericId_of_parse parsed, checked, some]
      exact Api.addPlaylistTracks_log s.api playlistId trackIds net log

end Provider

end Deezer

end MusicProviders
