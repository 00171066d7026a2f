import MusicProviders.Proofs.Paging.Walk
import MusicProviders.Proofs.Paging.Library
import MusicProviders.Proofs.Mapping.Malformed

/-! # SoundCloud listings that fetch each entry

The track likes, the library entries and the tracks of a playlist are listed with only
ids, and every entry is fetched in full. Whether an entry's failure is skipped or shown
depends on its kind: an entry without a usable id, or whose record is malformed, fails as
invalid data and is skipped; any other failure of its fetch is the failure of the request
for its record, and becomes that entry's item while the listing goes on.

* `Session.trackById_reports`, `Session.playlistById_reports` — an entry's fetch fails
  as its record request does, apart from malformed data.
* `Session.parseTrack_of_lookup_fails` — a failed uploader lookup falls back to the
  embedded user; it never fails the track.
* `Session.tracksFromStubs_run` — fetching a list of stubs skips the malformed ones and
  fails with the first other failure.
* `Provider.playlistTracks_run` — a playlist whose record cannot be fetched or read lists
  that one failure; otherwise the outcomes of its tracks, malformed ones left out.
-/

namespace MusicProviders

namespace Soundcloud

/-! ## Fetching one entry -/

namespace Session

theorem parseTrack_failsOnly (s : Session) (track : TrackRecord) (position : TrackPosition) :
    Http.FailsOnly ProviderError.IsInvalidData (s.parseTrack track position) := by
  unfold parseTrack
  exact Http.FailsOnly.bind (Http.FailsOnly.ofExchange _) fun uploader =>
    Http.FailsOnly.lift (s.mapper.parseTrack_kind track uploader position)

/-- A track fetched by id fails as the request for its details does; every other
failure (an answer that is not an array, an empty one, a record that does not decode or
does not map) is invalid data. -/
theorem trackById_reports (s : Session) (trackId : String) (position : TrackPosition) :
    Http.ReportsRequest (s.trackById trackId position) (s.api.get "tracks" [("ids", trackId)]) := by
  unfold trackById fetchTrack Api.trackDetails
  refine ((Http.ReportsRequest.refl _).bind ?payload).bind ?record |>.bind fun track =>
    s.parseTrack_failsOnly track position
  case payload =>
    intro answer
    split
    · exact Http.FailsOnly.pure _
    · exact Http.FailsOnly.fail trivial
  case record =>
    intro details
    split
    · exact Http.FailsOnly.fail trivial
    · exact Http.FailsOnly.lift fun _ => decode_kind

/-- A playlist fetched by id fails as the request for its record does, or as invalid
data. -/
theorem playlistById_reports (s : Session) (playlistId : String) :
    Http.ReportsRequest (s.playlistById playlistId) (s.api.playlistDetails playlistId) := by
  unfold playlistById
  exact (Http.ReportsRequest.refl _).bind fun v =>
    Http.FailsOnly.lift (s.mapper.playlistFromValue_kind v)

/-- When the full record of a track's uploader cannot be fetched or read, the track is
mapped with the embedded user. -/
theorem parseTrack_of_lookup_fails (s : Session) {track : TrackRecord} {embedded : UserRecord}
    {userId : String} (uploaded : track.user = some embedded)
    (identified : embedded.id = some userId)
    (position : TrackPosition) (net : Http.Network) {log log' : List Http.Request}
    {e : ProviderError}
    (failed : Http.runFrom net log
      (do Http.lift (decode "user" userDecoder (← s.api.userDetails userId))) = (.error e, log')) :
    Http.runFrom net log (s.parseTrack track position) =
      (s.mapper.parseTrack track (some embedded) position, log') := by
  have fallback : ((s.uploader track).run net).run log = (some embedded, log') := by
    unfold uploader
    simp only [uploaded, identified, ReaderT.run_bind, StateT.run_bind, Http.run_attempt, failed]
    rfl
  unfold parseTrack
  rw [Http.runFrom_bind, Http.runFrom_ofExchange, fallback]
  exact Http.runFrom_lift net log' _

/-! ## Lists of stubs -/

/-- A loop over stubs that skips those whose fetch fails as invalid data, keeps the tracks
fetched, and stops at the first other failure. -/
theorem forIn_skipping {β : Type} (net : Http.Network) (fetch : Json → Http β)
    (body : Json → List β → Http (ForInStep (List β)))
    (step : ∀ stub acc log, Http.runFrom net log (body stub acc) =
      match skipMalformed (Http.runFrom net log (fetch stub)).1 with
      | none => (.ok (.yield acc), (Http.runFrom net log (fetch stub)).2)
      | some (.ok t) => (.ok (.yield (acc ++ [t])), (Http.runFrom net log (fetch stub)).2)
      | some (.error e) => (.error e, (Http.runFrom net log (fetch stub)).2)) :
    ∀ (stubs : List Json) (acc : List β) (log : List Http.Request),
      (Http.runFrom net log (forIn stubs acc body)).1 =
        (collectOutcomes ((Http.runEach net (stubs.map fetch) log).1.filterMap skipMalformed)).map
          (acc ++ ·)
  | [], acc, log => by simp [collectOutcomes, Except.map]
  | stub :: stubs, acc, log => by
    rw [List.forIn_cons, Http.runFrom_bind, step, List.map_cons, Http.runEach_cons,
      List.filterMap_cons]
    cases skipMalformed (Http.runFrom net log (fetch stub)).1 with
    | none => exact forIn_skipping net fetch body step stubs acc _
    | some o =>
      cases o with
      | error e => rfl
      | ok t =>
        show (Http.runFrom net _ (forIn stubs (acc ++ [t]) body)).1 = _
        rw [forIn_skipping net fetch body step stubs (acc ++ [t]) _]
        simp only [collectOutcomes]
        cases collectOutcomes _ <;> simp [Except.map]

/-- Fetching the tracks of a list of stubs skips the malformed ones and fails with the
first other failure, if there is one. -/
theorem tracksFromStubs_run (s : Session) (stubs : List Json) (net : Http.Network)
    (log : List Http.Request) :
    (Http.runFrom net log (s.tracksFromStubs stubs)).1 =
      collectOutcomes ((Http.runEach net (stubs.map fun stub => do
        s.trackById (← Http.lift (nestedId stub none)) .bare) log).1.filterMap skipMalformed) := by
  unfold tracksFromStubs
  simp only [bind_pure]
  rw [forIn_skipping net _ _ ?step stubs [] log]
  case step =>
    intro stub acc log
    rw [Http.runFrom_bind, Http.runFrom_outcome]
    dsimp only
    cases skipMalformed
        (Http.runFrom net log (do s.trackById (← Http.lift (nestedId stub none)) .bare)).1 with
    | none => rfl
    | some o => cases o <;> rfl
  cases collectOutcomes _ <;> rfl

end Session

/-! ## The listings -/

namespace Provider

theorem playlistTracks_run (p : Provider) {s : Session} (hs : p.session = some s)
    (playlistId : String) (net : Http.Network) (log : List Http.Request) :
    ((p.playlistTracks playlistId).run net).run log =
      match Http.runFrom net log (s.api.playlistDetails playlistId) with
      | (.error e, log') => ([.error e], log')
      | (.ok value, log') =>
        match decode "playlist" playlistDecoder value with
        | .error e =>
          ([.error (.api ("playlist " ++ playlistId ++ " has no track list: " ++ e.message))], log')
        | .ok playlist =>
          ((Http.runEach net (playlist.tracks.zipIdx.map fun (stub, i) => do
              s.trackById (← Http.lift (nestedId stub none)) (.playlist (positionOf i))) log').1.filterMap
              skipMalformed,
            (Http.runEach net (playlist.tracks.zipIdx.map fun (stub, i) => do
              s.trackById (← Http.lift (nestedId stub none)) (.playlist (positionOf i))) log').2) := by
  unfold playlistTracks
  rw [p.listing_of_session hs]
  rcases requested : Http.runFrom net log (s.api.playlistDetails playlistId) with
    ⟨_ | value, log'⟩
  case error e =>
    -- the request fails as an exchange failure, which no listing filters out
    have fails :
        Http.FailsOnly ProviderError.IsExchangeFailure (s.api.playlistDetails playlistId) :=
      Api.request_failsOnly _ _ _
    have kind : e.IsExchangeFailure := fails net log e (by rw [requested])
    simp only [Http.exchange_run_bind, Http.run_attempt, Http.runFrom_bind, requested]
    rw [skipMalformed_of_isExchangeFailure kind]
    rfl
  case ok =>
    simp only [Http.exchange_run_bind, Http.run_attempt, Http.runFrom_bind, requested]
    cases decode "playlist" playlistDecoder value with
    | error e => rfl
    | ok playlist =>
      simp only [Http.runFrom_pure, Http.exchange_run_bind, Http.mapM_attempt]
      rfl

theorem libraryTracks_lists (p : Provider) {s : Session} (hs : p.session = some s) (fuel : Nat) :
    Pages.ListsEntries (p.operations fuel).libraryTracks (s.api.tracksLiked s.userId)
      (fun entry => do s.trackById (← Http.lift (nestedId entry (some "track"))) .bare) fuel := by
  dsimp only [operations]
  rw [p.listing_of_session hs]
  exact Pages.listsEntries_of_fetch _ fuel (Api.pages_fetch_failsOnly s.api _ _)

theorem libraryPlaylists_lists (p : Provider) {s : Session} (hs : p.session = some s) (fuel : Nat) :
    Pages.ListsEntries (p.operations fuel).libraryPlaylists s.api.accountPlaylists
      (fun entry => do s.playlistById (← Http.lift (nestedId entry (some "playlist")))) fuel := by
  dsimp only [operations]
  rw [p.listing_of_session hs]
  exact Pages.listsEntries_of_fetch _ fuel (Api.pages_fetch_failsOnly s.api _ _)

end Provider

/-- The SoundCloud listings that fetch each entry list, along every walk of answers, one
item per entry at most and in entry order: entries whose fetch fails as invalid data (no
usable id, a malformed record) are skipped, every other failure of an entry's fetch is
the failure of the request for its record and is listed in its place, and the failure
of a page request, or of a playlist's own record, ends the listing. A failed uploader
lookup falls back to the embedded user. Fetching a list of stubs skips the same entries
but fails with the first other failure. -/
theorem entryListings_skip_only_malformed :
    (∀ (p : Provider) (s : Session), p.session = some s → ∀ fuel : Nat,
      Pages.ListsEntries (p.operations fuel).libraryTracks (s.api.tracksLiked s.userId)
          (fun entry => do s.trackById (← Http.lift (nestedId entry (some "track"))) .bare) fuel ∧
        Pages.ListsEntries (p.operations fuel).libraryPlaylists s.api.accountPlaylists
          (fun entry => do s.playlistById (← Http.lift (nestedId entry (some "playlist")))) fuel ∧
        ∀ (playlistId : String) (net : Http.Network) (log : List Http.Request),
          (((p.operations fuel).playlistTracks playlistId).run net).run log =
            match Http.runFrom net log (s.api.playlistDetails playlistId) with
            | (.error e, log') => ([.error e], log')
            | (.ok value, log') =>
              match decode "playlist" playlistDecoder value with
              | .error e =>
                ([.error (.api ("playlist " ++ playlistId ++ " has no track list: " ++ e.message))],
                  log')
              | .ok playlist =>
                ((Http.runEach net (playlist.tracks.zipIdx.map fun (stub, i) => do
                    s.trackById (← Http.lift (nestedId stub none)) (.playlist (positionOf i)))
                    log').1.filterMap skipMalformed,
                  (Http.runEach net (playlist.tracks.zipIdx.map fun (stub, i) => do
                    s.trackById (← Http.lift (nestedId stub none)) (.playlist (positionOf i)))
                    log').2)) ∧
    (∀ (entry : Json) (key : Option String) (e : ProviderError),
      nestedId entry key = .error e → e.IsInvalidData) ∧
    (∀ (s : Session) (trackId : String) (position : TrackPosition),
      Http.ReportsRequest (s.trackById trackId position)
        (s.api.get "tracks" [("ids", trackId)])) ∧
    (∀ (s : Session) (playlistId : String),
      Http.ReportsRequest (s.playlistById playlistId) (s.api.playlistDetails playlistId)) ∧
    (∀ (api : Api) (url : String) (params : List (String × String)),
      Http.FailsOnly ProviderError.IsExchangeFailure (api.request url params)) ∧
    (∀ (s : Session) (track : TrackRecord) (embedded : UserRecord) (userId : String),
      track.user = some embedded → embedded.id = some userId →
        ∀ (position : TrackPosition) (net : Http.Network) (log log' : List Http.Request)
          (e : ProviderError),
          Http.runFrom net log
              (do Http.lift (decode "user" userDecoder (← s.api.userDetails userId))) =
            (.error e, log') →
          Http.runFrom net log (s.parseTrack track position) =
            (s.mapper.parseTrack track (some embedded) position, log')) ∧
    (∀ (s : Session) (stubs : List Json) (net : Http.Network) (log : List Http.Request),
      (Http.runFrom net log (s.tracksFromStubs stubs)).1 =
        collectOutcomes ((Http.runEach net (stubs.map fun stub => do
          s.trackById (← Http.lift (nestedId stub none)) .bare) log).1.filterMap skipMalformed)) := by
  refine ⟨?listings, fun _ _ _ => nestedId_kind, Session.trackById_reports,
    Session.playlistById_reports, Api.request_failsOnly, ?uploader, Session.tracksFromStubs_run⟩
  case listings =>
    intro p s hs fuel
    exact ⟨p.libraryTracks_lists hs fuel, p.libraryPlaylists_lists hs fuel,
      p.playlistTracks_run hs⟩
  case uploader =>
    intro s track embedded userId uploaded identified position net log log' e failed
    exact s.parseTrack_of_lookup_fails uploaded identified position net failed

/-! ## Track likes read entry by entry -/

/-- SoundCloud's answers for the track likes of user 7: one page of three entries, a
track whose uploader cannot be looked up, an entry without id, and a track that is not
found. -/
def trackLikesNet : Http.Network :=
  ⟨fun _ r =>
    if r.url = "https://api-v2.soundcloud.com/users/7/track_likes?limit=50&client_id=cid" then
      some ⟨200, Bytes.ofString ("\x7b\"collection\":[\x7b\"track\":\x7b\"id\":1\x7d\x7d,\x7b\"track\":\x7b\x7d\x7d," ++
        "\x7b\"track\":\x7b\"id\":2\x7d\x7d]\x7d")⟩
    else if r.url = "https://api-v2.soundcloud.com/tracks?ids=1&client_id=cid" then
      some ⟨200, Bytes.ofString "[\x7b\"id\":1,\"title\":\"One\",\"user\":\x7b\"id\":9,\"username\":\"u\"\x7d\x7d]"⟩
    else if r.url = "https://api-v2.soundcloud.com/tracks?ids=2&client_id=cid" then
      some ⟨404, []⟩
    else none⟩

/-- The track likes are read entry by entry, in order: the first track is fetched and
mapped with the user embedded in it, since its uploader cannot be looked up; the entry
without id fails as invalid data and is left out; the track that is not found is listed
as that failure, in its place. -/
theorem entryListings_read_likes :
    (librarySoundcloudSession.api.tracksLiked librarySoundcloudSession.userId).Walk trackLikesNet
      (fun entry => do
        librarySoundcloudSession.trackById (← Http.lift (nestedId entry (some "track"))) .bare)
      (librarySoundcloudSession.api.tracksLiked librarySoundcloudSession.userId).first []
      [⟨[Json.object [("track", Json.object [("id", Json.int 1)])],
          Json.object [("track", Json.object [])],
          Json.object [("track", Json.object [("id", Json.int 2)])]], none⟩]
      [librarySoundcloudSession.mapper.parseTrack
          { (default : TrackRecord) with
            id := some "1", title := some "One",
            user := some { (default : UserRecord) with id := some "9", username := some "u" } }
          (some { (default : UserRecord) with id := some "9", username := some "u" }) .bare,
        .error (.invalidData "SoundCloud entry without track id"),
        .error (.notFound "https://api-v2.soundcloud.com/tracks")]
      none
      [(Http.Request.plain .get
            "https://api-v2.soundcloud.com/users/7/track_likes?limit=50&client_id=cid").withHeader
          "authorization" "OAuth tok",
        (Http.Request.plain .get
             "https://api-v2.soundcloud.com/tracks?ids=1&client_id=cid").withHeader
          "authorization" "OAuth tok",
        (Http.Request.plain .get
             "https://api-v2.soundcloud.com/tracks?ids=2&client_id=cid").withHeader
          "authorization" "OAuth tok"] ∧
    ((((Provider.mk default (some librarySoundcloudSession)).operations 3).libraryTracks).run
        trackLikesNet).run [] =
      ([librarySoundcloudSession.mapper.parseTrack
          { (default : TrackRecord) with
            id := some "1", title := some "One",
            user := some { (default : UserRecord) with id := some "9", username := some "u" } }
          (some { (default : UserRecord) with id := some "9", username := some "u" }) .bare,
        .error (.notFound "https://api-v2.soundcloud.com/tracks")],
       [(Http.Request.plain .get
             "https://api-v2.soundcloud.com/users/7/track_likes?limit=50&client_id=cid").withHeader
          "authorization" "OAuth tok",
        (Http.Request.plain .get
             "https://api-v2.soundcloud.com/tracks?ids=1&client_id=cid").withHeader
          "authorization" "OAuth tok",
        (Http.Request.plain .get
             "https://api-v2.soundcloud.com/tracks?ids=2&client_id=cid").withHeader
          "authorization" "OAuth tok"]) := by
  have page : Http.runFrom trackLikesNet []
      ((librarySoundcloudSession.api.tracksLiked librarySoundcloudSession.userId).fetch
        (librarySoundcloudSession.api.tracksLiked librarySoundcloudSession.userId).first) =
      (.ok ⟨[Json.object [("track", Json.object [("id", Json.int 1)])],
          Json.object [("track", Json.object [])],
          Json.object [("track", Json.object [("id", Json.int 2)])]], none⟩,
       [(Http.Request.plain .get
             "https://api-v2.soundcloud.com/users/7/track_likes?limit=50&client_id=cid").withHeader
          "authorization" "OAuth tok"]) := by
    decide +kernel
  -- the entries are fetched after the page, from the log it left
  have entries : Http.runEach trackLikesNet
      ([Json.object [("track", Json.object [("id", Json.int 1)])],
          Json.object [("track", Json.object [])],
          Json.object [("track", Json.object [("id", Json.int 2)])]].map fun entry => do
        librarySoundcloudSession.trackById (← Http.lift (nestedId entry (some "track"))) .bare)
      [(Http.Request.plain .get
            "https://api-v2.soundcloud.com/users/7/track_likes?limit=50&client_id=cid").withHeader
          "authorization" "OAuth tok"] =
      ([librarySoundcloudSession.mapper.parseTrack
          { (default : TrackRecord) with
            id := some "1", title := some "One",
            user := some { (default : UserRecord) with id := some "9", username := some "u" } }
          (some { (default : UserRecord) with id := some "9", username := some "u" }) .bare,
        .error (.invalidData "SoundCloud entry without track id"),
        .error (.notFound "https://api-v2.soundcloud.com/tracks")],
       [(Http.Request.plain .get
             "https://api-v2.soundcloud.com/users/7/track_likes?limit=50&client_id=cid").withHeader
          "authorization" "OAuth tok",
        (Http.Request.plain .get
             "https://api-v2.soundcloud.com/tracks?ids=1&client_id=cid").withHeader
          "authorization" "OAuth tok",
        (Http.Request.plain .get
             "https://api-v2.soundcloud.com/tracks?ids=2&client_id=cid").withHeader
          "authorization" "OAuth tok"]) := by
    decide +kernel
  have walk := @Pages.Walk.last _ trackLikesNet _
    (fun entry => do
      librarySoundcloudSession.trackById (← Http.lift (nestedId entry (some "track"))) .bare)
    _ _ _ _ page rfl
  simp only [entries] at walk
  refine ⟨walk, ?_⟩
  rw [(entryListings_skip_only_malformed.1 _ librarySoundcloudSession rfl 3).1 _ _ _ _ _ _ walk
    (by decide)]
  show (_ : List (Outcome Track) × List Http.Request) = _
  decide +kernel

end Soundcloud

end MusicProviders
