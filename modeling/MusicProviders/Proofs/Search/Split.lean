import MusicProviders.Proofs.Search.FanOut
import MusicProviders.Proofs.Paging.Walk
import MusicProviders.Proofs.Mapping.Malformed

/-! # The SoundCloud search splits one answer by kind

A SoundCloud search sends one search request and reads its answer as one collection of
results of mixed kinds. Each result is taken in turn: a user, a track or a playlist is
mapped when its kind is wanted and added to its own list, a malformed one is skipped, and
every other result is dropped. A track is mapped with its uploader, whose lookup may send
a request of its own but never fails the track.

* `Soundcloud.searchArtists`, `Soundcloud.trackResults`, `Soundcloud.searchPlaylists` —
  the users that map, the track results, and the playlists that map, in collection order.
* `Soundcloud.Session.takeResult_of_user` and its siblings — what taking one result does,
  by its kind; `Soundcloud.Session.foldlM_takeResult` — what taking a whole collection
  does: the mapped users and playlists, and the tracks as their fetches come out one after
  another.
* `Soundcloud.search_splits_by_kind` — the search fails only as its one request does, and
  otherwise returns the three lists, each in collection order and empty unless wanted, with
  no more items than the collection has.
-/

namespace MusicProviders

namespace Soundcloud

/-! ## The lists a collection gives -/

/-- The users of a collection that map to artists, in order. -/
def searchArtists (m : Mapper) (items : List Json) : List Artist :=
  items.filterMap fun item =>
    if resultKind item = some "user" then (m.artistFromValue item).toOption else none

/-- The track results of a collection, in order. -/
def trackResults (items : List Json) : List Json :=
  items.filter fun item => resultKind item == some "track"

/-- The playlists of a collection that map, in order. -/
def searchPlaylists (m : Mapper) (items : List Json) : List Playlist :=
  items.filterMap fun item =>
    if resultKind item = some "playlist" then (m.playlistFromValue item).toOption else none

section Kinds

variable (m : Mapper) (item : Json) (items : List Json)

theorem searchArtists_cons_of_user (user : resultKind item = some "user") :
    searchArtists m (item :: items) =
      (m.artistFromValue item).toOption.toList ++ searchArtists m items := by
  cases mapped : (m.artistFromValue item).toOption <;>
    simp [searchArtists, user, mapped]

theorem searchArtists_cons_of_ne (other : resultKind item ≠ some "user") :
    searchArtists m (item :: items) = searchArtists m items := by
  simp [searchArtists, other]

theorem searchPlaylists_cons_of_playlist (playlist : resultKind item = some "playlist") :
    searchPlaylists m (item :: items) =
      (m.playlistFromValue item).toOption.toList ++ searchPlaylists m items := by
  cases mapped : (m.playlistFromValue item).toOption <;>
    simp [searchPlaylists, playlist, mapped]

theorem searchPlaylists_cons_of_ne (other : resultKind item ≠ some "playlist") :
    searchPlaylists m (item :: items) = searchPlaylists m items := by
  simp [searchPlaylists, other]

theorem trackResults_cons_of_track (track : resultKind item = some "track") :
    trackResults (item :: items) = item :: trackResults items := by
  simp [trackResults, track]

theorem trackResults_cons_of_ne (other : resultKind item ≠ some "track") :
    trackResults (item :: items) = trackResults items := by
  simp [trackResults, other]

/-- The users, tracks and playlists of a collection are distinct results, so together
they are no more than the collection. -/
theorem length_kinds_le :
    ∀ items : List Json, (searchArtists m items).length + (trackResults items).length +
      (searchPlaylists m items).length ≤ items.length
  | [] => by simp [searchArtists, trackResults, searchPlaylists]
  | item :: items => by
    have rest := length_kinds_le items
    by_cases user : resultKind item = some "user"
    case pos =>
      rw [searchArtists_cons_of_user m item items user,
        trackResults_cons_of_ne item items (by rw [user]; decide),
        searchPlaylists_cons_of_ne m item items (by rw [user]; decide)]
      have one : (m.artistFromValue item).toOption.toList.length ≤ 1 := Option.length_toList_le
      simp only [List.length_append, List.length_cons]
      omega
    case neg =>
    by_cases track : resultKind item = some "track"
    case pos =>
      rw [searchArtists_cons_of_ne m item items user,
        trackResults_cons_of_track item items track,
        searchPlaylists_cons_of_ne m item items (by rw [track]; decide)]
      simp only [List.length_cons]
      omega
    case neg =>
    rw [searchArtists_cons_of_ne m item items user, trackResults_cons_of_ne item items track]
    by_cases playlist : resultKind item = some "playlist"
    case pos =>
      rw [searchPlaylists_cons_of_playlist m item items playlist]
      have one : (m.playlistFromValue item).toOption.toList.length ≤ 1 := Option.length_toList_le
      simp only [List.length_append, List.length_cons]
      omega
    case neg =>
      rw [searchPlaylists_cons_of_ne m item items playlist, List.length_cons]
      omega

end Kinds

/-! ## Results fail only when malformed -/

namespace Session

/-- A track result fails only as malformed: its record does not decode or has no id, or
its uploader has none. The uploader's lookup itself never fails it. -/
theorem resultTrack_failsOnly (s : Session) (item : Json) :
    Http.FailsOnly ProviderError.IsInvalidData (s.resultTrack item) :=
  Http.FailsOnly.bind (Http.FailsOnly.lift fun _ => decode_kind) fun track =>
    s.parseTrack_failsOnly track .bare

/-- Keeping a mapping that fails only as malformed adds what it maps to, or nothing. -/
theorem keepMapped_of_malformedOnly {α : Type} (results : SearchResults) {mapped : Outcome α}
    (add : SearchResults → α → SearchResults)
    (malformedOnly : ∀ e, mapped = .error e → e.IsInvalidData) :
    keepMapped results mapped add = pure ((mapped.toOption.map (add results)).getD results) := by
  cases mapped with
  | ok a => rfl
  | error e =>
    unfold keepMapped
    rw [skipMalformed_of_isInvalidData (malformedOnly e rfl)]
    rfl

/-- Keeping a mapping of a kind adds what it maps to when the kind is wanted, and nothing
otherwise; either way no request is sent. -/
theorem runFrom_keepMapped_if {α : Type} (wanted : Bool) (results : SearchResults)
    {mapped : Outcome α} (add : SearchResults → α → SearchResults)
    (malformedOnly : ∀ e, mapped = .error e → e.IsInvalidData) (net : Http.Network)
    (log : List Http.Request) :
    Http.runFrom net log (if wanted then keepMapped results mapped add else pure results) =
      (.ok (if wanted then (mapped.toOption.map (add results)).getD results else results),
        log) := by
  cases wanted
  case false => rfl
  case true =>
    rw [if_pos rfl, if_pos rfl, keepMapped_of_malformedOnly results add malformedOnly]
    rfl

/-! ## Taking one result -/

section Step

variable (s : Session) (wanted : MediaType → Bool) (results : SearchResults) (item : Json)
variable (net : Http.Network) (log : List Http.Request)

theorem takeResult_of_user (user : resultKind item = some "user") :
    Http.runFrom net log (s.takeResult wanted results item) =
      (.ok (if wanted .artist then
          { results with artists := results.artists ++ (s.mapper.artistFromValue item).toOption.toList }
        else results), log) := by
  simp only [takeResult, user]
  rw [runFrom_keepMapped_if _ _ _ (s.mapper.artistFromValue_kind item)]
  cases (s.mapper.artistFromValue item).toOption <;> simp

theorem takeResult_of_playlist (playlist : resultKind item = some "playlist") :
    Http.runFrom net log (s.takeResult wanted results item) =
      (.ok (if wanted .playlist then
          { results with
            playlists := results.playlists ++ (s.mapper.playlistFromValue item).toOption.toList }
        else results), log) := by
  simp only [takeResult, playlist]
  rw [runFrom_keepMapped_if _ _ _ (s.mapper.playlistFromValue_kind item)]
  cases (s.mapper.playlistFromValue item).toOption <;> simp

theorem takeResult_of_track (track : resultKind item = some "track") :
    Http.runFrom net log (s.takeResult wanted results item) =
      if wanted .track then
        (.ok { results with
            tracks := results.tracks ++
              (Http.runFrom net log (s.resultTrack item)).1.toOption.toList },
          (Http.runFrom net log (s.resultTrack item)).2)
      else (.ok results, log) := by
  simp only [takeResult, track]
  by_cases asked : wanted .track = true
  case neg => simp only [asked, Bool.false_eq_true, if_false]; rfl
  case pos =>
    rw [if_pos asked, if_pos asked, Http.runFrom_bind, Http.runFrom_outcome]
    dsimp only
    rw [keepMapped_of_malformedOnly _ _
      (fun e failed => s.resultTrack_failsOnly item net log e failed)]
    cases (Http.runFrom net log (s.resultTrack item)).1.toOption <;> simp

theorem takeResult_of_other (user : resultKind item ≠ some "user")
    (track : resultKind item ≠ some "track") (playlist : resultKind item ≠ some "playlist") :
    Http.runFrom net log (s.takeResult wanted results item) = (.ok results, log) := by
  unfold takeResult
  split
  case h_1 named => exact absurd named user
  case h_2 named => exact absurd named track
  case h_3 named => exact absurd named playlist
  case h_4 => rfl

end Step

/-! ## Taking a whole collection -/

/-- Taking the results of a collection in turn adds its mapped users and playlists of the
wanted kinds, in order, and the tracks that come out of fetching its track results one
after another, each from the log the one before left; only those fetches send requests. -/
theorem foldlM_takeResult (s : Session) (wanted : MediaType → Bool) (net : Http.Network) :
    ∀ (items : List Json) (results : SearchResults) (log : List Http.Request),
      Http.runFrom net log (items.foldlM (s.takeResult wanted) results) =
        (.ok { artists := results.artists ++
                (if wanted .artist then searchArtists s.mapper items else []),
               albums := results.albums,
               tracks := results.tracks ++ (Http.runEach net
                (if wanted .track then (trackResults items).map s.resultTrack else [])
                log).1.filterMap Except.toOption,
               playlists := results.playlists ++
                (if wanted .playlist then searchPlaylists s.mapper items else []) },
          (Http.runEach net
            (if wanted .track then (trackResults items).map s.resultTrack else []) log).2)
  | [], results, log => by
    simp [searchArtists, searchPlaylists, trackResults]
  | item :: items, results, log => by
    rw [List.foldlM_cons, Http.runFrom_bind]
    by_cases user : resultKind item = some "user"
    case pos =>
      rw [takeResult_of_user s wanted results item net log user]
      dsimp only
      rw [foldlM_takeResult s wanted net items, searchArtists_cons_of_user _ _ _ user,
        trackResults_cons_of_ne _ _ (by rw [user]; decide),
        searchPlaylists_cons_of_ne _ _ _ (by rw [user]; decide)]
      cases wanted .artist <;> simp
    case neg =>
    by_cases track : resultKind item = some "track"
    case pos =>
      rw [takeResult_of_track s wanted results item net log track,
        searchArtists_cons_of_ne _ _ _ user, trackResults_cons_of_track _ _ track,
        searchPlaylists_cons_of_ne _ _ _ (by rw [track]; decide)]
      cases asked : wanted .track
      case false =>
        simp only [Bool.false_eq_true, if_false]
        rw [foldlM_takeResult s wanted net items]
        simp [asked]
      case true =>
        simp only [if_true]
        rw [foldlM_takeResult s wanted net items]
        simp only [asked, if_true, List.map_cons, Http.runEach_cons]
        -- the track is fetched first, and what it maps to leads the tracks
        rcases Http.runFrom net log (s.resultTrack item) with ⟨_ | t, log₁⟩ <;>
          simp [Except.toOption, List.filterMap_cons]
    case neg =>
    rw [searchArtists_cons_of_ne _ _ _ user, trackResults_cons_of_ne _ _ track]
    by_cases playlist : resultKind item = some "playlist"
    case pos =>
      rw [takeResult_of_playlist s wanted results item net log playlist]
      dsimp only
      rw [foldlM_takeResult s wanted net items, searchPlaylists_cons_of_playlist _ _ _ playlist]
      cases wanted .playlist <;> simp
    case neg =>
      rw [takeResult_of_other s wanted results item net log user track playlist]
      dsimp only
      rw [foldlM_takeResult s wanted net items, searchPlaylists_cons_of_ne _ _ _ playlist]

end Session

/-! ## The search request -/

namespace Api

/-- A call sends its one request, or nothing when that cannot be sent. -/
theorem request_log (api : Api) (url : String) (params : List (String × String))
    (net : Http.Network) (log : List Http.Request) :
    (Http.runFrom net log (api.request url params)).2 = log ∨
      (Http.runFrom net log (api.request url params)).2 = log ++ [api.buildRequest url params] := by
  have sent := Http.send_log net log (api.buildRequest url params)
  unfold request
  rw [Http.runFrom_bind]
  rcases answered : Http.runFrom net log (Http.send (api.buildRequest url params)) with
    ⟨_ | answer, log₁⟩
  · rw [answered] at sent
    exact sent
  · rw [answered] at sent
    -- checking the status and reading the body send nothing more
    dsimp only
    rw [Http.runFrom_bind, Http.runFrom_lift]
    cases checkStatus answer.status url with
    | error e => exact sent
    | ok _ =>
      dsimp only
      rw [Http.runFrom_lift]
      exact sent

/-- The search fails as its request does, or as reading the answer as a collection does,
and otherwise lists the collection. -/
theorem search_run (api : Api) (query : String) (limit : Nat) (net : Http.Network)
    (log : List Http.Request) :
    Http.runFrom net log (api.search query limit) =
      match Http.runFrom net log
          (api.get "search" [("q", query), ("limit", toString limit), ("offset", "0")]) with
      | (.error e, log₁) => (.error e, log₁)
      | (.ok data, log₁) => ((decodeCollection data).map (·.collection), log₁) := by
  unfold search
  rw [Http.runFrom_bind]
  rcases Http.runFrom net log
    (api.get "search" [("q", query), ("limit", toString limit), ("offset", "0")]) with
    ⟨_ | data, log₁⟩
  · rfl
  · dsimp only
    rw [Http.runFrom_bind, Http.runFrom_lift]
    cases decodeCollection data <;> rfl

/-- A search sends its one request, or nothing when that cannot be sent. -/
theorem search_log (api : Api) (query : String) (limit : Nat) (net : Http.Network)
    (log : List Http.Request) :
    (Http.runFrom net log (api.search query limit)).2 = log ∨
      (Http.runFrom net log (api.search query limit)).2 = log ++
        [api.buildRequest (api.endpoint "search")
          [("q", query), ("limit", toString limit), ("offset", "0")]] := by
  have sent := api.request_log (api.endpoint "search")
    [("q", query), ("limit", toString limit), ("offset", "0")] net log
  rw [search_run]
  unfold get
  -- reading the answer sends nothing more
  rcases requested : Http.runFrom net log (api.request (api.endpoint "search")
    [("q", query), ("limit", toString limit), ("offset", "0")]) with ⟨_ | data, log₁⟩ <;>
    rw [requested] at sent <;> exact sent

end Api

/-! ## The search -/

namespace Provider

section Search

variable (p : Provider) {s : Session} (hs : p.session = some s) (query : String)
  (mediaTypes : List MediaType) (limit : Nat)
include hs

theorem search_run (net : Http.Network) (log : List Http.Request) :
    Http.runFrom net log (p.search query mediaTypes limit) =
      match Http.runFrom net log (s.api.search query limit) with
      | (.error e, log₁) => (.error e, log₁)
      | (.ok items, log₁) => Http.runFrom net log₁
          (items.foldlM (s.takeResult (MediaType.wanted mediaTypes)) ⟨[], [], [], []⟩) := by
  have session : p.session? = .ok s := by rw [session?, hs]
  unfold search
  rw [Http.runFrom_bind, session, Http.runFrom_lift]
  dsimp only
  rw [Http.runFrom_bind]
  rcases Http.runFrom net log (s.api.search query limit) with ⟨_ | items, log₁⟩ <;> rfl

/-- The search is its one request, then the results taken in turn. -/
theorem search_split (net : Http.Network) (log : List Http.Request) :
    Http.runFrom net log (p.search query mediaTypes limit) =
      match Http.runFrom net log (s.api.search query limit) with
      | (.error e, log₁) => (.error e, log₁)
      | (.ok items, log₁) =>
        (.ok ⟨if MediaType.wanted mediaTypes .artist then searchArtists s.mapper items else [],
            [],
            (Http.runEach net (if MediaType.wanted mediaTypes .track then
              (trackResults items).map s.resultTrack else []) log₁).1.filterMap Except.toOption,
            if MediaType.wanted mediaTypes .playlist then searchPlaylists s.mapper items else []⟩,
          (Http.runEach net (if MediaType.wanted mediaTypes .track then
            (trackResults items).map s.resultTrack else []) log₁).2) := by
  rw [p.search_run hs]
  rcases Http.runFrom net log (s.api.search query limit) with ⟨_ | items, log₁⟩
  · rfl
  · dsimp only
    rw [Session.foldlM_takeResult]
    simp only [List.nil_append]

/-- A search finds no more items than the collection its request answered. -/
theorem count_search_le {net : Http.Network} {log log' : List Http.Request} {r : SearchResults}
    (found : Http.runFrom net log (p.search query mediaTypes limit) = (.ok r, log')) :
    ∃ items log₁, Http.runFrom net log (s.api.search query limit) = (.ok items, log₁) ∧
      r.count ≤ items.length := by
  rw [p.search_split hs] at found
  rcases searched : Http.runFrom net log (s.api.search query limit) with ⟨_ | items, log₁⟩ <;>
    rw [searched] at found <;> dsimp only at found
  · cases found
  refine ⟨items, log₁, rfl, ?_⟩
  cases found
  -- each kind gives at most its results, and the kinds are distinct results
  have kinds := length_kinds_le s.mapper items
  have artists : (if MediaType.wanted mediaTypes .artist then searchArtists s.mapper items
      else []).length ≤ (searchArtists s.mapper items).length := by
    split <;> simp
  have tracks : ((Http.runEach net (if MediaType.wanted mediaTypes .track then
      (trackResults items).map s.resultTrack else []) log₁).1.filterMap
        Except.toOption).length ≤ (trackResults items).length := by
    refine Nat.le_trans (List.length_filterMap_le _ _) ?_
    rw [Http.length_runEach]
    split <;> simp
  have playlists : (if MediaType.wanted mediaTypes .playlist then searchPlaylists s.mapper items
      else []).length ≤ (searchPlaylists s.mapper items).length := by
    split <;> simp
  simp only [SearchResults.count, List.length_nil, Nat.add_zero]
  omega

end Search

end Provider

/-- The SoundCloud search splits one answer by kind. It sends one search request, or none
when that cannot be sent, and fails as that request does or as reading its answer as a
collection does. Otherwise it succeeds: with the users that map as artists, the track
results that map as tracks, and the playlists that map, each list in collection order and
empty when its kind is not wanted, and no albums. Track results are fetched one after
another, each from the log the one before left, and only when tracks are wanted; such a
fetch fails only as malformed, its uploader's lookup included, so it never fails the
search. The search finds no more items than the collection holds. -/
theorem search_splits_by_kind (p : Provider) (s : Session) (hs : p.session = some s)
    (query : String) (mediaTypes : List MediaType) (limit : Nat) :
    (∀ net log, (Http.runFrom net log (s.api.search query limit)).2 = log ∨
      (Http.runFrom net log (s.api.search query limit)).2 = log ++
        [s.api.buildRequest (s.api.endpoint "search")
          [("q", query), ("limit", toString limit), ("offset", "0")]]) ∧
    (∀ net log, Http.runFrom net log (s.api.search query limit) =
      match Http.runFrom net log
          (s.api.get "search" [("q", query), ("limit", toString limit), ("offset", "0")]) with
      | (.error e, log₁) => (.error e, log₁)
      | (.ok data, log₁) => ((decodeCollection data).map (·.collection), log₁)) ∧
    (∀ item, Http.FailsOnly ProviderError.IsInvalidData (s.resultTrack item)) ∧
    (∀ net log, Http.runFrom net log (p.search query mediaTypes limit) =
      match Http.runFrom net log (s.api.search query limit) with
      | (.error e, log₁) => (.error e, log₁)
      | (.ok items, log₁) =>
        (.ok ⟨if MediaType.wanted mediaTypes .artist then searchArtists s.mapper items else [],
            [],
            (Http.runEach net (if MediaType.wanted mediaTypes .track then
              (trackResults items).map s.resultTrack else []) log₁).1.filterMap Except.toOption,
            if MediaType.wanted mediaTypes .playlist then searchPlaylists s.mapper items else []⟩,
          (Http.runEach net (if MediaType.wanted mediaTypes .track then
            (trackResults items).map s.resultTrack else []) log₁).2)) ∧
    (∀ net log r log', Http.runFrom net log (p.search query mediaTypes limit) = (.ok r, log') →
      ∃ items log₁, Http.runFrom net log (s.api.search query limit) = (.ok items, log₁) ∧
        r.count ≤ items.length) :=
  ⟨s.api.search_log query limit, s.api.search_run query limit, s.resultTrack_failsOnly,
    p.search_split hs query mediaTypes limit,
    fun _ _ _ _ found => p.count_search_le hs query mediaTypes limit found⟩

/-! ## A search with results of every kind -/

/-- SoundCloud's answers for a search for "drive": a collection of a user, a track by user
9, a playlist, a user without id, a station and a track without uploader; and the full
record of user 9. -/
def searchDriveNet : Http.Network :=
  ⟨fun _ r =>
    if r.url = "https://api-v2.soundcloud.com/search?q=drive&limit=10&offset=0&client_id=cid" then
      some ⟨200, Bytes.ofString ("\x7b\"collection\":[\x7b\"kind\":\"user\",\"id\":11,\"username\":\"ana\"\x7d," ++
        "\x7b\"kind\":\"track\",\"id\":1,\"title\":\"One\",\"user\":\x7b\"id\":9,\"username\":\"u\"\x7d\x7d," ++
        "\x7b\"kind\":\"playlist\",\"id\":5\x7d,\x7b\"kind\":\"user\",\"username\":\"?\"\x7d," ++
        "\x7b\"kind\":\"station\",\"id\":3\x7d,\x7b\"kind\":\"track\",\"id\":2,\"title\":\"Two\"\x7d]\x7d")⟩
    else if r.url = "https://api-v2.soundcloud.com/users/9?client_id=cid" then
      some ⟨200, Bytes.ofString "\x7b\"id\":9,\"username\":\"Uma\"\x7d"⟩
    else none⟩

/-- A search for "drive" that wants artists and tracks reads the collection of its one
request and splits it: the user becomes the one artist and the user without id is left
out, both tracks are kept in order, the first with its uploader's full record fetched by
a second request, and the playlist and the station are dropped. -/
theorem search_splits_mixed_collection :
    Http.runFrom searchDriveNet [] (librarySoundcloudSession.api.search "drive" 10) =
      (.ok [Json.object [("id", Json.int 11), ("kind", Json.string "user"), ("username", Json.string "ana")],
          Json.object [("id", Json.int 1), ("kind", Json.string "track"), ("title", Json.string "One"),
            ("user", Json.object [("id", Json.int 9), ("username", Json.string "u")])],
          Json.object [("id", Json.int 5), ("kind", Json.string "playlist")],
          Json.object [("kind", Json.string "user"), ("username", Json.string "?")],
          Json.object [("id", Json.int 3), ("kind", Json.string "station")],
          Json.object [("id", Json.int 2), ("kind", Json.string "track"), ("title", Json.string "Two")]],
        [(Http.Request.plain .get
              "https://api-v2.soundcloud.com/search?q=drive&limit=10&offset=0&client_id=cid").withHeader
          "authorization" "OAuth tok"]) ∧
    (∃ r, (Http.runFrom searchDriveNet []
        ((Provider.mk default (some librarySoundcloudSession)).search "drive" [.artist, .track]
          10)).1 = .ok r ∧
      r.artists.map (fun a => (a.itemId, a.name)) = [("11", "ana")] ∧
      r.tracks.map (fun t => (t.itemId, t.name, t.artists.map (·.name))) =
        [("1", "One", ["Uma"]), ("2", "Two", [])] ∧
      r.albums = [] ∧ r.playlists = []) ∧
    (Http.runFrom searchDriveNet []
        ((Provider.mk default (some librarySoundcloudSession)).search "drive" [.artist, .track]
          10)).2 =
      [(Http.Request.plain .get
            "https://api-v2.soundcloud.com/search?q=drive&limit=10&offset=0&client_id=cid").withHeader
          "authorization" "OAuth tok",
       (Http.Request.plain .get "https://api-v2.soundcloud.com/users/9?client_id=cid").withHeader
          "authorization" "OAuth tok"] := by
  have collection : Http.runFrom searchDriveNet [] (librarySoundcloudSession.api.search "drive" 10) =
      (.ok [Json.object [("id", Json.int 11), ("kind", Json.string "user"), ("username", Json.string "ana")],
          Json.object [("id", Json.int 1), ("kind", Json.string "track"), ("title", Json.string "One"),
            ("user", Json.object [("id", Json.int 9), ("username", Json.string "u")])],
          Json.object [("id", Json.int 5), ("kind", Json.string "playlist")],
          Json.object [("kind", Json.string "user"), ("username", Json.string "?")],
          Json.object [("id", Json.int 3), ("kind", Json.string "station")],
          Json.object [("id", Json.int 2), ("kind", Json.string "track"), ("title", Json.string "Two")]],
        [(Http.Request.plain .get
              "https://api-v2.soundcloud.com/search?q=drive&limit=10&offset=0&client_id=cid").withHeader
          "authorization" "OAuth tok"]) := by
    decide +kernel
  obtain ⟨-, -, -, split, -⟩ :=
    search_splits_by_kind (Provider.mk default (some librarySoundcloudSession))
      librarySoundcloudSession rfl "drive" [.artist, .track] 10
  refine ⟨collection, ?_, ?_⟩
  · rw [split, collection]
    refine ⟨_, rfl, ?_, ?_, rfl, ?_⟩
    · decide +kernel
    · decide +kernel
    · decide +kernel
  · rw [split, collection]
    show (_ : List Http.Request) = _
    decide +kernel

end Soundcloud

end MusicProviders
