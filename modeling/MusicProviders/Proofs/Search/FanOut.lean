import MusicProviders.Proofs.Paging.Prefix
import MusicProviders.Proofs.Paging.Entries
import MusicProviders.Proofs.Mapping.Malformed

/-! # The Deezer search fans out per kind

A Deezer search asks the API once per wanted kind of item (artists, albums, tracks,
playlists), and an empty list of media types wants all four. Each kind reads the first
`limit` results of its own listing, so it requests a next page only while it has fewer
than `limit` results and none at all when `limit` is zero, maps them in order and skips
the malformed ones.

* `MediaType.wanted_iff` — a kind is wanted when the list is empty or names it.
* `Deezer.SearchesFirst` — what the search of one kind promises: nothing requested when
  it is not wanted; along every run of the reader of its first `limit` results, the
  failure of that run or the results mapped; at most `limit` items on every network.
  `Deezer.Session.searchKind_searchesFirst` proves it of every kind.
* `Deezer.search_fans_out_per_kind` — the search runs the four kinds in turn and returns
  their lists, or the first failure among them.

The kinds run in the order artists, albums, tracks, playlists. Which failure a failing
search returns, and that nothing is requested for the kinds after it, are facts about
this order; a concurrent run of the four searches would send them all and might return
another kind's failure.
-/

namespace MusicProviders

theorem MediaType.wanted_iff (mediaTypes : List MediaType) (t : MediaType) :
    MediaType.wanted mediaTypes t = true ↔ mediaTypes = [] ∨ t ∈ mediaTypes := by
  simp [MediaType.wanted]

/-- A search that asks only for kinds that are not searchable wants none of the four. -/
theorem MediaType.wanted_of_unsearchable {mediaTypes : List MediaType} (asked : mediaTypes ≠ [])
    (unsearchable : ∀ t ∈ mediaTypes, t ∉ MediaType.searchable) {t : MediaType}
    (searchable : t ∈ MediaType.searchable) : MediaType.wanted mediaTypes t = false := by
  cases wanted : MediaType.wanted mediaTypes t with
  | false => rfl
  | true =>
    rcases (MediaType.wanted_iff mediaTypes t).1 wanted with empty | named
    · exact absurd empty asked
    · exact absurd searchable (unsearchable t named)

theorem collectOutcomes_filterMap_skipMalformed {α : Type} (parse : Json → Outcome α)
    (malformedOnly : ∀ v e, parse v = .error e → e.IsInvalidData) :
    ∀ values : List Json,
      collectOutcomes (values.filterMap fun v => skipMalformed (parse v)) =
        .ok (values.filterMap fun v => (parse v).toOption)
  | [] => rfl
  | v :: values => by
    have rest := collectOutcomes_filterMap_skipMalformed parse malformedOnly values
    cases mapped : parse v with
    | error e =>
      simp only [List.filterMap_cons, mapped, skipMalformed_of_isInvalidData
        (malformedOnly v e mapped), Except.toOption, rest]
    | ok a =>
      have kept : skipMalformed (Except.ok a : Outcome α) = some (.ok a) := rfl
      simp only [List.filterMap_cons, mapped, kept, Except.toOption, collectOutcomes, rest]
      rfl

theorem length_of_collectOutcomes {α : Type} :
    ∀ {items : List (Outcome α)} {values : List α}, collectOutcomes items = .ok values →
      values.length = items.length
  | [], _, collected => by cases collected; rfl
  | .error _ :: _, _, collected => by cases collected
  | .ok a :: items, values, collected => by
    cases rest : collectOutcomes items with
    | error e =>
      rw [collectOutcomes, rest] at collected
      cases collected
    | ok values' =>
      rw [collectOutcomes, rest] at collected
      cases collected
      simp [length_of_collectOutcomes rest]

namespace Deezer

/-! ## One kind -/

namespace Api

theorem search_run (api : Api) (fuel : Nat) (kind query : String) (limit : Nat)
    (net : Http.Network) (log : List Http.Request) :
    Http.runFrom net log (api.search fuel kind query limit) =
      (collectOutcomes ((((api.searchListing kind query limit).take fuel limit).run net).run log).1,
        ((((api.searchListing kind query limit).take fuel limit).run net).run log).2) := by
  unfold search
  rw [Http.runFrom_bind]
  exact Http.runFrom_lift net _ _

theorem length_search_le (api : Api) (fuel : Nat) (kind query : String) (limit : Nat)
    {net : Http.Network} {log log' : List Http.Request} {values : List Json}
    (found : Http.runFrom net log (api.search fuel kind query limit) = (.ok values, log')) :
    values.length ≤ limit := by
  rw [search_run] at found
  have collected := length_of_collectOutcomes (congrArg Prod.fst found)
  rw [collected]
  exact Pages.length_take_le _ net fuel limit log

end Api

/-- What the search of one kind promises, for its listing and its mapping. When the kind
is not wanted it requests nothing and finds nothing. When it is wanted, along every run of
the reader of the first `limit` results of its listing, it fails as that run did, or
returns those results mapped in order, the malformed ones left out, and it leaves the
run's log. On every network it finds at most `limit` items, and with a limit of zero it
requests nothing and finds nothing. The results it leaves out are those that fail to map,
and they fail only as malformed. -/
structure SearchesFirst {α : Type} (x : Http (List α)) (wanted : Bool) (listing : Pages)
    (parse : Json → Outcome α) (limit fuel : Nat) : Prop where
  unwanted : wanted = false → ∀ net log, Http.runFrom net log x = (.ok [], log)
  along : wanted = true → ∀ net log pages stop log',
    listing.Prefix net limit listing.first log pages stop log' → pages.length < fuel →
      Http.runFrom net log x =
        (match stop with
          | some e => .error e
          | none => .ok (((pages.flatMap Page.items).take limit).filterMap fun v =>
              (parse v).toOption),
          log')
  bounded : ∀ net log xs log', Http.runFrom net log x = (.ok xs, log') → xs.length ≤ limit
  zeroLimit : limit = 0 → ∀ net log, Http.runFrom net log x = (.ok [], log)
  malformedOnly : ∀ v e, parse v = .error e → e.IsInvalidData

namespace Session

theorem search_run {α : Type} (s : Session) (fuel : Nat) (kind query : String) (limit : Nat)
    (parse : Mapper → Json → Outcome α)
    (malformedOnly : ∀ v e, parse s.mapper v = .error e → e.IsInvalidData)
    (net : Http.Network) (log : List Http.Request) :
    Http.runFrom net log (s.search fuel kind query limit parse) =
      match Http.runFrom net log (s.api.search fuel kind query limit) with
      | (.ok values, log') => (.ok (values.filterMap fun v => (parse s.mapper v).toOption), log')
      | (.error e, log') => (.error e, log') := by
  unfold search
  rw [Http.runFrom_bind]
  rcases Http.runFrom net log (s.api.search fuel kind query limit) with ⟨_ | values, log'⟩
  · rfl
  · simp only [Http.runFrom_lift]
    rw [collectOutcomes_filterMap_skipMalformed _ malformedOnly]

theorem searchKind_searchesFirst {α : Type} (s : Session) (fuel : Nat) (wanted : Bool)
    (kind query : String) (limit : Nat) (parse : Mapper → Json → Outcome α)
    (malformedOnly : ∀ v e, parse s.mapper v = .error e → e.IsInvalidData) :
    SearchesFirst (s.searchKind fuel wanted kind query limit parse) wanted
      (s.api.searchListing kind query limit) (parse s.mapper) limit fuel where
  unwanted := by
    rintro rfl net log
    rfl
  along := by
    rintro rfl net log pages stop log' run enough
    rw [searchKind, if_pos rfl, search_run s fuel kind query limit parse malformedOnly,
      Api.search_run, Pages.take_of_prefix run enough, Pages.collectOutcomes_take_delivered run]
    cases stop <;> rfl
  bounded := by
    intro net log xs log' found
    unfold searchKind at found
    split at found
    case isFalse =>
      cases found
      exact Nat.zero_le limit
    case isTrue =>
      rw [search_run s fuel kind query limit parse malformedOnly] at found
      rcases searched : Http.runFrom net log (s.api.search fuel kind query limit) with
        ⟨_ | values, log₁⟩
      · rw [searched] at found
        cases found
      · rw [searched] at found
        cases found
        exact Nat.le_trans (List.length_filterMap_le _ _)
          (Api.length_search_le s.api fuel kind query limit searched)
  zeroLimit := by
    rintro rfl net log
    unfold searchKind
    split
    case isFalse => rfl
    case isTrue =>
      -- the reader of no results wants nothing from the start
      have done : (Reader.upTo 0).wants [] = false := decide_eq_false (Nat.lt_irrefl 0)
      rw [search_run s fuel kind query 0 parse malformedOnly, Api.search_run, Pages.take,
        Pages.read, Pages.readFrom_run_done _ net fuel _ done]
      rfl
  malformedOnly := malformedOnly

end Session

/-! ## The four kinds together -/

namespace Provider

theorem search_run (p : Provider) {s : Session} (hs : p.session = some s) (fuel : Nat)
    (query : String) (mediaTypes : List MediaType) (limit : Nat) (net : Http.Network)
    (log : List Http.Request) :
    Http.runFrom net log (p.search fuel query mediaTypes limit) =
      match Http.runFrom net log (s.searchKind fuel (MediaType.wanted mediaTypes .artist)
          "artist" query limit Mapper.artistFromValue) with
      | (.error e, log₁) => (.error e, log₁)
      | (.ok artists, log₁) =>
        match Http.runFrom net log₁ (s.searchKind fuel (MediaType.wanted mediaTypes .album)
            "album" query limit Mapper.albumFromValue) with
        | (.error e, log₂) => (.error e, log₂)
        | (.ok albums, log₂) =>
          match Http.runFrom net log₂ (s.searchKind fuel (MediaType.wanted mediaTypes .track)
              "track" query limit fun m v => m.trackFromValue v .bare) with
          | (.error e, log₃) => (.error e, log₃)
          | (.ok tracks, log₃) =>
            match Http.runFrom net log₃ (s.searchKind fuel
                (MediaType.wanted mediaTypes .playlist) "playlist" query limit
                Mapper.playlistFromValue) with
            | (.error e, log₄) => (.error e, log₄)
            | (.ok playlists, log₄) => (.ok ⟨artists, albums, tracks, playlists⟩, log₄) := by
  have session : p.session? = .ok s := by rw [session?, hs]
  unfold search
  rw [Http.runFrom_bind, session, Http.runFrom_lift]
  dsimp only
  rw [Http.runFrom_bind]
  rcases Http.runFrom net log (s.searchKind fuel (MediaType.wanted mediaTypes .artist)
    "artist" query limit Mapper.artistFromValue) with ⟨_ | artists, log₁⟩
  · rfl
  dsimp only
  rw [Http.runFrom_bind]
  rcases Http.runFrom net log₁ (s.searchKind fuel (MediaType.wanted mediaTypes .album)
    "album" query limit Mapper.albumFromValue) with ⟨_ | albums, log₂⟩
  · rfl
  dsimp only
  rw [Http.runFrom_bind]
  rcases Http.runFrom net log₂ (s.searchKind fuel (MediaType.wanted mediaTypes .track)
    "track" query limit fun m v => m.trackFromValue v .bare) with ⟨_ | tracks, log₃⟩
  · rfl
  dsimp only
  rw [Http.runFrom_bind]
  rcases Http.runFrom net log₃ (s.searchKind fuel (MediaType.wanted mediaTypes .playlist)
    "playlist" query limit Mapper.playlistFromValue) with ⟨_ | playlists, log₄⟩ <;> rfl

section Parts

variable (p : Provider) {s : Session} (hs : p.session = some s) (fuel : Nat) (query : String)
  (mediaTypes : List MediaType) (limit : Nat) (net : Http.Network)
include hs

/-- A search that succeeds found its four lists one kind after the other. -/
theorem search_parts_of_ok {log log' : List Http.Request} {r : SearchResults}
    (found : Http.runFrom net log (p.search fuel query mediaTypes limit) = (.ok r, log')) :
    ∃ log₁ log₂ log₃,
      Http.runFrom net log (s.searchKind fuel (MediaType.wanted mediaTypes .artist) "artist" query
          limit Mapper.artistFromValue) = (.ok r.artists, log₁) ∧
        Http.runFrom net log₁ (s.searchKind fuel (MediaType.wanted mediaTypes .album) "album"
          query limit Mapper.albumFromValue) = (.ok r.albums, log₂) ∧
        Http.runFrom net log₂ (s.searchKind fuel (MediaType.wanted mediaTypes .track) "track"
          query limit fun m v => m.trackFromValue v .bare) = (.ok r.tracks, log₃) ∧
        Http.runFrom net log₃ (s.searchKind fuel (MediaType.wanted mediaTypes .playlist)
          "playlist" query limit Mapper.playlistFromValue) = (.ok r.playlists, log') := by
  rw [p.search_run hs] at found
  rcases ranArtists : Http.runFrom net log (s.searchKind fuel
    (MediaType.wanted mediaTypes .artist) "artist" query limit Mapper.artistFromValue) with
    ⟨_ | artists, log₁⟩ <;> rw [ranArtists] at found <;> dsimp only at found
  · cases found
  rcases ranAlbums : Http.runFrom net log₁ (s.searchKind fuel
    (MediaType.wanted mediaTypes .album) "album" query limit Mapper.albumFromValue) with
    ⟨_ | albums, log₂⟩ <;> rw [ranAlbums] at found <;> dsimp only at found
  · cases found
  rcases ranTracks : Http.runFrom net log₂ (s.searchKind fuel
    (MediaType.wanted mediaTypes .track) "track" query limit fun m v => m.trackFromValue v .bare)
    with ⟨_ | tracks, log₃⟩ <;> rw [ranTracks] at found <;> dsimp only at found
  · cases found
  rcases ranPlaylists : Http.runFrom net log₃ (s.searchKind fuel
    (MediaType.wanted mediaTypes .playlist) "playlist" query limit Mapper.playlistFromValue) with
    ⟨_ | playlists, log₄⟩ <;> rw [ranPlaylists] at found <;> dsimp only at found
  · cases found
  cases found
  -- the first run was generalized in the goal as well, the later ones sit under binders
  exact ⟨log₁, log₂, log₃, rfl, ranAlbums, ranTracks, ranPlaylists⟩

/-- When no kind finds anything or requests anything, neither does the search. -/
theorem search_of_parts_empty (log : List Http.Request)
    (artists : Http.runFrom net log (s.searchKind fuel (MediaType.wanted mediaTypes .artist)
      "artist" query limit Mapper.artistFromValue) = (.ok [], log))
    (albums : Http.runFrom net log (s.searchKind fuel (MediaType.wanted mediaTypes .album)
      "album" query limit Mapper.albumFromValue) = (.ok [], log))
    (tracks : Http.runFrom net log (s.searchKind fuel (MediaType.wanted mediaTypes .track)
      "track" query limit fun m v => m.trackFromValue v .bare) = (.ok [], log))
    (playlists : Http.runFrom net log (s.searchKind fuel (MediaType.wanted mediaTypes .playlist)
      "playlist" query limit Mapper.playlistFromValue) = (.ok [], log)) :
    Http.runFrom net log (p.search fuel query mediaTypes limit) = (.ok ⟨[], [], [], []⟩, log) := by
  rw [p.search_run hs, artists]
  dsimp only
  rw [albums]
  dsimp only
  rw [tracks]
  dsimp only
  rw [playlists]

end Parts

end Provider

/-- Searching each of the four kinds keeps the promise of `SearchesFirst` for the kind's
own listing and mapper. -/
theorem Session.searchKinds_searchFirst (s : Session) (fuel : Nat) (query : String)
    (mediaTypes : List MediaType) (limit : Nat) :
    SearchesFirst (s.searchKind fuel (MediaType.wanted mediaTypes .artist) "artist" query limit
        Mapper.artistFromValue) (MediaType.wanted mediaTypes .artist)
        (s.api.searchListing "artist" query limit) s.mapper.artistFromValue limit fuel ∧
      SearchesFirst (s.searchKind fuel (MediaType.wanted mediaTypes .album) "album" query limit
        Mapper.albumFromValue) (MediaType.wanted mediaTypes .album)
        (s.api.searchListing "album" query limit) s.mapper.albumFromValue limit fuel ∧
      SearchesFirst (s.searchKind fuel (MediaType.wanted mediaTypes .track) "track" query limit
        fun m v => m.trackFromValue v .bare) (MediaType.wanted mediaTypes .track)
        (s.api.searchListing "track" query limit) (fun v => s.mapper.trackFromValue v .bare)
        limit fuel ∧
      SearchesFirst (s.searchKind fuel (MediaType.wanted mediaTypes .playlist) "playlist" query
        limit Mapper.playlistFromValue) (MediaType.wanted mediaTypes .playlist)
        (s.api.searchListing "playlist" query limit) s.mapper.playlistFromValue limit fuel :=
  ⟨s.searchKind_searchesFirst _ _ _ _ _ _ s.mapper.artistFromValue_kind,
    s.searchKind_searchesFirst _ _ _ _ _ _ s.mapper.albumFromValue_kind,
    s.searchKind_searchesFirst _ _ _ _ _ (fun m v => m.trackFromValue v .bare)
      fun v => s.mapper.trackFromValue_kind v .bare,
    s.searchKind_searchesFirst _ _ _ _ _ _ s.mapper.playlistFromValue_kind⟩

/-- The Deezer search fans out per kind. A kind is wanted when the list of media types is
empty or names it. Each kind keeps the promise of `SearchesFirst` for its own listing: an
unwanted kind requests nothing and finds nothing; a wanted one reads the first `limit`
results of its listing, requesting a next page only while it has fewer and nothing when
`limit` is zero, and returns them mapped in order with the malformed ones skipped, or the
failure of its listing within those results. The search runs the kinds in turn, each from
the log the one before left, and returns the four lists when every kind succeeds, and
otherwise the failure of the first kind that fails, requesting nothing more. So each list
holds at most `limit` items, and a search for no searchable kind, or for no result at all,
finds four empty lists and requests nothing. -/
theorem search_fans_out_per_kind (p : Provider) (s : Session) (hs : p.session = some s)
    (fuel : Nat) (query : String) (mediaTypes : List MediaType) (limit : Nat) :
    (∀ t, MediaType.wanted mediaTypes t = true ↔ mediaTypes = [] ∨ t ∈ mediaTypes) ∧
    (SearchesFirst (s.searchKind fuel (MediaType.wanted mediaTypes .artist) "artist" query limit
        Mapper.artistFromValue) (MediaType.wanted mediaTypes .artist)
        (s.api.searchListing "artist" query limit) s.mapper.artistFromValue limit fuel ∧
      SearchesFirst (s.searchKind fuel (MediaType.wanted mediaTypes .album) "album" query limit
        Mapper.albumFromValue) (MediaType.wanted mediaTypes .album)
        (s.api.searchListing "album" query limit) s.mapper.albumFromValue limit fuel ∧
      SearchesFirst (s.searchKind fuel (MediaType.wanted mediaTypes .track) "track" query limit
        fun m v => m.trackFromValue v .bare) (MediaType.wanted mediaTypes .track)
        (s.api.searchListing "track" query limit) (fun v => s.mapper.trackFromValue v .bare)
        limit fuel ∧
      SearchesFirst (s.searchKind fuel (MediaType.wanted mediaTypes .playlist) "playlist" query
        limit Mapper.playlistFromValue) (MediaType.wanted mediaTypes .playlist)
        (s.api.searchListing "playlist" query limit) s.mapper.playlistFromValue limit fuel) ∧
    (∀ net log, Http.runFrom net log (p.search fuel query mediaTypes limit) =
      match Http.runFrom net log (s.searchKind fuel (MediaType.wanted mediaTypes .artist)
          "artist" query limit Mapper.artistFromValue) with
      | (.error e, log₁) => (.error e, log₁)
      | (.ok artists, log₁) =>
        match Http.runFrom net log₁ (s.searchKind fuel (MediaType.wanted mediaTypes .album)
            "album" query limit Mapper.albumFromValue) with
        | (.error e, log₂) => (.error e, log₂)
        | (.ok albums, log₂) =>
          match Http.runFrom net log₂ (s.searchKind fuel (MediaType.wanted mediaTypes .track)
              "track" query limit fun m v => m.trackFromValue v .bare) with
          | (.error e, log₃) => (.error e, log₃)
          | (.ok tracks, log₃) =>
            match Http.runFrom net log₃ (s.searchKind fuel
                (MediaType.wanted mediaTypes .playlist) "playlist" query limit
                Mapper.playlistFromValue) with
            | (.error e, log₄) => (.error e, log₄)
            | (.ok playlists, log₄) => (.ok ⟨artists, albums, tracks, playlists⟩, log₄)) ∧
    (∀ net log r log', Http.runFrom net log (p.search fuel query mediaTypes limit) = (.ok r, log') →
      r.artists.length ≤ limit ∧ r.albums.length ≤ limit ∧ r.tracks.length ≤ limit ∧
        r.playlists.length ≤ limit) ∧
    (limit = 0 ∨ (mediaTypes ≠ [] ∧ ∀ t ∈ mediaTypes, t ∉ MediaType.searchable) →
      ∀ net log, Http.runFrom net log (p.search fuel query mediaTypes limit) =
        (.ok ⟨[], [], [], []⟩, log)) := by
  obtain ⟨artists, albums, tracks, playlists⟩ :=
    s.searchKinds_searchFirst fuel query mediaTypes limit
  refine ⟨MediaType.wanted_iff mediaTypes, ⟨artists, albums, tracks, playlists⟩,
    p.search_run hs fuel query mediaTypes limit, ?bounded, ?nothing⟩
  case bounded =>
    intro net log r log' found
    obtain ⟨log₁, log₂, log₃, foundArtists, foundAlbums, foundTracks, foundPlaylists⟩ :=
      p.search_parts_of_ok hs fuel query mediaTypes limit net found
    exact ⟨artists.bounded _ _ _ _ foundArtists, albums.bounded _ _ _ _ foundAlbums,
      tracks.bounded _ _ _ _ foundTracks, playlists.bounded _ _ _ _ foundPlaylists⟩
  case nothing =>
    rintro (zero | ⟨asked, unsearchable⟩) net log
    · exact p.search_of_parts_empty hs fuel query mediaTypes limit net log
        (artists.zeroLimit zero net log) (albums.zeroLimit zero net log)
        (tracks.zeroLimit zero net log) (playlists.zeroLimit zero net log)
    · -- none of the four kinds is wanted
      have unwanted : ∀ t ∈ MediaType.searchable, MediaType.wanted mediaTypes t = false :=
        fun t => MediaType.wanted_of_unsearchable asked unsearchable
      exact p.search_of_parts_empty hs fuel query mediaTypes limit net log
        (artists.unwanted (unwanted _ (by decide)) net log)
        (albums.unwanted (unwanted _ (by decide)) net log)
        (tracks.unwanted (unwanted _ (by decide)) net log)
        (playlists.unwanted (unwanted _ (by decide)) net log)

/-! ## A search for artists and playlists -/

/-- Deezer's answers to searches for "daft" three results at a time: the artists on
pages of two, Daft Punk and an artist without id on the first, Justice and Air on the
second, which links to a third that is never answered; one playlist. -/
def searchDaftNet : Http.Network :=
  ⟨fun _ r =>
    if r.url = "https://api.deezer.com/search/artist?q=daft&limit=3&access_token=secret" then
      some ⟨200, Bytes.ofString ("\x7b\"data\":[\x7b\"id\":27,\"name\":\"Daft Punk\"\x7d,\x7b\"name\":\"?\"\x7d]," ++
        "\"next\":\"https://api.deezer.com/search/artist?q=daft&limit=3&index=2\"\x7d")⟩
    else if r.url =
        "https://api.deezer.com/search/artist?q=daft&limit=3&index=2&access_token=secret" then
      some ⟨200, Bytes.ofString ("\x7b\"data\":[\x7b\"id\":13,\"name\":\"Justice\"\x7d,\x7b\"id\":14," ++
        "\"name\":\"Air\"\x7d],\"next\":\"https://api.deezer.com/search/artist?q=daft&limit=3&index=4\"\x7d")⟩
    else if r.url = "https://api.deezer.com/search/playlist?q=daft&limit=3&access_token=secret" then
      some ⟨200, Bytes.ofString "\x7b\"data\":[\x7b\"id\":5,\"title\":\"Mix\"\x7d]\x7d"⟩
    else none⟩

/-- A search for the artists and playlists of "daft", three of each at most. The artists
are read up to the third result: the second page is requested, the third is not, Air
comes too late and the artist without id is left out. The playlists come from one page,
and albums and tracks are not asked for. -/
theorem search_fans_out_reads_first_results :
    (libraryDeezerSession.api.searchListing "artist" "daft" 3).Prefix searchDaftNet 3
      (libraryDeezerSession.api.searchListing "artist" "daft" 3).first []
      [⟨[Json.object [("id", Json.int 27), ("name", Json.string "Daft Punk")],
          Json.object [("name", Json.string "?")]],
        some "https://api.deezer.com/search/artist?q=daft&limit=3&index=2"⟩,
       ⟨[Json.object [("id", Json.int 13), ("name", Json.string "Justice")],
          Json.object [("id", Json.int 14), ("name", Json.string "Air")]],
        some "https://api.deezer.com/search/artist?q=daft&limit=3&index=4"⟩] none
      [Http.Request.plain .get
           "https://api.deezer.com/search/artist?q=daft&limit=3&access_token=secret",
       Http.Request.plain .get
           "https://api.deezer.com/search/artist?q=daft&limit=3&index=2&access_token=secret"] ∧
    Http.runFrom searchDaftNet []
        ((Provider.mk default (some libraryDeezerSession)).search 5 "daft" [.artist, .playlist] 3) =
      (.ok ⟨[{ Artist.new "27" "deezer" "Daft Punk" with
                providerMappings := [libraryDeezerSession.mapper.mapping "27" none] },
              { Artist.new "13" "deezer" "Justice" with
                providerMappings := [libraryDeezerSession.mapper.mapping "13" none] }],
            [], [],
            [{ Playlist.new "5" "deezer" "Mix" with
                providerMappings := [libraryDeezerSession.mapper.mapping "5" none] }]⟩,
        [Http.Request.plain .get
             "https://api.deezer.com/search/artist?q=daft&limit=3&access_token=secret",
         Http.Request.plain .get
             "https://api.deezer.com/search/artist?q=daft&limit=3&index=2&access_token=secret",
         Http.Request.plain .get
             "https://api.deezer.com/search/playlist?q=daft&limit=3&access_token=secret"]) := by
  have first : Http.runFrom searchDaftNet []
      ((libraryDeezerSession.api.searchListing "artist" "daft" 3).fetch
        (libraryDeezerSession.api.searchListing "artist" "daft" 3).first) =
      (.ok ⟨[Json.object [("id", Json.int 27), ("name", Json.string "Daft Punk")],
          Json.object [("name", Json.string "?")]],
        some "https://api.deezer.com/search/artist?q=daft&limit=3&index=2"⟩,
       [Http.Request.plain .get
            "https://api.deezer.com/search/artist?q=daft&limit=3&access_token=secret"]) := by
    decide +kernel
  have second : Http.runFrom searchDaftNet
      [Http.Request.plain .get "https://api.deezer.com/search/artist?q=daft&limit=3&access_token=secret"]
      ((libraryDeezerSession.api.searchListing "artist" "daft" 3).fetch
        ⟨"https://api.deezer.com/search/artist?q=daft&limit=3&index=2", []⟩) =
      (.ok ⟨[Json.object [("id", Json.int 13), ("name", Json.string "Justice")],
          Json.object [("id", Json.int 14), ("name", Json.string "Air")]],
        some "https://api.deezer.com/search/artist?q=daft&limit=3&index=4"⟩,
       [Http.Request.plain .get
            "https://api.deezer.com/search/artist?q=daft&limit=3&access_token=secret",
        Http.Request.plain .get
            "https://api.deezer.com/search/artist?q=daft&limit=3&index=2&access_token=secret"]) := by
    decide +kernel
  have playlistPage : Http.runFrom searchDaftNet
      [Http.Request.plain .get "https://api.deezer.com/search/artist?q=daft&limit=3&access_token=secret",
        Http.Request.plain .get
            "https://api.deezer.com/search/artist?q=daft&limit=3&index=2&access_token=secret"]
      ((libraryDeezerSession.api.searchListing "playlist" "daft" 3).fetch
        (libraryDeezerSession.api.searchListing "playlist" "daft" 3).first) =
      (.ok ⟨[Json.object [("id", Json.int 5), ("title", Json.string "Mix")]], none⟩,
       [Http.Request.plain .get
            "https://api.deezer.com/search/artist?q=daft&limit=3&access_token=secret",
        Http.Request.plain .get
            "https://api.deezer.com/search/artist?q=daft&limit=3&index=2&access_token=secret",
        Http.Request.plain .get
            "https://api.deezer.com/search/playlist?q=daft&limit=3&access_token=secret"]) := by
    decide +kernel
  -- two results of the first page leave one wanted from the second, and none after it
  have artistRun : (libraryDeezerSession.api.searchListing "artist" "daft" 3).Prefix searchDaftNet 3
      (libraryDeezerSession.api.searchListing "artist" "daft" 3).first [] _ none _ :=
    .next first rfl (.next (n := 0) second rfl .enough)
  have playlistRun := Pages.Prefix.last (n := 2) playlistPage rfl
  obtain ⟨-, ⟨artists, albums, tracks, playlists⟩, inTurn, -, -⟩ :=
    search_fans_out_per_kind (Provider.mk default (some libraryDeezerSession)) libraryDeezerSession
      rfl 5 "daft" [.artist, .playlist] 3
  refine ⟨artistRun, ?_⟩
  rw [inTurn, artists.along (by decide) _ _ _ _ _ artistRun (by decide)]
  dsimp only
  rw [albums.unwanted (by decide)]
  dsimp only
  rw [tracks.unwanted (by decide)]
  dsimp only
  rw [playlists.along (by decide) _ _ _ _ _ playlistRun (by decide)]
  show (_ : Outcome SearchResults × List Http.Request) = _
  decide +kernel

end Deezer

end MusicProviders
