import MusicProviders.Proofs.Paging.Chain
import MusicProviders.Deezer.Provider
import MusicProviders.Soundcloud.Provider

/-! # Library listings lose and repeat nothing

The library listings of both vendors read a paged listing to its end and map it item by
item. Along every chain of answers they return the mapped elements of every page, in
order, leaving out exactly those whose mapping fails as invalid data; the failure of a
page request comes once, last. Such a failure is never invalid data, so it is never
filtered out. An instance that is not set up lists one rejected login.
-/

namespace MusicProviders

namespace Deezer.Provider

theorem listing_of_session {α : Type} (p : Provider) {s : Session} (hs : p.session = some s)
    (k : Session → Exchange (List (Outcome α))) : p.listing k = k s := by
  unfold listing session?
  rw [hs]

theorem listing_without_session {α : Type} (p : Provider) (hs : p.session = none)
    (k : Session → Exchange (List (Outcome α))) :
    p.listing k = failedListing (.loginFailed "Deezer provider is not set up") := by
  unfold listing session?
  rw [hs]

theorem libraryListing_lists (p : Provider) {s : Session} (hs : p.session = some s) (fuel : Nat)
    (kind : String) {α : Type} (parse : Mapper → Json → Outcome α) :
    Pages.ListsPages (p.libraryListing fuel kind parse) (s.api.pages ("user/me/" ++ kind) [])
      (parse s.mapper) fuel := by
  unfold libraryListing
  rw [p.listing_of_session hs]
  exact Pages.listsPages_of_fetch _ fuel (Api.pages_fetch_failsOnly s.api _ [])

theorem libraryListing_without_session (p : Provider) (hs : p.session = none) (fuel : Nat)
    (kind : String) {α : Type} (parse : Mapper → Json → Outcome α) (net : Http.Network)
    (log : List Http.Request) :
    ((p.libraryListing fuel kind parse).run net).run log =
      ([.error (.loginFailed "Deezer provider is not set up")], log) := by
  unfold libraryListing
  rw [p.listing_without_session hs]
  rfl

end Deezer.Provider

namespace Soundcloud.Provider

theorem listing_of_session {α : Type} (p : Provider) {s : Session} (hs : p.session = some s)
    (k : Session → Exchange (List (Outcome α))) : p.listing k = k s := by
  unfold listing session?
  rw [hs]

theorem listing_without_session {α : Type} (p : Provider) (hs : p.session = none)
    (k : Session → Exchange (List (Outcome α))) :
    p.listing k = failedListing (.loginFailed "SoundCloud provider is not set up") := by
  unfold listing session?
  rw [hs]

theorem libraryArtists_lists (p : Provider) {s : Session} (hs : p.session = some s) (fuel : Nat) :
    Pages.ListsPages (p.operations fuel).libraryArtists (s.api.following s.userId)
      s.mapper.artistFromValue fuel := by
  unfold operations
  rw [p.listing_of_session hs]
  exact Pages.listsPages_of_fetch _ fuel (Api.pages_fetch_failsOnly s.api _ _)

theorem libraryArtists_without_session (p : Provider) (hs : p.session = none) (fuel : Nat)
    (net : Http.Network) (log : List Http.Request) :
    (((p.operations fuel).libraryArtists).run net).run log =
      ([.error (.loginFailed "SoundCloud provider is not set up")], log) := by
  unfold operations
  rw [p.listing_without_session hs]
  rfl

end Soundcloud.Provider

/-- The library listings of both vendors read their pages to the end, in order, and lose
and repeat nothing: every chain of answers gives the mapped elements, those malformed
left out, then the failure that ended the chain; the page requests never fail as invalid
data; an instance that is not set up lists one rejected login. -/
theorem libraryListings_follow_pages :
    (∀ (p : Deezer.Provider) (s : Deezer.Session), p.session = some s →
      ∀ (fuel : Nat) (stamp : Deezer.PlaybackStamp),
        Pages.ListsPages (p.operations fuel stamp).libraryArtists
            (s.api.pages "user/me/artists" []) s.mapper.artistFromValue fuel ∧
          Pages.ListsPages (p.operations fuel stamp).libraryAlbums
            (s.api.pages "user/me/albums" []) s.mapper.albumFromValue fuel ∧
          Pages.ListsPages (p.operations fuel stamp).libraryTracks
            (s.api.pages "user/me/tracks" []) (fun v => s.mapper.trackFromValue v .bare) fuel ∧
          Pages.ListsPages (p.operations fuel stamp).libraryPlaylists
            (s.api.pages "user/me/playlists" []) s.mapper.playlistFromValue fuel) ∧
    (∀ (p : Soundcloud.Provider) (s : Soundcloud.Session), p.session = some s → ∀ fuel : Nat,
      Pages.ListsPages (p.operations fuel).libraryArtists (s.api.following s.userId)
        s.mapper.artistFromValue fuel) ∧
    (∀ (api : Deezer.Api) (path : String) (params : List (String × String)) (req : PageRequest),
      Http.FailsOnly ProviderError.IsExchangeFailure ((api.pages path params).fetch req)) ∧
    (∀ (api : Soundcloud.Api) (path : String) (params : List (String × String))
        (req : PageRequest),
      Http.FailsOnly ProviderError.IsExchangeFailure ((api.pages path params).fetch req)) ∧
    (∀ p : Deezer.Provider, p.session = none →
      ∀ (fuel : Nat) (stamp : Deezer.PlaybackStamp) (net : Http.Network)
        (log : List Http.Request),
        (((p.operations fuel stamp).libraryArtists).run net).run log =
            ([.error (.loginFailed "Deezer provider is not set up")], log) ∧
          (((p.operations fuel stamp).libraryAlbums).run net).run log =
            ([.error (.loginFailed "Deezer provider is not set up")], log) ∧
          (((p.operations fuel stamp).libraryTracks).run net).run log =
            ([.error (.loginFailed "Deezer provider is not set up")], log) ∧
          (((p.operations fuel stamp).libraryPlaylists).run net).run log =
            ([.error (.loginFailed "Deezer provider is not set up")], log)) ∧
    (∀ p : Soundcloud.Provider, p.session = none →
      ∀ (fuel : Nat) (net : Http.Network) (log : List Http.Request),
        (((p.operations fuel).libraryArtists).run net).run log =
          ([.error (.loginFailed "SoundCloud provider is not set up")], log)) := by
  refine ⟨?deezer, ?soundcloud, Deezer.Api.pages_fetch_failsOnly,
    Soundcloud.Api.pages_fetch_failsOnly, ?deezerUnset, ?soundcloudUnset⟩
  case deezer =>
    intro p s hs fuel stamp
    exact ⟨p.libraryListing_lists hs fuel "artists" _, p.libraryListing_lists hs fuel "albums" _,
      p.libraryListing_lists hs fuel "tracks" fun m v => m.trackFromValue v .bare,
      p.libraryListing_lists hs fuel "playlists" _⟩
  case soundcloud =>
    intro p s hs fuel
    exact p.libraryArtists_lists hs fuel
  case deezerUnset =>
    intro p hs fuel stamp net log
    exact ⟨p.libraryListing_without_session hs fuel "artists" _ net log,
      p.libraryListing_without_session hs fuel "albums" _ net log,
      p.libraryListing_without_session hs fuel "tracks" (fun m v => m.trackFromValue v .bare) net
        log,
      p.libraryListing_without_session hs fuel "playlists" _ net log⟩
  case soundcloudUnset =>
    intro p hs fuel net log
    exact p.libraryArtists_without_session hs fuel net log

/-! ## Two libraries read page by page -/

/-- A Deezer session of user 5 on the API's own host. -/
def libraryDeezerSession : Deezer.Session :=
  ⟨Deezer.Api.new "secret", default, ⟨"deezer", "deezer--1", some 5, none⟩⟩

/-- Deezer's answers for a library of artists on two pages: Daft Punk and an artist
without id on the first, which links to the second, where Justice is. -/
def deezerArtistsNet : Http.Network :=
  ⟨fun _ r =>
    if r.url = "https://api.deezer.com/user/me/artists?access_token=secret" then
      some ⟨200, Bytes.ofString ("\x7b\"data\":[\x7b\"id\":27,\"name\":\"Daft Punk\"\x7d,\x7b\"name\":\"?\"\x7d]," ++
        "\"next\":\"https://api.deezer.com/user/me/artists?access_token=secret&index=2\"\x7d")⟩
    else if r.url = "https://api.deezer.com/user/me/artists?access_token=secret&index=2" then
      some ⟨200, Bytes.ofString "\x7b\"data\":[\x7b\"id\":13,\"name\":\"Justice\"\x7d]\x7d"⟩
    else none⟩

/-- A SoundCloud session of user 7 on the API's own host. -/
def librarySoundcloudSession : Soundcloud.Session :=
  ⟨Soundcloud.Api.new "cid" "OAuth tok", ⟨"soundcloud", "soundcloud--1"⟩, "7"⟩

/-- SoundCloud's answers for the followings of user 7: a first page with one user, which
links to a second page that cannot be reached. -/
def soundcloudFollowingsNet : Http.Network :=
  ⟨fun _ r =>
    if r.url = "https://api-v2.soundcloud.com/users/7/followings?limit=50&client_id=cid" then
      some ⟨200, Bytes.ofString ("\x7b\"collection\":[\x7b\"id\":11,\"username\":\"ana\"\x7d]," ++
        "\"next_href\":\"https://api-v2.soundcloud.com/users/7/followings?cursor=2&client_id=cid\"\x7d")⟩
    else none⟩

/-- Deezer's library of artists is read along its two pages: the artist without id is left
out and the others come in page order, one request per page. SoundCloud's followings give
the user of the first page and then, once, the failure of the request for the second. -/
theorem libraryListings_read_pages :
    (Deezer.Provider.mk default (some libraryDeezerSession)).session = some libraryDeezerSession ∧
    (libraryDeezerSession.api.pages "user/me/artists" []).Chain deezerArtistsNet
      (libraryDeezerSession.api.pages "user/me/artists" []).first []
      [⟨[Json.object [("id", Json.int 27), ("name", Json.string "Daft Punk")],
          Json.object [("name", Json.string "?")]],
        some "https://api.deezer.com/user/me/artists?access_token=secret&index=2"⟩,
       ⟨[Json.object [("id", Json.int 13), ("name", Json.string "Justice")]], none⟩] none
      [Http.Request.plain .get "https://api.deezer.com/user/me/artists?access_token=secret",
       Http.Request.plain .get
           "https://api.deezer.com/user/me/artists?access_token=secret&index=2"] ∧
    ((((Deezer.Provider.mk default (some libraryDeezerSession)).operations 3 default).libraryArtists).run
        deezerArtistsNet).run [] =
      ([libraryDeezerSession.mapper.artistFromValue
          (Json.object [("id", Json.int 27), ("name", Json.string "Daft Punk")]),
        libraryDeezerSession.mapper.artistFromValue
          (Json.object [("id", Json.int 13), ("name", Json.string "Justice")])],
       [Http.Request.plain .get "https://api.deezer.com/user/me/artists?access_token=secret",
        Http.Request.plain .get
            "https://api.deezer.com/user/me/artists?access_token=secret&index=2"]) ∧
    (Soundcloud.Provider.mk default (some librarySoundcloudSession)).session =
      some librarySoundcloudSession ∧
    (librarySoundcloudSession.api.following librarySoundcloudSession.userId).Chain
      soundcloudFollowingsNet (librarySoundcloudSession.api.following librarySoundcloudSession.userId).first
      [] [⟨[Json.object [("id", Json.int 11), ("username", Json.string "ana")]],
        some "https://api-v2.soundcloud.com/users/7/followings?cursor=2&client_id=cid"⟩]
      (some (.request ("error sending request for url " ++
        "(https://api-v2.soundcloud.com/users/7/followings?cursor=2&client_id=cid)")))
      [(Http.Request.plain .get
            "https://api-v2.soundcloud.com/users/7/followings?limit=50&client_id=cid").withHeader
        "authorization" "OAuth tok"] ∧
    ((((Soundcloud.Provider.mk default (some librarySoundcloudSession)).operations 3).libraryArtists).run
        soundcloudFollowingsNet).run [] =
      ([librarySoundcloudSession.mapper.artistFromValue
          (Json.object [("id", Json.int 11), ("username", Json.string "ana")]),
        .error (.request ("error sending request for url " ++
          "(https://api-v2.soundcloud.com/users/7/followings?cursor=2&client_id=cid)"))],
       [(Http.Request.plain .get
             "https://api-v2.soundcloud.com/users/7/followings?limit=50&client_id=cid").withHeader
        "authorization" "OAuth tok"]) := by
  -- each page request of the two chains, run on its network
  have deezerFirst : Http.runFrom deezerArtistsNet []
      ((libraryDeezerSession.api.pages "user/me/artists" []).fetch
        (libraryDeezerSession.api.pages "user/me/artists" []).first) =
      (.ok ⟨[Json.object [("id", Json.int 27), ("name", Json.string "Daft Punk")],
          Json.object [("name", Json.string "?")]],
        some "https://api.deezer.com/user/me/artists?access_token=secret&index=2"⟩,
       [Http.Request.plain .get "https://api.deezer.com/user/me/artists?access_token=secret"]) := by
    decide +kernel
  have deezerSecond : Http.runFrom deezerArtistsNet
      [Http.Request.plain .get "https://api.deezer.com/user/me/artists?access_token=secret"]
      ((libraryDeezerSession.api.pages "user/me/artists" []).fetch
        ⟨"https://api.deezer.com/user/me/artists?access_token=secret&index=2", []⟩) =
      (.ok ⟨[Json.object [("id", Json.int 13), ("name", Json.string "Justice")]], none⟩,
       [Http.Request.plain .get "https://api.deezer.com/user/me/artists?access_token=secret",
        Http.Request.plain .get
            "https://api.deezer.com/user/me/artists?access_token=secret&index=2"]) := by
    decide +kernel
  have soundcloudFirst : Http.runFrom soundcloudFollowingsNet []
      ((librarySoundcloudSession.api.following librarySoundcloudSession.userId).fetch
        (librarySoundcloudSession.api.following librarySoundcloudSession.userId).first) =
      (.ok ⟨[Json.object [("id", Json.int 11), ("username", Json.string "ana")]],
        some "https://api-v2.soundcloud.com/users/7/followings?cursor=2&client_id=cid"⟩,
       [(Http.Request.plain .get
             "https://api-v2.soundcloud.com/users/7/followings?limit=50&client_id=cid").withHeader
        "authorization" "OAuth tok"]) := by
    decide +kernel
  have soundcloudSecond : Http.runFrom soundcloudFollowingsNet
      [(Http.Request.plain .get
            "https://api-v2.soundcloud.com/users/7/followings?limit=50&client_id=cid").withHeader
        "authorization" "OAuth tok"]
      ((librarySoundcloudSession.api.following librarySoundcloudSession.userId).fetch
        ⟨"https://api-v2.soundcloud.com/users/7/followings?cursor=2&client_id=cid", []⟩) =
      (.error (.request ("error sending request for url " ++
        "(https://api-v2.soundcloud.com/users/7/followings?cursor=2&client_id=cid)")),
       [(Http.Request.plain .get
             "https://api-v2.soundcloud.com/users/7/followings?limit=50&client_id=cid").withHeader
        "authorization" "OAuth tok"]) := by
    decide +kernel
  have deezerChain := Pages.Chain.next deezerFirst rfl (.last deezerSecond rfl)
  have soundcloudChain := Pages.Chain.next soundcloudFirst rfl (.fails soundcloudSecond)
  refine ⟨rfl, deezerChain, ?_, rfl, soundcloudChain, ?_⟩
  · rw [(libraryListings_follow_pages.1 _ libraryDeezerSession rfl 3 default).1 _ _ _ _ _
      deezerChain (by decide)]
    -- what is left is mapping the three elements
    show (_ : List (Outcome Artist) × List Http.Request) = _
    decide +kernel
  · rw [libraryListings_follow_pages.2.1 _ librarySoundcloudSession rfl 3 _ _ _ _ _
      soundcloudChain (by decide)]
    show (_ : List (Outcome Artist) × List Http.Request) = _
    decide +kernel

end MusicProviders
