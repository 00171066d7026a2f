import MusicProviders.Proofs.Paging.Entries
import MusicProviders.Proofs.Mapping.Anchoring
import Mathlib

/-! # Track positions count raw entries

The tracks of a playlist, and of a Deezer album, are numbered by the raw entries of their
listing: the entry at index `i` is mapped at position `i + 1` before anything is filtered
out. An entry skipped as malformed, or the failure that ends a Deezer listing, still takes
its number, and the tracks after it keep theirs. Positions are 32-bit numbers, so this
holds for every listing of fewer than `2 ^ 32 - 1` entries.

* `PlacedInOrder` — tracks sit at strictly increasing places between 1 and `n`;
  `placedInOrder_of_indexed` derives it from the place of each raw entry's outcome.
* `placedTracks` — the outcomes of mapping raw entries, entry `i` at place `i + 1`, the
  malformed ones left out.
* A mapped track carries the position it was mapped at (`trackFromValue_position`,
  `Session.trackById_position`, through `Http.SucceedsOnly`).
* `Deezer.Provider.playlistTracks_places`, `Deezer.Provider.albumTracks_places`,
  `Soundcloud.Provider.playlistTracks_places` — the three listings, and
  `playlistPositions_count_raw_entries` for all three.
-/

namespace MusicProviders

/-! ## Places of the tracks yielded -/

/-- Tracks at strictly increasing places among the first `n`: read in order, their
positions are `place k` for rising `k`, each between 1 and `n`. -/
def PlacedInOrder (place : Nat → TrackPosition) (n : Nat) (tracks : List Track) : Prop :=
  ∃ ks : List Nat, tracks.map Track.position = ks.map place ∧ ks.Pairwise (· < ·) ∧
    ∀ k ∈ ks, 1 ≤ k ∧ k ≤ n

/-- The outcomes of mapping raw entries in order, entry `i` at place `i + 1`, those that
fail as invalid data left out. -/
def placedTracks (place : Nat → TrackPosition) (map : Json → TrackPosition → Outcome Track)
    (entries : List Json) : List (Outcome Track) :=
  (entries.mapIdx fun i v => map v (place (i + 1))).filterMap skipMalformed

section Places

variable (place : Nat → TrackPosition)

/-- Outcomes whose track at index `i` sits at `place (start + i + 1)` yield their tracks at
strictly increasing places after `start`. The induction is on the outcomes; the start moves
one place with each. -/
theorem placedInOrder_of_indexed :
    ∀ (outs : List (Outcome Track)) (start : Nat),
      (∀ i t, outs[i]? = some (.ok t) → t.position = place (start + i + 1)) →
        ∃ ks : List Nat, (outs.filterMap Except.toOption).map Track.position = ks.map place ∧
          ks.Pairwise (· < ·) ∧ ∀ k ∈ ks, start < k ∧ k ≤ start + outs.length
  | [], _, _ => ⟨[], rfl, List.Pairwise.nil, fun _ absent => absurd absent List.not_mem_nil⟩
  | out :: outs, start, placed => by
    have later : ∀ i t, outs[i]? = some (.ok t) → t.position = place (start + 1 + i + 1) := by
      intro i t found
      rw [placed (i + 1) t (by rw [List.getElem?_cons_succ]; exact found)]
      congr 1
      omega
    obtain ⟨ks, positions, increasing, bounded⟩ := placedInOrder_of_indexed outs (start + 1) later
    cases out with
    | error e =>
      refine ⟨ks, positions, increasing, fun k member => ?_⟩
      have within := bounded k member
      rw [List.length_cons]
      omega
    | ok t =>
      have here : t.position = place (start + 1) := placed 0 t rfl
      refine ⟨(start + 1) :: ks, ?_, ?_, ?_⟩
      · simp only [List.filterMap_cons, Except.toOption, List.map_cons, here, positions]
      · exact List.pairwise_cons.2 ⟨fun k member => (bounded k member).1, increasing⟩
      · intro k member
        rw [List.length_cons]
        rcases List.mem_cons.1 member with rfl | member
        · omega
        · have within := bounded k member
          omega

theorem placedInOrder_of_outcomes (outs : List (Outcome Track))
    (placed : ∀ i t, outs[i]? = some (.ok t) → t.position = place (i + 1)) :
    PlacedInOrder place outs.length (outs.filterMap Except.toOption) := by
  obtain ⟨ks, positions, increasing, bounded⟩ :=
    placedInOrder_of_indexed place outs 0 fun i t found => by rw [placed i t found, Nat.zero_add]
  exact ⟨ks, positions, increasing, fun k member => by have := bounded k member; omega⟩

theorem PlacedInOrder.mono {n m : Nat} {tracks : List Track} (placed : PlacedInOrder place n tracks)
    (le : n ≤ m) : PlacedInOrder place m tracks := by
  obtain ⟨ks, positions, increasing, bounded⟩ := placed
  exact ⟨ks, positions, increasing, fun k member => by have := bounded k member; omega⟩

theorem PlacedInOrder.nil (n : Nat) : PlacedInOrder place n [] :=
  ⟨[], rfl, List.Pairwise.nil, fun _ absent => absurd absent List.not_mem_nil⟩

/-- Leaving out the malformed outcomes leaves the same tracks. -/
theorem filterMap_toOption_skipMalformed (outs : List (Outcome Track)) :
    (outs.filterMap skipMalformed).filterMap Except.toOption = outs.filterMap Except.toOption := by
  rw [List.filterMap_filterMap]
  congr 1
  funext out
  cases out with
  | ok t => rfl
  | error e => cases e <;> rfl

theorem filterMap_toOption_append_failure (outs : List (Outcome Track))
    (stop : Option ProviderError) :
    (outs ++ (stop.map Except.error).toList).filterMap Except.toOption =
      outs.filterMap Except.toOption := by
  cases stop <;> simp [Except.toOption]

/-- The values that all of a list of outcomes have are its successes, in order. -/
theorem filterMap_toOption_of_collectOutcomes {α : Type} :
    ∀ {outs : List (Outcome α)} {xs : List α},
      collectOutcomes outs = .ok xs → outs.filterMap Except.toOption = xs
  | [], _, collected => by
    cases collected
    rfl
  | .error _ :: _, _, collected => by cases collected
  | .ok a :: outs, xs, collected => by
    cases rest : collectOutcomes outs with
    | error e => simp [collectOutcomes, rest, Except.map] at collected
    | ok ys =>
      simp only [collectOutcomes, rest, Except.map, Except.ok.injEq] at collected
      subst collected
      rw [List.filterMap_cons, filterMap_toOption_of_collectOutcomes rest]
      rfl

/-- Raw entries mapped by a mapping that keeps the position it is given yield their tracks
in strictly increasing places. -/
theorem placedInOrder_placedTracks (map : Json → TrackPosition → Outcome Track)
    (keeps : ∀ v position t, map v position = .ok t → t.position = position) (entries : List Json) :
    PlacedInOrder place entries.length
      ((placedTracks place map entries).filterMap Except.toOption) := by
  have placed := placedInOrder_of_outcomes place (entries.mapIdx fun i v => map v (place (i + 1)))
    fun i t found => by
      rw [List.getElem?_mapIdx, Option.map_eq_some_iff] at found
      obtain ⟨v, -, mapped⟩ := found
      exact keeps v _ t mapped
  rw [List.length_mapIdx] at placed
  rw [placedTracks, filterMap_toOption_skipMalformed]
  exact placed

end Places

/-! ## A mapped track keeps its position -/

theorem Deezer.positionOf_of_lt {i : Nat} (small : i < 2 ^ 32 - 1) :
    Deezer.positionOf i = i + 1 := by
  rw [Deezer.positionOf, Nat.pow_eq, Nat.mod_eq_of_lt (by omega), Nat.mod_eq_of_lt (by omega)]

theorem Soundcloud.positionOf_of_lt {i : Nat} (small : i < 2 ^ 32 - 1) :
    Soundcloud.positionOf i = i + 1 :=
  Deezer.positionOf_of_lt small

section Mappers

attribute [local simp] Outcome.ok_bind Outcome.error_bind Outcome.pure_eq

theorem Deezer.Mapper.parseTrack_position (m : Deezer.Mapper) (r : Deezer.TrackRecord)
    (position : TrackPosition) {t : Track} (mapped : m.parseTrack r position = .ok t) :
    t.position = position := by
  cases identified : r.id with
  | none => simp [Deezer.Mapper.parseTrack, identified] at mapped
  | some n =>
    -- the nested artist and album only decide whether the track maps at all
    rcases artist : r.artist with _ | ⟨_ | artistId, artistRest⟩ <;>
      rcases album : r.album with _ | ⟨_ | albumId, albumRest⟩ <;>
      simp [Deezer.Mapper.parseTrack, identified, artist, album, Deezer.Mapper.artistMapping,
        Deezer.Mapper.albumMapping] at mapped <;>
      (subst mapped; rfl)

theorem Deezer.Mapper.trackFromValue_position (m : Deezer.Mapper) (v : Json)
    (position : TrackPosition) {t : Track} (mapped : m.trackFromValue v position = .ok t) :
    t.position = position := by
  unfold Deezer.Mapper.trackFromValue at mapped
  cases decoded : decode "track" Deezer.trackDecoder v with
  | error e => simp [decoded] at mapped
  | ok record =>
    rw [decoded, Outcome.ok_bind] at mapped
    exact m.parseTrack_position record position mapped

theorem Soundcloud.Mapper.parseTrack_position (m : Soundcloud.Mapper)
    (r : Soundcloud.TrackRecord) (uploader : Option Soundcloud.UserRecord)
    (position : TrackPosition) {t : Track} (mapped : m.parseTrack r uploader position = .ok t) :
    t.position = position := by
  cases identified : r.id with
  | none => simp [Soundcloud.Mapper.parseTrack, identified] at mapped
  | some id =>
    rcases uploader with _ | ⟨_ | uploaderId, uploaderRest⟩ <;>
      simp [Soundcloud.Mapper.parseTrack, identified] at mapped <;>
      (subst mapped; rfl)

end Mappers

namespace Http

/-- Every success of `x`, on every network and from every log, satisfies `P`. -/
def SucceedsOnly {α : Type} (P : α → Prop) (x : Http α) : Prop :=
  ∀ net log a, (runFrom net log x).1 = .ok a → P a

namespace SucceedsOnly

variable {α β : Type} {P : β → Prop}

/-- A bind succeeds only as its second step does. -/
theorem bind {x : Http α} {f : α → Http β} (rest : ∀ a, SucceedsOnly P (f a)) :
    SucceedsOnly P (x >>= f) := by
  intro net log b succeeded
  rw [runFrom_bind] at succeeded
  rcases ran : runFrom net log x with ⟨_ | a, log'⟩
  · rw [ran] at succeeded
    cases succeeded
  · rw [ran] at succeeded
    exact rest a net log' b succeeded

theorem lift {o : Outcome β} (holds : ∀ b, o = .ok b → P b) : SucceedsOnly P (Http.lift o) := by
  intro net log b succeeded
  rw [runFrom_lift] at succeeded
  exact holds b succeeded

end SucceedsOnly

/-- Outcome `i` of a run of exchanges one after another is the outcome of exchange `i`,
run from the log the ones before it left. -/
theorem getElem?_runEach {α : Type} (net : Network) :
    ∀ (xs : List (Http α)) (log : List Request) (i : Nat) (o : Outcome α),
      (runEach net xs log).1[i]? = some o → ∃ x l, xs[i]? = some x ∧ (runFrom net l x).1 = o
  | [], _, _, _, found => by simp at found
  | x :: xs, log, 0, o, found => by
    rw [runEach_cons, List.getElem?_cons_zero, Option.some.injEq] at found
    exact ⟨x, log, rfl, found⟩
  | x :: xs, log, i + 1, o, found => by
    rw [runEach_cons, List.getElem?_cons_succ] at found
    obtain ⟨y, l, member, ran⟩ := getElem?_runEach net xs _ i o found
    exact ⟨y, l, by rw [List.getElem?_cons_succ]; exact member, ran⟩

end Http

namespace Soundcloud.Session

theorem parseTrack_position (s : Session) (track : TrackRecord) (position : TrackPosition) :
    Http.SucceedsOnly (fun t : Track => t.position = position) (s.parseTrack track position) :=
  Http.SucceedsOnly.bind fun uploader =>
    Http.SucceedsOnly.lift fun _ mapped => s.mapper.parseTrack_position track uploader position mapped

/-- A track fetched by id carries the position it was asked for. -/
theorem trackById_position (s : Session) (trackId : String) (position : TrackPosition) :
    Http.SucceedsOnly (fun t : Track => t.position = position) (s.trackById trackId position) :=
  Http.SucceedsOnly.bind fun track => s.parseTrack_position track position

end Soundcloud.Session

/-! ## Chains of answers -/

/-- The elements a chain delivers are its page entries, each received whole, then its
failure. -/
theorem Pages.Chain.delivered_eq (pages : List Page) (stop : Option ProviderError) :
    Pages.Chain.delivered pages stop =
      (pages.flatMap Page.items).map .ok ++ (stop.map .error).toList := by
  rw [Pages.Chain.delivered, List.map_flatMap]

theorem collectOutcomes_delivered {α : Type} (stop : Option ProviderError) :
    ∀ xs : List α, collectOutcomes (xs.map .ok ++ (stop.map .error).toList) =
      match stop with
      | some e => .error e
      | none => .ok xs
  | [] => by cases stop <;> rfl
  | x :: xs => by
    rw [List.map_cons, List.cons_append, collectOutcomes, collectOutcomes_delivered stop xs]
    cases stop <;> rfl

/-! ## Deezer listings -/

namespace Deezer

/-- Numbering entries in 32-bit arithmetic numbers them `i + 1` below the bound. -/
theorem zipIdx_filterMap_positionOf (place : Nat → TrackPosition)
    (map : Json → TrackPosition → Outcome Track) (entries : List Json)
    (small : entries.length < 2 ^ 32 - 1) :
    entries.zipIdx.filterMap (fun (v, i) => skipMalformed (map v (place (positionOf i)))) =
      placedTracks place map entries := by
  rw [placedTracks, List.mapIdx_eq_zipIdx_map, List.filterMap_map]
  apply List.filterMap_congr
  rintro ⟨v, i⟩ member
  have inside := (List.mem_zipIdx member).2.1
  simp only [Function.comp_apply, positionOf_of_lt (show i < 2 ^ 32 - 1 by omega)]

/-- The tracks of a playlist's pages, numbered by raw entry: the failure that ends the chain
takes the number after the last entry and is kept, as it is never invalid data. -/
theorem Session.delivered_playlistTracks (s : Session) (pages : List Page)
    {stop : Option ProviderError} (stopKind : ∀ e, stop = some e → e.IsExchangeFailure)
    (small : (pages.flatMap Page.items).length < 2 ^ 32 - 1) :
    (Pages.Chain.delivered pages stop).zipIdx.filterMap (fun (item, i) => s.playlistTrack i item) =
      placedTracks .playlist s.mapper.trackFromValue (pages.flatMap Page.items) ++
        (stop.map .error).toList := by
  rw [Pages.Chain.delivered_eq, List.zipIdx_append, List.filterMap_append, List.zipIdx_map,
    List.filterMap_map, ← zipIdx_filterMap_positionOf .playlist s.mapper.trackFromValue _ small]
  congr 1
  cases stop with
  | none => rfl
  | some e =>
    have kept : s.playlistTrack (pages.flatMap Page.items).length (.error e) = some (.error e) :=
      skipMalformed_of_isExchangeFailure (stopKind e rfl)
    simp only [Option.map_some, Option.toList_some, List.zipIdx_cons, List.zipIdx_nil,
      List.filterMap_cons, List.filterMap_nil, List.length_map, Nat.zero_add]
    rw [kept]

namespace Provider

/-- Along every chain of answers, a playlist lists its raw entries mapped at positions
`i + 1`, the malformed ones left out, then the failure that ended the chain. -/
theorem playlistTracks_places (p : Provider) {s : Session} (hs : p.session = some s)
    (fuel : Nat) (id : String) {net : Http.Network} {log log' : List Http.Request}
    {pages : List Page} {stop : Option ProviderError}
    (chain : (s.api.pages ("playlist/" ++ id ++ "/tracks") []).Chain net
      (s.api.pages ("playlist/" ++ id ++ "/tracks") []).first log pages stop log')
    (enough : pages.length < fuel) (small : (pages.flatMap Page.items).length < 2 ^ 32 - 1) :
    ((p.playlistTracks fuel id).run net).run log =
      (placedTracks .playlist s.mapper.trackFromValue (pages.flatMap Page.items) ++
        (stop.map .error).toList, log') := by
  unfold playlistTracks
  rw [p.listing_of_session hs, Http.exchange_run_bind, Pages.all_of_chain chain enough,
    ← s.delivered_playlistTracks pages (chain.stop_kind (Api.pages_fetch_failsOnly _ _ _)) small]
  rfl

/-- Along every chain of answers, an album lists its raw entries mapped as track `i + 1`
of disc zero, the malformed ones left out, or fails as the chain does. -/
theorem albumTracks_places (p : Provider) {s : Session} (hs : p.session = some s)
    (fuel : Nat) (stamp : PlaybackStamp) (id : String) {net : Http.Network}
    {log log' : List Http.Request} {pages : List Page} {stop : Option ProviderError}
    (chain : (s.api.pages ("album/" ++ id ++ "/tracks") []).Chain net
      (s.api.pages ("album/" ++ id ++ "/tracks") []).first log pages stop log')
    (enough : pages.length < fuel) (small : (pages.flatMap Page.items).length < 2 ^ 32 - 1) :
    Http.runFrom net log ((p.operations fuel stamp).albumTracks id) =
      (match stop with
        | some e => .error e
        | none =>
          collectOutcomes (placedTracks (.album 0) s.mapper.trackFromValue (pages.flatMap Page.items)),
        log') := by
  have session : p.session? = .ok s := by
    unfold session?
    rw [hs]
  dsimp only [operations]
  rw [Http.runFrom_bind, session, Http.runFrom_lift]
  dsimp only
  unfold Session.collect
  rw [Http.runFrom_bind, Http.runFrom_ofExchange, Pages.all_of_chain chain enough]
  dsimp only
  rw [Http.runFrom_bind, Http.runFrom_lift, Pages.Chain.delivered_eq, collectOutcomes_delivered]
  cases stop with
  | some e => rfl
  | none =>
    dsimp only
    rw [Http.runFrom_lift, ← zipIdx_filterMap_positionOf (.album 0) s.mapper.trackFromValue _ small]

theorem playlistTracks_placedInOrder (p : Provider) {s : Session} (hs : p.session = some s)
    (fuel : Nat) (id : String) {net : Http.Network} {log log' : List Http.Request}
    {pages : List Page} {stop : Option ProviderError}
    (chain : (s.api.pages ("playlist/" ++ id ++ "/tracks") []).Chain net
      (s.api.pages ("playlist/" ++ id ++ "/tracks") []).first log pages stop log')
    (enough : pages.length < fuel) (small : (pages.flatMap Page.items).length < 2 ^ 32 - 1) :
    PlacedInOrder .playlist (pages.flatMap Page.items).length
      ((((p.playlistTracks fuel id).run net).run log).1.filterMap Except.toOption) := by
  rw [p.playlistTracks_places hs fuel id chain enough small, filterMap_toOption_append_failure]
  exact placedInOrder_placedTracks .playlist _ s.mapper.trackFromValue_position _

theorem albumTracks_placedInOrder (p : Provider) {s : Session} (hs : p.session = some s)
    (fuel : Nat) (stamp : PlaybackStamp) (id : String) {net : Http.Network}
    {log log' : List Http.Request} {pages : List Page} {stop : Option ProviderError}
    (chain : (s.api.pages ("album/" ++ id ++ "/tracks") []).Chain net
      (s.api.pages ("album/" ++ id ++ "/tracks") []).first log pages stop log')
    (enough : pages.length < fuel) (small : (pages.flatMap Page.items).length < 2 ^ 32 - 1)
    {tracks : List Track}
    (listed : (Http.runFrom net log ((p.operations fuel stamp).albumTracks id)).1 = .ok tracks) :
    PlacedInOrder (.album 0) (pages.flatMap Page.items).length tracks := by
  rw [p.albumTracks_places hs fuel stamp id chain enough small] at listed
  cases stop with
  | some e => cases listed
  | none =>
    -- the album lists every track only when no entry failed, so all of them are there
    rw [← filterMap_toOption_of_collectOutcomes listed]
    exact placedInOrder_placedTracks (.album 0) _ s.mapper.trackFromValue_position _

end Provider

end Deezer

/-! ## SoundCloud playlists -/

namespace Soundcloud

/-- Numbering stubs in 32-bit arithmetic numbers them `i + 1` below the bound. -/
theorem zipIdx_map_positionOf (s : Session) (stubs : List Json)
    (small : stubs.length < 2 ^ 32 - 1) :
    stubs.zipIdx.map (fun (stub, i) => do
        s.trackById (← Http.lift (nestedId stub none)) (.playlist (positionOf i))) =
      stubs.mapIdx (fun i stub => do
        s.trackById (← Http.lift (nestedId stub none)) (.playlist (i + 1))) := by
  rw [List.mapIdx_eq_zipIdx_map]
  apply List.map_congr_left
  rintro ⟨stub, i⟩ member
  have inside := (List.mem_zipIdx member).2.1
  simp only [positionOf_of_lt (show i < 2 ^ 32 - 1 by omega)]

/-- Fetching stub `i` at position `i + 1`, one stub after another, yields the tracks at
strictly increasing places among the first `n`. -/
theorem placedInOrder_fetchedStubs (s : Session) (net : Http.Network) (stubs : List Json)
    (log : List Http.Request) :
    PlacedInOrder .playlist stubs.length
      (((Http.runEach net (stubs.mapIdx fun i stub => do
          s.trackById (← Http.lift (nestedId stub none)) (.playlist (i + 1))) log).1.filterMap
        skipMalformed).filterMap Except.toOption) := by
  have placed := placedInOrder_of_outcomes .playlist (Http.runEach net (stubs.mapIdx (fun i stub => do
      s.trackById (← Http.lift (nestedId stub none)) (.playlist (i + 1)))) log).1
    fun i t found => by
      obtain ⟨x, l, member, ran⟩ := Http.getElem?_runEach net _ log i _ found
      rw [List.getElem?_mapIdx, Option.map_eq_some_iff] at member
      obtain ⟨stub, -, rfl⟩ := member
      -- the fetch of a stub succeeds only with the track fetched at its position
      exact (Http.SucceedsOnly.bind fun trackId =>
        s.trackById_position trackId (.playlist (i + 1))) net l t ran
  rw [Http.length_runEach, List.length_mapIdx] at placed
  rw [filterMap_toOption_skipMalformed]
  exact placed

namespace Provider

/-- A playlist whose record lists fewer than `2 ^ 32 - 1` stubs lists, for every network,
the failure of its record or its stubs fetched in order, stub `i` at position `i + 1`,
the malformed ones left out; the tracks come at strictly increasing positions, none past
the number of stubs. -/
theorem playlistTracks_places (p : Provider) {s : Session} (hs : p.session = some s)
    (id : String) (net : Http.Network) (log : List Http.Request) {n : Nat}
    (small : n < 2 ^ 32 - 1)
    (counted : ∀ value log' playlist,
      Http.runFrom net log (s.api.playlistDetails id) = (.ok value, log') →
        decode "playlist" playlistDecoder value = .ok playlist → playlist.tracks.length ≤ n) :
    ((p.playlistTracks id).run net).run log =
        (match Http.runFrom net log (s.api.playlistDetails id) with
        | (.error e, log') => ([.error e], log')
        | (.ok value, log') =>
          match decode "playlist" playlistDecoder value with
          | .error e =>
            ([.error (.api ("playlist " ++ id ++ " has no track list: " ++ e.message))], log')
          | .ok playlist =>
            ((Http.runEach net (playlist.tracks.mapIdx fun i stub => do
                s.trackById (← Http.lift (nestedId stub none)) (.playlist (i + 1))) log').1.filterMap
                skipMalformed,
              (Http.runEach net (playlist.tracks.mapIdx fun i stub => do
                s.trackById (← Http.lift (nestedId stub none)) (.playlist (i + 1))) log').2)) ∧
      PlacedInOrder .playlist n ((((p.playlistTracks id).run net).run log).1.filterMap
        Except.toOption) := by
  rw [p.playlistTracks_run hs]
  rcases requested : Http.runFrom net log (s.api.playlistDetails id) with ⟨_ | value, log'⟩
  case error e => exact ⟨rfl, PlacedInOrder.nil .playlist n⟩
  case ok =>
    dsimp only
    cases decoded : decode "playlist" playlistDecoder value with
    | error e => exact ⟨rfl, PlacedInOrder.nil .playlist n⟩
    | ok playlist =>
      have bound := counted value log' playlist requested decoded
      dsimp only
      rw [zipIdx_map_positionOf s playlist.tracks (by omega)]
      exact ⟨rfl, (placedInOrder_fetchedStubs s net playlist.tracks log').mono .playlist bound⟩

end Provider

end Soundcloud

/-- Track positions count raw entries. Along every chain of answers to a Deezer playlist of
fewer than `2 ^ 32 - 1` raw entries, the entry at index `i` is mapped at position `i + 1`,
the malformed ones are left out and the failure that ended the chain comes last; an album
maps the entry at index `i` as track `i + 1` of disc zero. A SoundCloud playlist of fewer
than `2 ^ 32 - 1` stubs fetches its stub `i` at position `i + 1`. In all three, the tracks
come at strictly increasing positions, none past the number of raw entries. -/
theorem playlistPositions_count_raw_entries :
    (∀ (p : Deezer.Provider) (s : Deezer.Session), p.session = some s →
      ∀ (fuel : Nat) (stamp : Deezer.PlaybackStamp) (id : String) (net : Http.Network)
        (log log' : List Http.Request) (pages : List Page) (stop : Option ProviderError),
        (s.api.pages ("playlist/" ++ id ++ "/tracks") []).Chain net
            (s.api.pages ("playlist/" ++ id ++ "/tracks") []).first log pages stop log' →
          pages.length < fuel → (pages.flatMap Page.items).length < 2 ^ 32 - 1 →
          (((p.operations fuel stamp).playlistTracks id).run net).run log =
              (placedTracks .playlist s.mapper.trackFromValue (pages.flatMap Page.items) ++
                (stop.map .error).toList, log') ∧
            PlacedInOrder .playlist (pages.flatMap Page.items).length
              (((((p.operations fuel stamp).playlistTracks id).run net).run log).1.filterMap
                Except.toOption)) ∧
    (∀ (p : Deezer.Provider) (s : Deezer.Session), p.session = some s →
      ∀ (fuel : Nat) (stamp : Deezer.PlaybackStamp) (id : String) (net : Http.Network)
        (log log' : List Http.Request) (pages : List Page) (stop : Option ProviderError),
        (s.api.pages ("album/" ++ id ++ "/tracks") []).Chain net
            (s.api.pages ("album/" ++ id ++ "/tracks") []).first log pages stop log' →
          pages.length < fuel → (pages.flatMap Page.items).length < 2 ^ 32 - 1 →
          Http.runFrom net log ((p.operations fuel stamp).albumTracks id) =
              (match stop with
                | some e => .error e
                | none => collectOutcomes (placedTracks (.album 0) s.mapper.trackFromValue
                    (pages.flatMap Page.items)),
                log') ∧
            ∀ tracks, (Http.runFrom net log ((p.operations fuel stamp).albumTracks id)).1 =
                .ok tracks →
              PlacedInOrder (.album 0) (pages.flatMap Page.items).length tracks) ∧
    (∀ (p : Soundcloud.Provider) (s : Soundcloud.Session), p.session = some s →
      ∀ (fuel : Nat) (id : String) (net : Http.Network) (log : List Http.Request) (n : Nat),
        n < 2 ^ 32 - 1 →
        (∀ value log' playlist,
          Http.runFrom net log (s.api.playlistDetails id) = (.ok value, log') →
            Soundcloud.decode "playlist" Soundcloud.playlistDecoder value = .ok playlist →
              playlist.tracks.length ≤ n) →
        (((p.operations fuel).playlistTracks id).run net).run log =
            (match Http.runFrom net log (s.api.playlistDetails id) with
            | (.error e, log') => ([.error e], log')
            | (.ok value, log') =>
              match Soundcloud.decode "playlist" Soundcloud.playlistDecoder value with
              | .error e =>
                ([.error (.api ("playlist " ++ id ++ " has no track list: " ++ e.message))], log')
              | .ok playlist =>
                ((Http.runEach net (playlist.tracks.mapIdx fun i stub => do
                    s.trackById (← Http.lift (Soundcloud.nestedId stub none)) (.playlist (i + 1)))
                    log').1.filterMap skipMalformed,
                  (Http.runEach net (playlist.tracks.mapIdx fun i stub => do
                    s.trackById (← Http.lift (Soundcloud.nestedId stub none)) (.playlist (i + 1)))
                    log').2)) ∧
          PlacedInOrder .playlist n
            (((((p.operations fuel).playlistTracks id).run net).run log).1.filterMap
              Except.toOption)) := by
  refine ⟨?deezerPlaylist, ?deezerAlbum, ?soundcloudPlaylist⟩
  case deezerPlaylist =>
    intro p s hs fuel stamp id net log log' pages stop chain enough small
    exact ⟨p.playlistTracks_places hs fuel id chain enough small,
      p.playlistTracks_placedInOrder hs fuel id chain enough small⟩
  case deezerAlbum =>
    intro p s hs fuel stamp id net log log' pages stop chain enough small
    exact ⟨p.albumTracks_places hs fuel stamp id chain enough small,
      fun _ listed => p.albumTracks_placedInOrder hs fuel stamp id chain enough small listed⟩
  case soundcloudPlaylist =>
    intro p s hs fuel id net log n small counted
    exact p.playlistTracks_places hs id net log small counted

/-! ## Positions in three concrete listings -/

/-- Deezer's answers for playlist 908622995 and album 302127: the playlist on two pages,
three tracks with an entry without id second on the first page; the album on one page,
an entry without id and then a track. -/
def positionsDeezerNet : Http.Network :=
  ⟨fun _ r =>
    if r.url = "https://api.deezer.com/playlist/908622995/tracks?access_token=secret" then
      some ⟨200, Bytes.ofString ("\x7b\"data\":[\x7b\"id\":1\x7d,\x7b\"title\":\"?\"\x7d,\x7b\"id\":2\x7d]," ++
        "\"next\":\"https://api.deezer.com/playlist/908622995/tracks?access_token=secret&index=3\"\x7d")⟩
    else if r.url = "https://api.deezer.com/playlist/908622995/tracks?access_token=secret&index=3" then
      some ⟨200, Bytes.ofString "\x7b\"data\":[\x7b\"id\":3\x7d]\x7d"⟩
    else if r.url = "https://api.deezer.com/album/302127/tracks?access_token=secret" then
      some ⟨200, Bytes.ofString "\x7b\"data\":[\x7b\"title\":\"?\"\x7d,\x7b\"id\":4\x7d]\x7d"⟩
    else none⟩

/-- SoundCloud's answers for playlist 77: its record lists three stubs, the second without
id, and the two tracks the other stubs name. -/
def positionsSoundcloudNet : Http.Network :=
  ⟨fun _ r =>
    if r.url = "https://api-v2.soundcloud.com/playlists/77?representation=full&client_id=cid" then
      some ⟨200, Bytes.ofString ("\x7b\"id\":77,\"tracks\":[\x7b\"id\":1\x7d,\x7b\"title\":\"?\"\x7d," ++
        "\x7b\"id\":2\x7d]\x7d")⟩
    else if r.url = "https://api-v2.soundcloud.com/tracks?ids=1&client_id=cid" then
      some ⟨200, Bytes.ofString "[\x7b\"id\":1,\"title\":\"One\"\x7d]"⟩
    else if r.url = "https://api-v2.soundcloud.com/tracks?ids=2&client_id=cid" then
      some ⟨200, Bytes.ofString "[\x7b\"id\":2,\"title\":\"Two\"\x7d]"⟩
    else none⟩

/-- Positions count the raw entries, the ones left out included. Deezer's playlist places
its tracks at 1, 3 and 4, across its two pages, and its album places its one track at 2;
SoundCloud's playlist places its tracks at 1 and 3, in order and within its three
entries. -/
theorem playlistPositions_count_skipped_entries :
    (libraryDeezerSession.api.pages ("playlist/" ++ "908622995" ++ "/tracks") []).Chain
      positionsDeezerNet
      (libraryDeezerSession.api.pages ("playlist/" ++ "908622995" ++ "/tracks") []).first []
      [⟨[Json.object [("id", Json.int 1)], Json.object [("title", Json.string "?")],
          Json.object [("id", Json.int 2)]],
        some "https://api.deezer.com/playlist/908622995/tracks?access_token=secret&index=3"⟩,
       ⟨[Json.object [("id", Json.int 3)]], none⟩] none
      [Http.Request.plain .get
           "https://api.deezer.com/playlist/908622995/tracks?access_token=secret",
       Http.Request.plain .get
           "https://api.deezer.com/playlist/908622995/tracks?access_token=secret&index=3"] ∧
    ((((Deezer.Provider.mk default (some libraryDeezerSession)).operations 3 default).playlistTracks
        "908622995").run positionsDeezerNet).run [] =
      ([libraryDeezerSession.mapper.trackFromValue (Json.object [("id", Json.int 1)]) (.playlist 1),
        libraryDeezerSession.mapper.trackFromValue (Json.object [("id", Json.int 2)]) (.playlist 3),
        libraryDeezerSession.mapper.trackFromValue (Json.object [("id", Json.int 3)]) (.playlist 4)],
       [Http.Request.plain .get
            "https://api.deezer.com/playlist/908622995/tracks?access_token=secret",
        Http.Request.plain .get
            "https://api.deezer.com/playlist/908622995/tracks?access_token=secret&index=3"]) ∧
    (libraryDeezerSession.api.pages ("album/" ++ "302127" ++ "/tracks") []).Chain positionsDeezerNet
      (libraryDeezerSession.api.pages ("album/" ++ "302127" ++ "/tracks") []).first []
      [⟨[Json.object [("title", Json.string "?")], Json.object [("id", Json.int 4)]], none⟩] none
      [Http.Request.plain .get "https://api.deezer.com/album/302127/tracks?access_token=secret"] ∧
    Http.runFrom positionsDeezerNet []
        (((Deezer.Provider.mk default (some libraryDeezerSession)).operations 3 default).albumTracks
          "302127") =
      (collectOutcomes
          [libraryDeezerSession.mapper.trackFromValue (Json.object [("id", Json.int 4)]) (.album 0 2)],
        [Http.Request.plain .get
             "https://api.deezer.com/album/302127/tracks?access_token=secret"]) ∧
    ((((Soundcloud.Provider.mk default (some librarySoundcloudSession)).operations 3).playlistTracks
        "77").run positionsSoundcloudNet).run [] =
      ([librarySoundcloudSession.mapper.parseTrack
          { (default : Soundcloud.TrackRecord) with id := some "1", title := some "One" } none
          (.playlist 1),
        librarySoundcloudSession.mapper.parseTrack
          { (default : Soundcloud.TrackRecord) with id := some "2", title := some "Two" } none
          (.playlist 3)],
       [(Http.Request.plain .get
             "https://api-v2.soundcloud.com/playlists/77?representation=full&client_id=cid").withHeader
          "authorization" "OAuth tok",
        (Http.Request.plain .get
             "https://api-v2.soundcloud.com/tracks?ids=1&client_id=cid").withHeader
          "authorization" "OAuth tok",
        (Http.Request.plain .get
             "https://api-v2.soundcloud.com/tracks?ids=2&client_id=cid").withHeader
          "authorization" "OAuth tok"]) ∧
    PlacedInOrder .playlist 3
      ((((((Soundcloud.Provider.mk default (some librarySoundcloudSession)).operations 3).playlistTracks
        "77").run positionsSoundcloudNet).run []).1.filterMap Except.toOption) := by
  obtain ⟨deezerPlaylist, deezerAlbum, soundcloudPlaylist⟩ := playlistPositions_count_raw_entries
  -- the page requests of the Deezer playlist and album
  have playlistFirst : Http.runFrom positionsDeezerNet []
      ((libraryDeezerSession.api.pages ("playlist/" ++ "908622995" ++ "/tracks") []).fetch
        (libraryDeezerSession.api.pages ("playlist/" ++ "908622995" ++ "/tracks") []).first) =
      (.ok ⟨[Json.object [("id", Json.int 1)], Json.object [("title", Json.string "?")],
          Json.object [("id", Json.int 2)]],
        some "https://api.deezer.com/playlist/908622995/tracks?access_token=secret&index=3"⟩,
       [Http.Request.plain .get
            "https://api.deezer.com/playlist/908622995/tracks?access_token=secret"]) := by
    decide +kernel
  have playlistSecond : Http.runFrom positionsDeezerNet
      [Http.Request.plain .get "https://api.deezer.com/playlist/908622995/tracks?access_token=secret"]
      ((libraryDeezerSession.api.pages ("playlist/" ++ "908622995" ++ "/tracks") []).fetch
        ⟨"https://api.deezer.com/playlist/908622995/tracks?access_token=secret&index=3", []⟩) =
      (.ok ⟨[Json.object [("id", Json.int 3)]], none⟩,
       [Http.Request.plain .get
            "https://api.deezer.com/playlist/908622995/tracks?access_token=secret",
        Http.Request.plain .get
            "https://api.deezer.com/playlist/908622995/tracks?access_token=secret&index=3"]) := by
    decide +kernel
  have albumPage : Http.runFrom positionsDeezerNet []
      ((libraryDeezerSession.api.pages ("album/" ++ "302127" ++ "/tracks") []).fetch
        (libraryDeezerSession.api.pages ("album/" ++ "302127" ++ "/tracks") []).first) =
      (.ok ⟨[Json.object [("title", Json.string "?")], Json.object [("id", Json.int 4)]], none⟩,
       [Http.Request.plain .get
            "https://api.deezer.com/album/302127/tracks?access_token=secret"]) := by
    decide +kernel
  have playlistChain := Pages.Chain.next playlistFirst rfl (.last playlistSecond rfl)
  have albumChain := Pages.Chain.last albumPage rfl
  -- the SoundCloud playlist's record, and the number of its stubs
  have record : Http.runFrom positionsSoundcloudNet []
      (librarySoundcloudSession.api.playlistDetails "77") =
      (.ok (Json.object [("id", Json.int 77), ("tracks", Json.array [Json.object [("id", Json.int 1)],
          Json.object [("title", Json.string "?")], Json.object [("id", Json.int 2)]])]),
       [(Http.Request.plain .get
             "https://api-v2.soundcloud.com/playlists/77?representation=full&client_id=cid").withHeader
          "authorization" "OAuth tok"]) := by
    decide +kernel
  have counted : ∀ value log' playlist,
      Http.runFrom positionsSoundcloudNet [] (librarySoundcloudSession.api.playlistDetails "77") =
          (.ok value, log') →
        Soundcloud.decode "playlist" Soundcloud.playlistDecoder value = .ok playlist →
          playlist.tracks.length ≤ 3 := by
    intro value log' playlist fetched decoded
    rw [record] at fetched
    cases fetched
    have stubs : (Soundcloud.decode "playlist" Soundcloud.playlistDecoder
        (Json.object [("id", Json.int 77), ("tracks", Json.array [Json.object [("id", Json.int 1)],
          Json.object [("title", Json.string "?")], Json.object [("id", Json.int 2)]])])).map
        (·.tracks.length) = .ok 3 := by
      decide +kernel
    rw [decoded] at stubs
    have three : playlist.tracks.length = 3 := by simpa [Except.map] using stubs
    exact three.le
  obtain ⟨soundcloudRun, soundcloudPlaced⟩ :=
    soundcloudPlaylist (Soundcloud.Provider.mk default (some librarySoundcloudSession))
      librarySoundcloudSession rfl 3 "77" positionsSoundcloudNet [] 3 (by decide)
      counted
  refine ⟨playlistChain, ?_, albumChain, ?_, ?_, soundcloudPlaced⟩
  · rw [(deezerPlaylist (Deezer.Provider.mk default (some libraryDeezerSession)) libraryDeezerSession
      rfl 3 default "908622995" _ _ _ _ _ playlistChain (by decide) (by decide)).1]
    show (_ : List (Outcome Track) × List Http.Request) = _
    decide +kernel
  · rw [(deezerAlbum (Deezer.Provider.mk default (some libraryDeezerSession)) libraryDeezerSession
      rfl 3 default "302127" _ _ _ _ _ albumChain (by decide) (by decide)).1]
    decide +kernel
  · rw [soundcloudRun, record]
    show (_ : List (Outcome Track) × List Http.Request) = _
    decide +kernel

end MusicProviders
