import MusicProviders.Proofs.Paging.Positions
import MusicProviders.Proofs.Mapping.Malformed

/-! # Removing playlist tracks by position

A Deezer playlist is edited by track id, so removing the tracks at some positions first
reads the playlist until it has found one track per requested position. Positions count
raw entries and are 32-bit numbers: below `2 ^ 32 - 1` entries no two tracks share one,
and stopping early then loses nothing. Removal agrees with a complete scan
(`Deezer.Provider.removePlaylistTracks_agrees_with_scan`): the ids it removes are those of
every track at a requested position, in listing order, sent in one request; the listing
is read with its page requests only; a failure of the listing is returned, with nothing
removed, unless every requested position was found before it.

* `scanWhile` — a reader that sends no requests of its own folds the elements a listing
  delivers until it wants no more; `Pages.readFrom_quiet_of_chain` reads a chain of
  answers that way, and `Pages.readFrom_sendsOnly` sends nothing but the page requests.
* `Deezer.removalScan_of_tracks` — the removal reader collects every wanted track as long
  as the ids found and those still to come never outnumber the wanted positions, the
  invariant that distinct positions give (`Deezer.length_idsAtPositions_le`).
-/

namespace MusicProviders

/-! ## Readers that send no requests -/

/-- The state reached from `s` by taking the elements in order with `step` for as long as
`wants` asks for more. -/
def scanWhile {σ : Type} (wants : σ → Bool) (step : σ → Outcome Json → σ) :
    σ → List (Outcome Json) → σ
  | s, [] => s
  | s, x :: xs => if wants s then scanWhile wants step (step s x) xs else s

section Scan

variable {σ : Type} {wants : σ → Bool} {step : σ → Outcome Json → σ}

theorem scanWhile_of_done {s : σ} (done : wants s = false) :
    ∀ xs, scanWhile wants step s xs = s
  | [] => rfl
  | _ :: _ => by simp [scanWhile, done]

theorem scanWhile_append :
    ∀ (xs ys : List (Outcome Json)) (s : σ),
      scanWhile wants step s (xs ++ ys) = scanWhile wants step (scanWhile wants step s xs) ys
  | [], _, _ => rfl
  | x :: xs, ys, s => by
    cases more : wants s with
    | true =>
      simp only [List.cons_append, scanWhile, more, if_true]
      exact scanWhile_append xs ys (step s x)
    | false =>
      simp only [List.cons_append, scanWhile, more, Bool.false_eq_true, if_false]
      rw [scanWhile_of_done more]

end Scan

/-! ## Requests sent -/

namespace Http

@[simp] theorem runFrom_read (net : Network) (log : List Request) :
    runFrom net log (MonadReader.read : Http Network) = (.ok net, log) :=
  rfl

@[simp] theorem runFrom_get (net : Network) (log : List Request) :
    runFrom net log (MonadState.get : Http (List Request)) = (.ok log, log) :=
  rfl

@[simp] theorem runFrom_set (net : Network) (log log' : List Request) :
    runFrom net log (MonadStateOf.set log' : Http PUnit) = (.ok ⟨⟩, log') :=
  rfl

/-- Sending a request logs it once when the network answers, and logs nothing otherwise. -/
theorem send_log (net : Network) (log : List Request) (r : Request) :
    (runFrom net log (send r)).2 = log ∨ (runFrom net log (send r)).2 = log ++ [r] := by
  unfold send
  split
  · exact .inl rfl
  · simp only [runFrom_bind, runFrom_read, runFrom_get]
    cases net.answer log r with
    | none => exact .inl rfl
    | some answer => exact .inr rfl

/-- Every request `x` sends satisfies `P`: on every network and from every log, `x` only
adds such requests to the log. -/
def SendsOnly {α : Type} (P : Request → Prop) (x : Exchange α) : Prop :=
  ∀ net log, ∃ sent, ((x.run net).run log).2 = log ++ sent ∧ ∀ r ∈ sent, P r

theorem SendsOnly.pure {α : Type} {P : Request → Prop} (a : α) :
    SendsOnly P (Pure.pure a : Exchange α) :=
  fun _ log => ⟨[], (List.append_nil log).symm, fun _ absent => absurd absent List.not_mem_nil⟩

end Http

namespace Deezer.Api

theorem buildRequest_method (api : Api) (method : Http.Method) (url : String)
    (params : List (String × String)) : (api.buildRequest method url params).method = method := by
  unfold buildRequest
  dsimp only
  split <;> rfl

/-- A call sends its one request, or nothing when that cannot be sent. -/
theorem request_log (api : Api) (method : Http.Method) (url : String)
    (params : List (String × String)) (net : Http.Network) (log : List Http.Request) :
    (Http.runFrom net log (api.request method url params)).2 = log ∨
      (Http.runFrom net log (api.request method url params)).2 =
        log ++ [api.buildRequest method url params] := by
  have sent := Http.send_log net log (api.buildRequest method url params)
  unfold request
  rw [Http.runFrom_bind]
  rcases answered : Http.runFrom net log (Http.send (api.buildRequest method url params)) with
    ⟨_ | answer, log₁⟩
  · rw [answered] at sent
    exact sent
  · rw [answered] at sent
    -- reading the answer and checking it for an error object send nothing more
    dsimp only
    rw [Http.runFrom_bind, Http.runFrom_lift]
    cases answer.json with
    | error e => exact sent
    | ok data =>
      dsimp only
      rw [Http.runFrom_lift]
      exact sent

theorem pages_fetch_sendsOnly (api : Api) (path : String) (params : List (String × String))
    (req : PageRequest) :
    Http.SendsOnly (fun r => r.method = .get) (Http.attempt ((api.pages path params).fetch req)) := by
  intro net log
  have fetched : (Http.runFrom net log ((api.pages path params).fetch req)).2 =
      (Http.runFrom net log (api.request .get req.url req.params)).2 := by
    unfold pages
    dsimp only
    rw [Http.runFrom_bind]
    rcases Http.runFrom net log (api.request .get req.url req.params) with ⟨_ | data, log₁⟩
    · rfl
    · dsimp only
      rw [Http.runFrom_bind, Http.runFrom_lift]
      cases decodePage data <;> rfl
  rw [Http.run_attempt, fetched]
  rcases api.request_log .get req.url req.params net log with same | one
  · exact ⟨[], by rw [same, List.append_nil], fun _ absent => absurd absent List.not_mem_nil⟩
  · refine ⟨[api.buildRequest .get req.url req.params], one, fun r member => ?_⟩
    rw [List.mem_singleton.1 member]
    exact buildRequest_method api _ _ _

end Deezer.Api

namespace Pages

section Quiet

variable {σ : Type} (p : Pages) {r : Reader σ} {step : σ → Outcome Json → σ}
variable (net : Http.Network)

theorem Chain.delivered_cons (page : Page) (pages : List Page) (stop : Option ProviderError) :
    Chain.delivered (page :: pages) stop = page.items.map .ok ++ Chain.delivered pages stop := by
  rw [Chain.delivered, Chain.delivered, List.flatMap_cons, List.append_assoc]

theorem feed_quiet (quiet : ∀ s x, r.take s x = pure (step s x)) :
    ∀ (items : List Json) (s : σ) (log : List Http.Request),
      ((r.feed s items).run net).run log = (scanWhile r.wants step s (items.map .ok), log)
  | [], _, _ => rfl
  | item :: items, s, log => by
    cases more : r.wants s with
    | true =>
      simp only [Reader.feed, more, if_true, quiet, pure_bind]
      rw [feed_quiet quiet items]
      simp [scanWhile, more]
    | false =>
      simp only [Reader.feed, more, Bool.false_eq_true, if_false, List.map_cons]
      rw [scanWhile_of_done more]
      rfl

theorem readFrom_run_done (fuel : Nat) (req : PageRequest) {s : σ} (done : r.wants s = false)
    (log : List Http.Request) : ((p.readFrom r fuel req s).run net).run log = (s, log) := by
  cases fuel with
  | zero => rfl
  | succ fuel =>
    simp only [readFrom, done, Bool.not_false, if_true]
    rfl

/-- Along a chain of answers, a reader that sends no requests reaches the state of the fold
over the elements the chain delivers. -/
theorem readFrom_quiet_of_chain (quiet : ∀ s x, r.take s x = pure (step s x))
    {req : PageRequest} {log log' : List Http.Request} {pages : List Page}
    {stop : Option ProviderError} (chain : p.Chain net req log pages stop log') :
    ∀ (fuel : Nat) (s : σ), pages.length < fuel →
      (((p.readFrom r fuel req s).run net).run log).1 =
        scanWhile r.wants step s (Chain.delivered pages stop) := by
  induction chain with
  | fails fetched =>
    intro fuel s enough
    obtain ⟨fuel, rfl⟩ : ∃ f, fuel = f + 1 := ⟨fuel - 1, by omega⟩
    cases more : r.wants s with
    | false => rw [readFrom_run_done p net _ _ more, scanWhile_of_done more]
    | true =>
      rw [readFrom_run_error p r net more fetched, quiet]
      simp [Chain.delivered, scanWhile, more]
      rfl
  | last fetched final =>
    intro fuel s enough
    obtain ⟨fuel, rfl⟩ : ∃ f, fuel = f + 1 := ⟨fuel - 1, by omega⟩
    cases more : r.wants s with
    | false => rw [readFrom_run_done p net _ _ more, scanWhile_of_done more]
    | true =>
      rw [readFrom_run_last p r net more fetched final, feed_quiet net quiet]
      simp [Chain.delivered]
  | @next _ _ _ _ _ _ pages _ fetched following _ ih =>
    intro fuel s enough
    obtain ⟨fuel, rfl⟩ : ∃ f, fuel = f + 1 := ⟨fuel - 1, by omega⟩
    have shorter : pages.length < fuel := by simpa using enough
    cases more : r.wants s with
    | false => rw [readFrom_run_done p net _ _ more, scanWhile_of_done more]
    | true =>
      rw [readFrom_run_next p r net more fetched following, feed_quiet net quiet,
        ih fuel _ shorter, Chain.delivered_cons, scanWhile_append]

/-- A reader that sends no requests reads a listing with the listing's page requests
only. -/
theorem readFrom_sendsOnly (quiet : ∀ s x, r.take s x = pure (step s x))
    {P : Http.Request → Prop} (fetches : ∀ req, Http.SendsOnly P (Http.attempt (p.fetch req))) :
    ∀ (fuel : Nat) (req : PageRequest) (s : σ), Http.SendsOnly P (p.readFrom r fuel req s)
  | 0, _, _ => Http.SendsOnly.pure _
  | fuel + 1, req, s => by
    intro net log
    cases more : r.wants s with
    | false =>
      rw [readFrom_run_done p net _ _ more]
      exact ⟨[], (List.append_nil log).symm, fun _ absent => absurd absent List.not_mem_nil⟩
    | true =>
      obtain ⟨sent, grown, holds⟩ := fetches req net log
      rw [Http.run_attempt] at grown
      rcases fetched : Http.runFrom net log (p.fetch req) with ⟨_ | page, log₁⟩
      · rw [fetched] at grown
        rw [readFrom_run_error p r net more fetched, quiet]
        exact ⟨sent, grown, holds⟩
      · have grown : log₁ = log ++ sent := by rw [fetched] at grown; exact grown
        cases following : page.next with
        | none =>
          rw [readFrom_run_last p r net more fetched following, feed_quiet net quiet]
          exact ⟨sent, grown, holds⟩
        | some url =>
          rw [readFrom_run_next p r net more fetched following, feed_quiet net quiet]
          obtain ⟨sent', grown', holds'⟩ := readFrom_sendsOnly quiet fetches fuel ⟨url, []⟩
            (scanWhile r.wants step s (page.items.map .ok)) net log₁
          refine ⟨sent ++ sent', by rw [grown', grown, List.append_assoc], fun r member => ?_⟩
          rcases List.mem_append.1 member with early | late
          · exact holds r early
          · exact holds' r late

end Quiet

end Pages

/-! ## Mapped entries at distinct positions -/

theorem nodup_eraseDups {α : Type} [BEq α] [LawfulBEq α] : ∀ l : List α, l.eraseDups.Nodup
  | [] => List.nodup_nil
  | a :: as => by
    rw [List.eraseDups_cons]
    refine List.nodup_cons.2 ⟨fun member => ?_, nodup_eraseDups _⟩
    rw [List.mem_eraseDups, List.mem_filter] at member
    simp at member
termination_by l => l.length
decreasing_by exact Nat.lt_succ_of_le (List.length_filter_le _ _)

theorem playlistPositions_of_placed :
    ∀ {tracks : List Track} {ks : List Nat}, tracks.map Track.position = ks.map .playlist →
      tracks.map Track.playlistPosition = ks.map some
  | [], [], _ => rfl
  | [], _ :: _, placed => by cases placed
  | _ :: _, [], placed => by cases placed
  | t :: tracks, k :: ks, placed => by
    rw [List.map_cons, List.map_cons, List.cons.injEq] at placed
    rw [List.map_cons, List.map_cons, playlistPositions_of_placed placed.2]
    simp [Track.playlistPosition, placed.1]

theorem map_ok_filterMap_toOption {α : Type} :
    ∀ outs : List (Outcome α), (∀ o ∈ outs, ∃ a, o = .ok a) →
      (outs.filterMap Except.toOption).map .ok = outs
  | [], _ => rfl
  | o :: outs, allOk => by
    obtain ⟨a, rfl⟩ := allOk o List.mem_cons_self
    have rest := map_ok_filterMap_toOption outs fun o member =>
      allOk o (List.mem_cons_of_mem _ member)
    simp only [List.filterMap_cons, Except.toOption, List.map_cons, rest]

/-- A mapping that fails only on malformed entries leaves only tracks once those are
skipped. -/
theorem ok_of_mem_placedTracks {place : Nat → TrackPosition}
    {map : Json → TrackPosition → Outcome Track}
    (malformedOnly : ∀ v position e, map v position = .error e → e.IsInvalidData)
    {entries : List Json} {o : Outcome Track} (member : o ∈ placedTracks place map entries) :
    ∃ t, o = .ok t := by
  obtain ⟨out, listed, kept⟩ := List.mem_filterMap.1 member
  obtain ⟨i, inside, rfl⟩ := List.mem_mapIdx.1 listed
  cases mapped : map entries[i] (place (i + 1)) with
  | ok t =>
    rw [mapped] at kept
    cases kept
    exact ⟨t, rfl⟩
  | error e =>
    rw [mapped, skipMalformed_of_isInvalidData (malformedOnly _ _ e mapped)] at kept
    cases kept

namespace Deezer

/-- The ids of the tracks at the given positions, in listing order: what a complete scan of
the tracks collects. -/
def idsAtPositions (positions : List Nat) (tracks : List Track) : List String :=
  (tracks.filter fun t => t.playlistPosition.any (positions.contains ·)).map Track.itemId

section Distinct

variable (positions : List Nat) {tracks : List Track}

/-- The positions of the tracks whose ids removing by `positions` collects. -/
def collectedPositions (tracks : List Track) : List (Option Nat) :=
  (tracks.filter fun t => t.playlistPosition.any (positions.contains ·)).map Track.playlistPosition

theorem length_idsAtPositions (tracks : List Track) :
    (idsAtPositions positions tracks).length = (collectedPositions positions tracks).length := by
  simp [idsAtPositions, collectedPositions]

theorem collectedPositions_subset (tracks : List Track) :
    collectedPositions positions tracks ⊆ positions.eraseDups.map some := by
  intro o member
  obtain ⟨t, kept, rfl⟩ := List.mem_map.1 member
  obtain ⟨k, at_k, wantedHere⟩ := (Option.any_eq_true _ _).1 (List.mem_filter.1 kept).2
  rw [at_k]
  exact List.mem_map.2 ⟨k, List.mem_eraseDups.2 (List.contains_iff_mem.1 wantedHere), rfl⟩

theorem nodup_collectedPositions {ks : List Nat}
    (placed : tracks.map Track.playlistPosition = ks.map some) (distinct : ks.Nodup) :
    (collectedPositions positions tracks).Nodup := by
  have sub : (collectedPositions positions tracks).Sublist (tracks.map Track.playlistPosition) :=
    List.filter_sublist.map _
  rw [placed] at sub
  exact sub.nodup (distinct.map (Option.some_injective _))

/-- Tracks at distinct positions give at most one id per wanted position. -/
theorem length_idsAtPositions_le {ks : List Nat}
    (placed : tracks.map Track.playlistPosition = ks.map some) (distinct : ks.Nodup) :
    (idsAtPositions positions tracks).length ≤ positions.eraseDups.length := by
  calc (idsAtPositions positions tracks).length
      = (collectedPositions positions tracks).length := length_idsAtPositions positions tracks
    _ ≤ (positions.eraseDups.map some).length :=
      (nodup_collectedPositions positions placed distinct).length_le_of_subset
        (collectedPositions_subset positions tracks)
    _ = positions.eraseDups.length := List.length_map some

/-- Among tracks at distinct positions, there are as many ids at wanted positions as wanted
positions exactly when every wanted position holds a track. -/
theorem length_idsAtPositions_eq_iff {ks : List Nat}
    (placed : tracks.map Track.playlistPosition = ks.map some) (distinct : ks.Nodup) :
    (idsAtPositions positions tracks).length = positions.eraseDups.length ↔
      ∀ k ∈ positions, ∃ t ∈ tracks, t.playlistPosition = some k := by
  have collectedDistinct := nodup_collectedPositions positions placed distinct
  have wantedDistinct : (positions.eraseDups.map some).Nodup :=
    (nodup_eraseDups positions).map (Option.some_injective _)
  have sameLength : (positions.eraseDups.map some).length = positions.eraseDups.length :=
    List.length_map some
  rw [length_idsAtPositions, ← sameLength]
  constructor
  · intro same k wantedHere
    -- as many distinct collected positions as wanted ones: they are the wanted ones
    have covered := (collectedDistinct.subperm (collectedPositions_subset positions tracks)).perm_of_length_le
      (Nat.le_of_eq same.symm)
    obtain ⟨t, kept, at_k⟩ := List.mem_map.1
      (covered.symm.subset (List.mem_map.2 ⟨k, List.mem_eraseDups.2 wantedHere, rfl⟩))
    exact ⟨t, (List.mem_filter.1 kept).1, at_k⟩
  · intro allFound
    have covers : positions.eraseDups.map some ⊆ collectedPositions positions tracks := by
      intro o member
      obtain ⟨k, wantedHere, rfl⟩ := List.mem_map.1 member
      obtain ⟨t, listed, at_k⟩ := allFound k (List.mem_eraseDups.1 wantedHere)
      refine List.mem_map.2 ⟨t, List.mem_filter.2 ⟨listed, ?_⟩, at_k⟩
      rw [at_k]
      exact List.contains_iff_mem.2 (List.mem_eraseDups.1 wantedHere)
    exact Nat.le_antisymm
      (collectedDistinct.length_le_of_subset (collectedPositions_subset positions tracks))
      (wantedDistinct.length_le_of_subset covers)

end Distinct

/-! ## The removal scan -/

section Scan

variable (track : Nat → Outcome Json → Option (Outcome Track)) (wanted : List Nat)

/-- What the removal reader makes of one element: the state its take returns. -/
def removalStep (s : RemovalScan) (item : Outcome Json) : RemovalScan :=
  ((((removalReader track wanted).take s item).run .unreachable).run []).1

theorem removalReader_take (s : RemovalScan) (item : Outcome Json) :
    (removalReader track wanted).take s item = pure (removalStep track wanted s item) :=
  rfl

/-- The removal reader's state after the elements `items`, from `s`. -/
def removalScan (s : RemovalScan) (items : List (Outcome Json)) : RemovalScan :=
  scanWhile (removalReader track wanted).wants (removalStep track wanted) s items

theorem removalScan_of_done {s : RemovalScan} (finished : s.done = true)
    (items : List (Outcome Json)) : removalScan track wanted s items = s :=
  scanWhile_of_done (by simp [removalReader, finished]) items

theorem removalScan_cons {s : RemovalScan} (going : s.done = false) (item : Outcome Json)
    (items : List (Outcome Json)) :
    removalScan track wanted s (item :: items) =
      removalScan track wanted (removalStep track wanted s item) items := by
  simp [removalScan, scanWhile, removalReader, going]

theorem removalStep_index (s : RemovalScan) (item : Outcome Json) :
    (removalStep track wanted s item).index = s.index + 1 := by
  simp only [removalStep, removalReader]
  split <;> rfl

theorem removalStep_of_skip {s : RemovalScan} {item : Outcome Json}
    (skipped : track s.index item = none) :
    (removalStep track wanted s item).found = s.found ∧
      (removalStep track wanted s item).failure = s.failure ∧
      (removalStep track wanted s item).done = s.done := by
  simp only [removalStep, removalReader, skipped]
  exact ⟨rfl, rfl, rfl⟩

/-- A track adds its id when its position is wanted; the reader is done once it has as many
ids as wanted positions. -/
theorem removalStep_of_track {s : RemovalScan} {item : Outcome Json} {t : Track}
    (mapped : track s.index item = some (.ok t)) :
    (removalStep track wanted s item).found =
        s.found ++ (if t.playlistPosition.any (wanted.contains ·) then [t.itemId] else []) ∧
      (removalStep track wanted s item).failure = s.failure ∧
      (removalStep track wanted s item).done =
        ((removalStep track wanted s item).found.length == wanted.length) := by
  simp only [removalStep, removalReader, mapped]
  by_cases wantedHere : t.playlistPosition.any (wanted.contains ·) = true
  · simp only [wantedHere, if_true]
    exact ⟨rfl, rfl, rfl⟩
  · simp only [wantedHere, Bool.false_eq_true, if_false, List.append_nil]
    exact ⟨rfl, rfl, rfl⟩

theorem idsAtPositions_cons (positions : List Nat) (t : Track) (tracks : List Track) :
    idsAtPositions positions (t :: tracks) =
      (if t.playlistPosition.any (positions.contains ·) then [t.itemId] else []) ++
        idsAtPositions positions tracks := by
  by_cases wantedHere : t.playlistPosition.any (positions.contains ·) = true
  · simp only [idsAtPositions, List.filter_cons, wantedHere, if_true, List.map_cons,
      List.singleton_append]
  · simp only [idsAtPositions, List.filter_cons, wantedHere, Bool.false_eq_true, if_false,
      List.nil_append]

/-- Scanning entries that are all skipped or mapped to tracks collects the ids of the tracks
at wanted positions, provided the ids found so far and those still to come are never more
than the wanted positions: then the reader stops only when nothing wanted is left. The
induction is on the entries, with that bound as the invariant. -/
theorem removalScan_of_tracks :
    ∀ (items : List (Outcome Json)) (s : RemovalScan) (tracks : List Track),
      (items.zipIdx s.index).filterMap (fun (x, i) => track i x) = tracks.map .ok →
      s.failure = none → s.done = (s.found.length == wanted.length) →
      s.found.length + (idsAtPositions wanted tracks).length ≤ wanted.length →
        (removalScan track wanted s items).found = s.found ++ idsAtPositions wanted tracks ∧
          (removalScan track wanted s items).failure = none ∧
          (removalScan track wanted s items).done =
            ((s.found ++ idsAtPositions wanted tracks).length == wanted.length)
  | [], s, tracks, mapped, fresh, synced, _ => by
    obtain rfl : tracks = [] := by simpa using mapped.symm
    exact ⟨by simp [idsAtPositions, removalScan, scanWhile], fresh,
      by simpa [idsAtPositions, removalScan, scanWhile] using synced⟩
  | x :: xs, s, tracks, mapped, fresh, synced, bound => by
    cases finished : s.done with
    | true =>
      -- all wanted positions are found, so no wanted track is still to come
      have full : s.found.length = wanted.length := by simpa [finished] using synced.symm
      have nothingLeft : idsAtPositions wanted tracks = [] :=
        List.eq_nil_of_length_eq_zero (by omega)
      rw [removalScan_of_done track wanted finished, nothingLeft, List.append_nil, finished, full]
      exact ⟨rfl, fresh, by simp⟩
    | false =>
      rw [removalScan_cons track wanted finished]
      rw [List.zipIdx_cons, List.filterMap_cons] at mapped
      dsimp only at mapped
      cases mappedHere : track s.index x with
      | none =>
        rw [mappedHere] at mapped
        obtain ⟨sameFound, sameFailure, sameDone⟩ := removalStep_of_skip track wanted mappedHere
        have later := removalScan_of_tracks xs (removalStep track wanted s x) tracks
          (by rw [removalStep_index]; exact mapped) (by rw [sameFailure]; exact fresh)
          (by rw [sameDone, sameFound]; exact synced) (by rw [sameFound]; exact bound)
        rw [sameFound] at later
        exact later
      | some out =>
        rw [mappedHere] at mapped
        cases tracks with
        | nil => cases mapped
        | cons t tracks =>
          rw [List.map_cons, List.cons.injEq] at mapped
          obtain ⟨rfl, rest⟩ := mapped
          obtain ⟨grown, sameFailure, synced'⟩ := removalStep_of_track track wanted mappedHere
          rw [idsAtPositions_cons, List.length_append, ← Nat.add_assoc] at bound
          have later := removalScan_of_tracks xs (removalStep track wanted s x) tracks
            (by rw [removalStep_index]; exact rest) (by rw [sameFailure]; exact fresh) synced'
            (by rw [grown, List.length_append]; exact bound)
          rw [grown, List.append_assoc, ← idsAtPositions_cons] at later
          exact later

theorem removalScan_append (s : RemovalScan) (xs ys : List (Outcome Json)) :
    removalScan track wanted s (xs ++ ys) =
      removalScan track wanted (removalScan track wanted s xs) ys :=
  scanWhile_append xs ys s

/-- A failure ends the scan unless the reader is already done. -/
theorem removalScan_failure {s : RemovalScan} {e : ProviderError}
    (kept : track s.index (.error e) = some (.error e)) :
    (removalScan track wanted s [.error e]).found = s.found ∧
      (removalScan track wanted s [.error e]).failure = if s.done then s.failure else some e := by
  cases finished : s.done with
  | true =>
    rw [removalScan_of_done track wanted finished]
    exact ⟨rfl, rfl⟩
  | false =>
    rw [removalScan_cons track wanted finished]
    simp only [removalScan, scanWhile, removalStep, removalReader, kept]
    exact ⟨rfl, rfl⟩

/-- Over a listing of entries that are skipped or mapped to `tracks`, then possibly a
failure, the reader collects the ids of the tracks at wanted positions, and it fails only
if the listing fails before every wanted position is found. -/
theorem removalScan_listing (entries : List Json) (stop : Option ProviderError)
    (tracks : List Track)
    (mapped : ((entries.map .ok).zipIdx).filterMap (fun (x, i) => track i x) = tracks.map .ok)
    (kept : ∀ i e, stop = some e → track i (.error e) = some (.error e))
    (requested : wanted ≠ []) (bound : (idsAtPositions wanted tracks).length ≤ wanted.length) :
    (removalScan track wanted ⟨0, [], none, false⟩ (entries.map .ok ++ (stop.map .error).toList)).found =
        idsAtPositions wanted tracks ∧
      (removalScan track wanted ⟨0, [], none, false⟩
          (entries.map .ok ++ (stop.map .error).toList)).failure =
        if (idsAtPositions wanted tracks).length = wanted.length then none else stop := by
  have unfinished : (false : Bool) = (([] : List String).length == wanted.length) := by
    cases wanted with
    | nil => exact absurd rfl requested
    | cons k ks => rfl
  obtain ⟨found, fresh, finished⟩ := removalScan_of_tracks track wanted (entries.map .ok)
    ⟨0, [], none, false⟩ tracks mapped rfl unfinished (by simpa using bound)
  rw [List.nil_append] at found finished
  rw [removalScan_append]
  cases stop with
  | none =>
    refine ⟨by rw [Option.map_none, Option.toList_none]; exact found, ?_⟩
    rw [Option.map_none, Option.toList_none]
    simp only [removalScan, scanWhile]
    rw [← removalScan, fresh]
    split <;> rfl
  | some e =>
    obtain ⟨same, failed⟩ := removalScan_failure track wanted (kept _ e rfl)
    rw [Option.map_some, Option.toList_some, same, found, failed, finished, fresh]
    refine ⟨rfl, ?_⟩
    by_cases full : (idsAtPositions wanted tracks).length = wanted.length <;> simp [full]

end Scan

/-! ## Removing from a Deezer playlist -/

theorem idsAtPositions_eraseDups (positions : List Nat) (tracks : List Track) :
    idsAtPositions positions.eraseDups tracks = idsAtPositions positions tracks := by
  simp [idsAtPositions, List.mem_eraseDups]

namespace Session

/-- Below `2 ^ 32 - 1` entries, the entries of a playlist map to its placed tracks, every
one of them a track. -/
theorem playlistTrack_entries (s : Session) (entries : List Json)
    (small : entries.length < 2 ^ 32 - 1) :
    ((entries.map .ok).zipIdx).filterMap (fun (x, i) => s.playlistTrack i x) =
      ((placedTracks .playlist s.mapper.trackFromValue entries).filterMap Except.toOption).map .ok := by
  rw [map_ok_filterMap_toOption _ fun o member =>
      ok_of_mem_placedTracks s.mapper.trackFromValue_kind member,
    List.zipIdx_map, List.filterMap_map,
    ← zipIdx_filterMap_positionOf .playlist s.mapper.trackFromValue _ small]
  rfl

theorem playlistTrack_failure (s : Session) (i : Nat) {e : ProviderError}
    (exchange : e.IsExchangeFailure) : s.playlistTrack i (.error e) = some (.error e) :=
  skipMalformed_of_isExchangeFailure exchange

end Session

namespace Provider

/-- A playlist id that is not a 64-bit integer is refused before any request. -/
theorem removePlaylistTracks_of_invalid_id (p : Provider) (fuel : Nat) {playlistId : String}
    {e : ProviderError} (rejected : numericId playlistId = .error e) (positions : List Nat)
    (net : Http.Network) (log : List Http.Request) :
    Http.runFrom net log (p.removePlaylistTracks fuel playlistId positions) = (.error e, log) := by
  unfold removePlaylistTracks
  rw [Http.runFrom_bind, rejected, Http.runFrom_lift]

/-- Removing no positions sends no request. -/
theorem removePlaylistTracks_nil (p : Provider) (fuel : Nat) {playlistId : String}
    (numeric : numericId playlistId = .ok playlistId) (net : Http.Network)
    (log : List Http.Request) :
    Http.runFrom net log (p.removePlaylistTracks fuel playlistId []) = (.ok (), log) := by
  unfold removePlaylistTracks
  rw [Http.runFrom_bind, numeric, Http.runFrom_lift]
  rfl

/-- Removing tracks by position agrees with a complete scan on every playlist listing of
fewer than `2 ^ 32 - 1` raw entries, where positions are distinct. Reading the listing
sends only its page requests. When every requested position holds a track, or the listing
ends without failing, the ids of the tracks at requested positions, in listing order, go
in one removal request, and none is sent when there are no such tracks. When the listing
fails before every requested position is found, its failure is returned and nothing is
removed. -/
theorem removePlaylistTracks_agrees_with_scan (p : Provider) {s : Session}
    (hs : p.session = some s) (fuel : Nat) {playlistId : String}
    (numeric : numericId playlistId = .ok playlistId) {positions : List Nat}
    (requested : positions ≠ []) {net : Http.Network} {log log' : List Http.Request}
    {pages : List Page} {stop : Option ProviderError}
    (chain : (s.api.pages ("playlist/" ++ playlistId ++ "/tracks") []).Chain net
      (s.api.pages ("playlist/" ++ playlistId ++ "/tracks") []).first log pages stop log')
    (enough : pages.length < fuel) (small : (pages.flatMap Page.items).length < 2 ^ 32 - 1) :
    let tracks := (placedTracks .playlist s.mapper.trackFromValue
      (pages.flatMap Page.items)).filterMap Except.toOption
    ∃ sent : List Http.Request, (∀ r ∈ sent, r.method = .get) ∧
      ((∀ k ∈ positions, ∃ t ∈ tracks, t.playlistPosition = some k) ∨ stop = none →
        Http.runFrom net log (p.removePlaylistTracks fuel playlistId positions) =
          if idsAtPositions positions tracks = [] then (.ok (), log ++ sent)
          else Http.runFrom net (log ++ sent)
            (s.api.removePlaylistTracks playlistId (idsAtPositions positions tracks) >>=
              fun _ => pure ())) ∧
      (∀ e, stop = some e → (∃ k ∈ positions, ∀ t ∈ tracks, t.playlistPosition ≠ some k) →
        Http.runFrom net log (p.removePlaylistTracks fuel playlistId positions) =
          (.error e, log ++ sent)) := by
  intro tracks
  have session : p.session? = .ok s := by
    unfold session?
    rw [hs]
  have wanted : positions.eraseDups ≠ [] := by
    obtain ⟨k, ks, rfl⟩ := List.exists_cons_of_ne_nil requested
    rw [List.eraseDups_cons]
    exact List.cons_ne_nil _ _
  have quiet := removalReader_take s.playlistTrack positions.eraseDups
  -- the scan sends the page requests only, and reaches the fold over the listing
  obtain ⟨sent, grown, gets⟩ := Pages.readFrom_sendsOnly _ quiet
    (fun req => Api.pages_fetch_sendsOnly s.api _ _ req) fuel _ ⟨0, [], none, false⟩ net log
  have scanned : ((((s.api.pages ("playlist/" ++ playlistId ++ "/tracks") []).readFrom
      (removalReader s.playlistTrack positions.eraseDups) fuel
      (s.api.pages ("playlist/" ++ playlistId ++ "/tracks") []).first ⟨0, [], none, false⟩).run
        net).run log).1 =
      removalScan s.playlistTrack positions.eraseDups ⟨0, [], none, false⟩
        ((pages.flatMap Page.items).map .ok ++ (stop.map .error).toList) := by
    rw [← Pages.Chain.delivered_eq]
    exact Pages.readFrom_quiet_of_chain _ net quiet chain fuel _ enough
  -- positions below the bound are distinct, so the early stop loses no track
  obtain ⟨ks, positionsOf, increasing, -⟩ := placedInOrder_placedTracks .playlist
    s.mapper.trackFromValue s.mapper.trackFromValue_position (pages.flatMap Page.items)
  have placed : tracks.map Track.playlistPosition = ks.map some :=
    playlistPositions_of_placed positionsOf
  obtain ⟨found, failure⟩ := removalScan_listing s.playlistTrack positions.eraseDups
    (pages.flatMap Page.items) stop tracks (s.playlistTrack_entries _ small)
    (fun i e stopped => s.playlistTrack_failure i
      (chain.stop_kind (Api.pages_fetch_failsOnly _ _ _) e stopped))
    wanted (by
      rw [idsAtPositions_eraseDups]
      exact length_idsAtPositions_le positions placed increasing.nodup)
  rw [idsAtPositions_eraseDups] at found failure
  simp only [length_idsAtPositions_eq_iff positions placed increasing.nodup] at failure
  refine ⟨sent, gets, fun settled => ?_, fun e stopped missing => ?_⟩
  -- the removal itself: the id check, the scan, then at most the one removal request
  all_goals
    unfold removePlaylistTracks
    rw [Http.runFrom_bind, numeric, Http.runFrom_lift]
    dsimp only
    rw [if_neg (by rw [List.isEmpty_iff]; exact wanted), Http.runFrom_bind, session]
    dsimp only
    rw [Http.runFrom_ofExchange]
    dsimp only
    rw [Pages.read, grown, scanned, found, failure]
  · have noFailure : (if ∀ k ∈ positions, ∃ t ∈ tracks, t.playlistPosition = some k then none
        else stop) = none := by
      rcases settled with allFound | ended
      · rw [if_pos allFound]
      · rw [ended]
        split <;> rfl
    rw [noFailure]
    dsimp only
    by_cases empty : idsAtPositions positions tracks = []
    · rw [if_pos (List.isEmpty_iff.2 empty), if_pos empty]
      rfl
    · rw [if_neg (by rw [List.isEmpty_iff]; exact empty), if_neg empty, Http.runFrom_bind,
        Http.runFrom_lift]
  · have notAll : ¬ ∀ k ∈ positions, ∃ t ∈ tracks, t.playlistPosition = some k := by
      obtain ⟨k, wantedHere, absent⟩ := missing
      intro allFound
      obtain ⟨t, listed, at_k⟩ := allFound k wantedHere
      exact absent t listed at_k
    rw [if_neg notAll, stopped]
    rfl

end Provider

end Deezer

end MusicProviders
