import MusicProviders.Proofs.Paging.Chain
import MusicProviders.Soundcloud.Provider

/-! # Listings that fetch each entry

Some listings fetch every entry of a page in full before they ask for the next page, so
the network sees page requests and entry requests interleaved. A walk records such a run:

* `Http.runEach` — run exchanges one after another, each from the log the previous one
  left, keeping every outcome; `Http.mapM_attempt` says that mapping a list through
  attempted exchanges is exactly that.
* `Pages.Walk` — a chain of page answers where, after each page, its entries are fetched
  in order; it records the outcome of every entry.
* `Pages.readFrom_entryReader_of_walk` — the reader that fetches each entry returns,
  along a walk, every entry's outcome that is not malformed, in order, then the failure
  that ended the walk unless it is malformed.
* `Pages.ListsEntries` — that promise for a listing, on every walk;
  `listsEntries_of_fetch` proves it for every listing whose page requests never fail as
  invalid data.
-/

namespace MusicProviders

namespace Http

/-- Run exchanges in order, each from the log the previous one left: their outcomes and
the final log. -/
def runEach {α : Type} (net : Network) :
    List (Http α) → List Request → List (Outcome α) × List Request
  | [], log => ([], log)
  | x :: xs, log =>
    ((runFrom net log x).1 :: (runEach net xs (runFrom net log x).2).1,
      (runEach net xs (runFrom net log x).2).2)

@[simp] theorem runEach_nil {α : Type} (net : Network) (log : List Request) :
    runEach net ([] : List (Http α)) log = ([], log) :=
  rfl

theorem runEach_cons {α : Type} (net : Network) (x : Http α) (xs : List (Http α))
    (log : List Request) :
    runEach net (x :: xs) log =
      ((runFrom net log x).1 :: (runEach net xs (runFrom net log x).2).1,
        (runEach net xs (runFrom net log x).2).2) :=
  rfl

@[simp] theorem length_runEach {α : Type} (net : Network) :
    ∀ (xs : List (Http α)) (log : List Request), (runEach net xs log).1.length = xs.length
  | [], _ => rfl
  | _ :: xs, _ => by rw [runEach_cons, List.length_cons, length_runEach net xs]; rfl

theorem mapM_attempt {α β : Type} (net : Network) (f : β → Http α) :
    ∀ (l : List β) (log : List Request),
      ((l.mapM fun b => attempt (f b)).run net).run log = runEach net (l.map f) log
  | [], log => rfl
  | b :: l, log => by
    simp only [List.mapM_cons, List.map_cons, ReaderT.run_bind, StateT.run_bind, run_attempt,
      mapM_attempt net f l, runEach_cons]
    rfl

end Http

namespace Soundcloud

section Reader

variable {α : Type} (fetch : Json → Http α) (net : Http.Network)

theorem entryReader_take (acc : List (Outcome α)) (item : Outcome Json) (log : List Http.Request) :
    (((entryReader fetch).take acc item).run net).run log =
      (acc ++ (skipMalformed (Http.runFrom net log (do fetch (← Http.lift item))).1).toList,
        (Http.runFrom net log (do fetch (← Http.lift item))).2) := by
  simp only [entryReader, ReaderT.run_bind, StateT.run_bind, Http.run_attempt]
  obtain ⟨r, log'⟩ := Http.runFrom net log (do fetch (← Http.lift item))
  cases kept : skipMalformed r <;> simp [kept, Functor.map]

theorem feed_entryReader :
    ∀ (items : List Json) (acc : List (Outcome α)) (log : List Http.Request),
      (((entryReader fetch).feed acc items).run net).run log =
        (acc ++ (Http.runEach net (items.map fetch) log).1.filterMap skipMalformed,
          (Http.runEach net (items.map fetch) log).2)
  | [], acc, log => by
    simp only [Reader.feed, List.map_nil, Http.runEach_nil, List.filterMap_nil, List.append_nil]
    rfl
  | item :: items, acc, log => by
    show ((do Reader.feed (entryReader fetch) (← (entryReader fetch).take acc (.ok item)) items :
      Exchange _).run net).run log = _
    -- the attempted fetch of an element received is the fetch itself
    have received : (do fetch (← Http.lift (.ok item : Outcome Json))) = fetch item := rfl
    simp only [ReaderT.run_bind, StateT.run_bind, entryReader_take, received,
      feed_entryReader items, List.map_cons, Http.runEach_cons, List.filterMap_cons]
    obtain ⟨r, log₁⟩ := Http.runFrom net log (fetch item)
    show (acc ++ (skipMalformed r).toList ++ _, _) = _
    cases skipMalformed r <;> simp

end Reader

end Soundcloud

namespace Pages

/-- A walk through a listing whose entries are fetched one by one: a chain of answers to
the page requests, where after each page its entries are fetched in order. It records the
pages, the outcome of every entry's fetch in order, the failure that ended the walk (if
one did) and the final log. -/
inductive Walk (p : Pages) (net : Http.Network) {α : Type} (fetch : Json → Http α) :
    PageRequest → List Http.Request → List Page → List (Outcome α) →
      Option ProviderError → List Http.Request → Prop
  /-- The page request fails: the failure ends the walk. -/
  | fails {req : PageRequest} {log log' : List Http.Request} {e : ProviderError} :
      Http.runFrom net log (p.fetch req) = (.error e, log') →
        Walk p net fetch req log [] [] (some e) log'
  /-- The page names no next URL: its entries are fetched and the walk ends. -/
  | last {req : PageRequest} {log log₁ : List Http.Request} {page : Page} :
      Http.runFrom net log (p.fetch req) = (.ok page, log₁) → page.next = none →
        Walk p net fetch req log [page] (Http.runEach net (page.items.map fetch) log₁).1 none
          (Http.runEach net (page.items.map fetch) log₁).2
  /-- The page names the next URL: its entries are fetched, then the next page. -/
  | next {req : PageRequest} {log log₁ log' : List Http.Request} {page : Page} {url : String}
      {pages : List Page} {outs : List (Outcome α)} {stop : Option ProviderError} :
      Http.runFrom net log (p.fetch req) = (.ok page, log₁) → page.next = some url →
        Walk p net fetch ⟨url, []⟩ (Http.runEach net (page.items.map fetch) log₁).2 pages outs
          stop log' →
        Walk p net fetch req log (page :: pages)
          ((Http.runEach net (page.items.map fetch) log₁).1 ++ outs) stop log'

namespace Walk

variable {p : Pages} {net : Http.Network} {α : Type} {fetch : Json → Http α}

/-- A walk has one outcome for every entry of its pages. -/
theorem length_outs {req : PageRequest} {log log' : List Http.Request} {pages : List Page}
    {outs : List (Outcome α)} {stop : Option ProviderError}
    (walk : p.Walk net fetch req log pages outs stop log') :
    outs.length = (pages.flatMap Page.items).length := by
  induction walk with
  | fails => rfl
  | last => simp
  | next _ _ _ ih => simp [ih]

theorem stop_kind {P : ProviderError → Prop} (fails : ∀ req, Http.FailsOnly P (p.fetch req))
    {req : PageRequest} {log log' : List Http.Request} {pages : List Page}
    {outs : List (Outcome α)} {stop : Option ProviderError}
    (walk : p.Walk net fetch req log pages outs stop log') : ∀ e, stop = some e → P e := by
  induction walk with
  | @fails req log _ e fetched =>
    rintro e' ⟨⟩
    exact fails req net log e (by rw [fetched])
  | last => rintro e ⟨⟩
  | next _ _ _ ih => exact ih

end Walk

theorem readFrom_entryReader_of_walk (p : Pages) (net : Http.Network) {α : Type}
    (fetch : Json → Http α) {req : PageRequest} {log log' : List Http.Request}
    {pages : List Page} {outs : List (Outcome α)} {stop : Option ProviderError}
    (walk : p.Walk net fetch req log pages outs stop log') :
    ∀ (fuel : Nat) (acc : List (Outcome α)), pages.length < fuel →
      ((p.readFrom (Soundcloud.entryReader fetch) fuel req acc).run net).run log =
        (acc ++ (outs ++ (stop.map Except.error).toList).filterMap skipMalformed, log') := by
  -- as for a chain: one unit of fuel per page request; the entries of a page are fetched
  -- by the reader before the next page is requested
  induction walk with
  | @fails _ _ _ e fetched =>
    intro fuel acc enough
    obtain ⟨fuel, rfl⟩ : ∃ f, fuel = f + 1 := ⟨fuel - 1, by omega⟩
    rw [readFrom_run_error p _ net rfl fetched, Soundcloud.entryReader_take]
    rfl
  | last fetched final =>
    intro fuel acc enough
    obtain ⟨fuel, rfl⟩ : ∃ f, fuel = f + 1 := ⟨fuel - 1, by omega⟩
    rw [readFrom_run_last p _ net rfl fetched final, Soundcloud.feed_entryReader]
    simp
  | @next _ _ _ _ _ _ pages _ _ fetched more _ ih =>
    intro fuel acc enough
    obtain ⟨fuel, rfl⟩ : ∃ f, fuel = f + 1 := ⟨fuel - 1, by omega⟩
    have shorter : pages.length < fuel := by simpa using enough
    rw [readFrom_run_next p _ net rfl fetched more, Soundcloud.feed_entryReader, ih fuel _ shorter]
    simp [List.filterMap_append]

/-- What a listing that fetches each entry promises for the pages `p`: on every network,
from every log, along every walk of fewer than `fuel` pages, it returns the outcome of
every entry's fetch in order, those that fail as invalid data left out, followed by the
failure that ended the walk, and leaves the walk's log. -/
def ListsEntries {α : Type} (listing : Exchange (List (Outcome α))) (p : Pages)
    (fetch : Json → Http α) (fuel : Nat) : Prop :=
  ∀ (net : Http.Network) (log : List Http.Request) (pages : List Page) (outs : List (Outcome α))
    (stop : Option ProviderError) (log' : List Http.Request),
    p.Walk net fetch p.first log pages outs stop log' → pages.length < fuel →
      (listing.run net).run log = (outs.filterMap skipMalformed ++ (stop.map .error).toList, log')

theorem listsEntries_of_fetch {α : Type} {p : Pages} (fetch : Json → Http α) (fuel : Nat)
    (fails : ∀ req, Http.FailsOnly ProviderError.IsExchangeFailure (p.fetch req)) :
    ListsEntries (p.read fuel (Soundcloud.entryReader fetch) []) p fetch fuel := by
  intro net log pages outs stop log' walk enough
  rw [read, readFrom_entryReader_of_walk p net fetch walk fuel [] enough, List.nil_append,
    List.filterMap_append]
  congr 2
  cases stop with
  | none => rfl
  | some e => simp [skipMalformed_of_isExchangeFailure (walk.stop_kind fails e rfl)]

end Pages

end MusicProviders
