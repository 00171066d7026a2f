import MusicProviders.Proofs.Http.Failures
import MusicProviders.Provider.Paging

/-! # Reading a listing along a chain of answers

A paged listing's pages are whatever the network answers, one request after another: the
first page at the listing's own request, each later one at the URL the previous page
names. `Pages.Chain` is such a sequence of answers, up to the page that names no next
URL or the request that fails. Along a chain:

* `Pages.all_of_chain` — reading every element returns the elements of the pages in
  order, then the failure that ended the chain, if any; the log is the chain's log.
* `Chain.stop_kind` — the failure that ends a chain is one the page requests can fail
  with.
* `mapListing_of_pages` — mapping such a listing item by item keeps the mapped elements
  whose mapping does not fail as invalid data, and keeps the final failure whenever it is
  not invalid data.
* `Pages.ListsPages` — what a mapped listing promises: on every chain of answers it
  returns exactly that; `listsPages_of_fetch` proves it of the mapped reading of every
  listing whose page requests never fail as invalid data.
-/

namespace MusicProviders

namespace Pages

/-- A chain of answers to a listing's page requests, from the request `req` and the log
`log`: the pages received, the failure that ended the chain (if one did), and the log
after the last request. -/
inductive Chain (p : Pages) (net : Http.Network) :
    PageRequest → List Http.Request → List Page → Option ProviderError →
      List Http.Request → Prop
  /-- The page request fails: no page, and the failure ends the chain. -/
  | fails {req : PageRequest} {log log' : List Http.Request} {e : ProviderError} :
      Http.runFrom net log (p.fetch req) = (.error e, log') → Chain p net req log [] (some e) log'
  /-- The page names no next URL: the chain ends with it. -/
  | last {req : PageRequest} {log log' : List Http.Request} {page : Page} :
      Http.runFrom net log (p.fetch req) = (.ok page, log') → page.next = none →
        Chain p net req log [page] none log'
  /-- The page names the URL of the next one, requested with no added parameters. -/
  | next {req : PageRequest} {log log₁ log' : List Http.Request} {page : Page} {url : String}
      {pages : List Page} {stop : Option ProviderError} :
      Http.runFrom net log (p.fetch req) = (.ok page, log₁) → page.next = some url →
        Chain p net ⟨url, []⟩ log₁ pages stop log' →
          Chain p net req log (page :: pages) stop log'

/-- The elements a chain delivers: those of its pages in order, then its failure. -/
def Chain.delivered (pages : List Page) (stop : Option ProviderError) : List (Outcome Json) :=
  pages.flatMap (fun page => page.items.map .ok) ++ (stop.map .error).toList

theorem feed_all (net : Http.Network) :
    ∀ (items : List Json) (acc : List (Outcome Json)) (log : List Http.Request),
      ((Reader.all.feed acc items).run net).run log = (acc ++ items.map .ok, log)
  | [], acc, log => by
    simp only [Reader.feed, List.map_nil, List.append_nil]
    rfl
  | item :: items, acc, log => by
    show ((Reader.all.feed (acc ++ [.ok item]) items).run net).run log = _
    rw [feed_all net items]
    simp

/-! ## One page request -/

section Steps

variable {σ : Type} (p : Pages) (r : Reader σ) (net : Http.Network)
variable {fuel : Nat} {req : PageRequest} {s : σ} {log log₁ : List Http.Request}

theorem readFrom_run_error {e : ProviderError} (wants : r.wants s = true)
    (fetched : Http.runFrom net log (p.fetch req) = (.error e, log₁)) :
    ((p.readFrom r (fuel + 1) req s).run net).run log =
      ((r.take s (.error e)).run net).run log₁ := by
  simp only [readFrom, wants, Bool.not_true, Bool.false_eq_true, if_false, ReaderT.run_bind,
    StateT.run_bind, Http.run_attempt, fetched]
  rfl

theorem readFrom_run_last {page : Page} (wants : r.wants s = true)
    (fetched : Http.runFrom net log (p.fetch req) = (.ok page, log₁)) (final : page.next = none) :
    ((p.readFrom r (fuel + 1) req s).run net).run log =
      ((r.feed s page.items).run net).run log₁ := by
  -- the `match` on the next URL only reduces once the page's own field is the constructor
  obtain ⟨items, next⟩ := page
  obtain rfl : next = none := final
  simp only [readFrom, wants, Bool.not_true, Bool.false_eq_true, if_false, ReaderT.run_bind,
    StateT.run_bind, Http.run_attempt, fetched]
  rfl

theorem readFrom_run_next {page : Page} {url : String} (wants : r.wants s = true)
    (fetched : Http.runFrom net log (p.fetch req) = (.ok page, log₁))
    (more : page.next = some url) :
    ((p.readFrom r (fuel + 1) req s).run net).run log =
      ((p.readFrom r fuel ⟨url, []⟩ (((r.feed s page.items).run net).run log₁).1).run net).run
        (((r.feed s page.items).run net).run log₁).2 := by
  obtain ⟨items, next⟩ := page
  obtain rfl : next = some url := more
  simp only [readFrom, wants, Bool.not_true, Bool.false_eq_true, if_false, ReaderT.run_bind,
    StateT.run_bind, Http.run_attempt, fetched]
  rfl

end Steps

/-! ## A whole chain -/

theorem readFrom_all_of_chain (p : Pages) (net : Http.Network) {req : PageRequest}
    {log log' : List Http.Request} {pages : List Page} {stop : Option ProviderError}
    (chain : p.Chain net req log pages stop log') :
    ∀ (fuel : Nat) (acc : List (Outcome Json)), pages.length < fuel →
      ((p.readFrom Reader.all fuel req acc).run net).run log =
        (acc ++ Chain.delivered pages stop, log') := by
  -- each page request spends one unit of fuel, and the chain has one more request than
  -- it has pages beyond the first
  induction chain with
  | fails fetched =>
    intro fuel acc enough
    obtain ⟨fuel, rfl⟩ : ∃ f, fuel = f + 1 := ⟨fuel - 1, by omega⟩
    rw [readFrom_run_error p Reader.all net rfl fetched]
    simp [Reader.all, Chain.delivered]
    rfl
  | last fetched final =>
    intro fuel acc enough
    obtain ⟨fuel, rfl⟩ : ∃ f, fuel = f + 1 := ⟨fuel - 1, by omega⟩
    rw [readFrom_run_last p Reader.all net rfl fetched final, feed_all]
    simp [Chain.delivered]
  | @next _ _ _ _ _ _ pages _ fetched more _ ih =>
    intro fuel acc enough
    obtain ⟨fuel, rfl⟩ : ∃ f, fuel = f + 1 := ⟨fuel - 1, by omega⟩
    have shorter : pages.length < fuel := by simpa using enough
    rw [readFrom_run_next p Reader.all net rfl fetched more, feed_all, ih fuel _ shorter]
    simp [Chain.delivered]

theorem all_of_chain {p : Pages} {net : Http.Network} {log log' : List Http.Request}
    {pages : List Page} {stop : Option ProviderError}
    (chain : p.Chain net p.first log pages stop log')
    {fuel : Nat} (enough : pages.length < fuel) :
    ((p.all fuel).run net).run log = (Chain.delivered pages stop, log') := by
  rw [all, read, readFrom_all_of_chain p net chain fuel [] enough, List.nil_append]

theorem Chain.stop_kind {p : Pages} {net : Http.Network} {P : ProviderError → Prop}
    (fails : ∀ req, Http.FailsOnly P (p.fetch req)) {req : PageRequest}
    {log log' : List Http.Request} {pages : List Page} {stop : Option ProviderError}
    (chain : p.Chain net req log pages stop log') : ∀ e, stop = some e → P e := by
  induction chain with
  | @fails req log _ e fetched =>
    rintro e' ⟨⟩
    exact fails req net log e (by rw [fetched])
  | last => rintro e ⟨⟩
  | next _ _ _ ih => exact ih

end Pages

theorem mapListing_of_pages {α : Type} (parse : Json → Outcome α) (pages : List Page)
    {stop : Option ProviderError} (stopKind : ∀ e, stop = some e → e.IsExchangeFailure) :
    mapListing parse (Pages.Chain.delivered pages stop) =
      (pages.flatMap Page.items).filterMap (fun v => skipMalformed (parse v)) ++
        (stop.map .error).toList := by
  rw [mapListing, Pages.Chain.delivered, List.filterMap_append]
  congr 1
  · simp only [List.filterMap_flatMap, List.filterMap_map, Function.comp_def]
    rfl
  · cases stop with
    | none => rfl
    | some e =>
      simp [Except.bind, skipMalformed_of_isExchangeFailure (stopKind e rfl)]

namespace Pages

/-- What a listing mapped item by item promises for the pages `p`: on every network, from
every log, along every chain of answers of fewer than `fuel` pages, it returns the mapped
elements of the pages in order, those whose mapping fails as invalid data left out,
followed by the failure that ended the chain, and leaves the chain's log. -/
def ListsPages {α : Type} (listing : Exchange (List (Outcome α))) (p : Pages)
    (parse : Json → Outcome α) (fuel : Nat) : Prop :=
  ∀ (net : Http.Network) (log : List Http.Request) (pages : List Page)
    (stop : Option ProviderError) (log' : List Http.Request),
    p.Chain net p.first log pages stop log' → pages.length < fuel →
      (listing.run net).run log =
        ((pages.flatMap Page.items).filterMap (fun v => skipMalformed (parse v)) ++
          (stop.map .error).toList, log')

theorem listsPages_of_fetch {α : Type} {p : Pages} (parse : Json → Outcome α) (fuel : Nat)
    (fails : ∀ req, Http.FailsOnly ProviderError.IsExchangeFailure (p.fetch req)) :
    ListsPages (do let items ← p.all fuel; pure (mapListing parse items)) p parse fuel := by
  intro net log pages stop log' chain enough
  have read := all_of_chain chain enough
  simp only [ReaderT.run_bind, StateT.run_bind, read]
  rw [← mapListing_of_pages parse pages (chain.stop_kind fails)]
  rfl

end Pages

end MusicProviders
