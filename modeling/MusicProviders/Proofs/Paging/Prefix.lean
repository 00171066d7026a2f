import MusicProviders.Proofs.Paging.Removal

/-! # Reading the first elements of a listing

A reader that wants only the first `n` elements of a listing stops asking for pages once
it has them: a page is requested only while fewer than `n` elements have arrived, so none
at all when `n` is zero, and a failure on a later page is never seen. `Pages.Prefix` is a
run of such page requests with the network's answers, and along it:

* `Pages.take_of_prefix` — `Pages.take` returns the first `n` elements the run delivers,
  a failure included, and leaves the run's log;
* `Pages.Prefix.length_lt_of_failed` — a run ends in a failure only with fewer than `n`
  elements delivered, so `Pages.collectOutcomes_take_delivered` gives that failure, or
  else the first `n` entries of the run's pages;
* `Pages.length_take_le` — on every network, `Pages.take` returns at most `n` elements.
-/

namespace MusicProviders

namespace Pages

/-- A run of the page requests of a reader that wants `n` more elements of a listing, with
their answers, from the request `req` and the log `log`: a page is requested only while
elements are still wanted. It records the pages received, the failure that ended the run
(if one did), and the log after the last request. -/
inductive Prefix (p : Pages) (net : Http.Network) :
    Nat → PageRequest → List Http.Request → List Page → Option ProviderError →
      List Http.Request → Prop
  /-- No element is wanted: nothing is requested. -/
  | enough {req : PageRequest} {log : List Http.Request} : Prefix p net 0 req log [] none log
  /-- The page request fails: the failure ends the run. -/
  | fails {n : Nat} {req : PageRequest} {log log' : List Http.Request} {e : ProviderError} :
      Http.runFrom net log (p.fetch req) = (.error e, log') →
        Prefix p net (n + 1) req log [] (some e) log'
  /-- The page names no next URL: the run ends with it. -/
  | last {n : Nat} {req : PageRequest} {log log' : List Http.Request} {page : Page} :
      Http.runFrom net log (p.fetch req) = (.ok page, log') → page.next = none →
        Prefix p net (n + 1) req log [page] none log'
  /-- The page names the next one: the elements still wanted after this page are read from
  there, and none are when the page holds enough. -/
  | next {n : Nat} {req : PageRequest} {log log₁ log' : List Http.Request} {page : Page}
      {url : String} {pages : List Page} {stop : Option ProviderError} :
      Http.runFrom net log (p.fetch req) = (.ok page, log₁) → page.next = some url →
        Prefix p net (n + 1 - page.items.length) ⟨url, []⟩ log₁ pages stop log' →
          Prefix p net (n + 1) req log (page :: pages) stop log'

/-! ## The reader of the first `n` elements -/

theorem upTo_take (n : Nat) (acc : List (Outcome Json)) (x : Outcome Json) :
    (Reader.upTo n).take acc x = pure (acc ++ [x]) :=
  rfl

/-- Folding elements into the reader of the first `n` keeps the first of them that fit. -/
theorem scanWhile_upTo (n : Nat) :
    ∀ (xs acc : List (Outcome Json)), acc.length ≤ n →
      scanWhile (Reader.upTo n).wants (fun s x => s ++ [x]) acc xs =
        acc ++ xs.take (n - acc.length)
  | [], acc, _ => by simp [scanWhile]
  | x :: xs, acc, fits => by
    by_cases room : acc.length < n
    case pos =>
      have more : (Reader.upTo n).wants acc = true := decide_eq_true room
      rw [scanWhile, if_pos more, scanWhile_upTo n xs (acc ++ [x]) (by simp; omega)]
      obtain ⟨k, hk⟩ : ∃ k, n - acc.length = k + 1 := ⟨n - acc.length - 1, by omega⟩
      simp only [List.length_append, List.length_singleton, hk, List.take_succ_cons,
        List.append_assoc, List.cons_append, List.nil_append]
      congr 3
      omega
    case neg =>
      have full : (Reader.upTo n).wants acc = false := decide_eq_false room
      rw [scanWhile_of_done full, Nat.sub_eq_zero_of_le (by omega), List.take_zero,
        List.append_nil]

theorem feed_upTo (net : Http.Network) (n : Nat) (items : List Json) {acc : List (Outcome Json)}
    (fits : acc.length ≤ n) (log : List Http.Request) :
    (((Reader.upTo n).feed acc items).run net).run log =
      (acc ++ (items.map .ok).take (n - acc.length), log) := by
  rw [feed_quiet net (upTo_take n) items acc log, scanWhile_upTo n _ acc fits]

/-! ## Along a run -/

theorem readFrom_upTo_of_prefix (p : Pages) (net : Http.Network) {m : Nat} {req : PageRequest}
    {log log' : List Http.Request} {pages : List Page} {stop : Option ProviderError}
    (run : p.Prefix net m req log pages stop log') :
    ∀ (fuel n : Nat) (acc : List (Outcome Json)), acc.length + m = n → pages.length < fuel →
      ((p.readFrom (Reader.upTo n) fuel req acc).run net).run log =
        (acc ++ (Chain.delivered pages stop).take m, log') := by
  -- the reader wants more exactly while the run still counts elements to come; each page
  -- request spends one unit of fuel
  induction run with
  | enough =>
    intro fuel n acc counted _
    have full : (Reader.upTo n).wants acc = false := decide_eq_false (by omega)
    rw [readFrom_run_done p net fuel _ full, List.take_zero, List.append_nil]
  | fails fetched =>
    intro fuel n acc counted enough
    obtain ⟨fuel, rfl⟩ : ∃ f, fuel = f + 1 := ⟨fuel - 1, by omega⟩
    have more : (Reader.upTo n).wants acc = true := decide_eq_true (by omega)
    rw [readFrom_run_error p _ net more fetched, upTo_take]
    simp [Chain.delivered]
    rfl
  | last fetched final =>
    intro fuel n acc counted enough
    obtain ⟨fuel, rfl⟩ : ∃ f, fuel = f + 1 := ⟨fuel - 1, by omega⟩
    have more : (Reader.upTo n).wants acc = true := decide_eq_true (by omega)
    rw [readFrom_run_last p _ net more fetched final, feed_upTo net n _ (by omega)]
    simp [Chain.delivered, ← counted]
  | @next k _ _ _ _ page _ pages _ fetched following _ ih =>
    intro fuel n acc counted enough
    obtain ⟨fuel, rfl⟩ : ∃ f, fuel = f + 1 := ⟨fuel - 1, by omega⟩
    have more : (Reader.upTo n).wants acc = true := decide_eq_true (by omega)
    have shorter : pages.length < fuel := by simpa using enough
    -- after the page, the elements still wanted are those the rest of the run counts
    have recounted : (acc ++ (page.items.map Except.ok).take (n - acc.length)).length +
        (k + 1 - page.items.length) = n := by
      simp only [List.length_append, List.length_take, List.length_map]
      omega
    rw [readFrom_run_next p _ net more fetched following, feed_upTo net n _ (by omega),
      ih fuel n _ recounted shorter, Chain.delivered_cons, List.take_append,
      List.append_assoc, List.length_map, ← counted, Nat.add_sub_cancel_left]

theorem take_of_prefix {p : Pages} {net : Http.Network} {n : Nat} {log log' : List Http.Request}
    {pages : List Page} {stop : Option ProviderError}
    (run : p.Prefix net n p.first log pages stop log') {fuel : Nat} (enough : pages.length < fuel) :
    ((p.take fuel n).run net).run log = ((Chain.delivered pages stop).take n, log') := by
  rw [take, read, readFrom_upTo_of_prefix p net run fuel n [] (Nat.zero_add n) enough,
    List.nil_append]

/-- A run ends in a failure only while elements are still wanted: its pages hold fewer
than it counted. -/
theorem Prefix.length_lt_of_failed {p : Pages} {net : Http.Network} {m : Nat}
    {req : PageRequest} {log log' : List Http.Request} {pages : List Page}
    {stop : Option ProviderError} (run : p.Prefix net m req log pages stop log') :
    ∀ e, stop = some e → (pages.flatMap Page.items).length < m := by
  induction run with
  | enough => rintro e ⟨⟩
  | fails => intro _ _; simp
  | last => rintro e ⟨⟩
  | next _ _ _ ih =>
    intro e failed
    have rest := ih e failed
    simp only [List.flatMap_cons, List.length_append]
    omega

/-- The first `n` elements of a run are its failure, or else the first `n` entries of its
pages. -/
theorem collectOutcomes_take_delivered {p : Pages} {net : Http.Network} {n : Nat}
    {req : PageRequest} {log log' : List Http.Request} {pages : List Page}
    {stop : Option ProviderError} (run : p.Prefix net n req log pages stop log') :
    collectOutcomes ((Chain.delivered pages stop).take n) =
      match stop with
      | some e => .error e
      | none => .ok ((pages.flatMap Page.items).take n) := by
  rw [Chain.delivered_eq]
  cases stop with
  | none =>
    rw [Option.map_none, Option.toList_none, List.append_nil, ← List.map_take]
    simpa using collectOutcomes_delivered none ((pages.flatMap Page.items).take n)
  | some e =>
    -- the failure comes before the `n`-th element, so nothing is cut
    have short := run.length_lt_of_failed e rfl
    have whole : ((pages.flatMap Page.items).map Except.ok ++
        ((some e).map Except.error).toList).length ≤ n := by
      simp only [List.length_append, List.length_map, Option.map_some, Option.toList_some,
        List.length_singleton]
      omega
    rw [List.take_of_length_le whole]
    exact collectOutcomes_delivered (some e) _

/-! ## On every network -/

theorem length_readFrom_upTo_le (p : Pages) (net : Http.Network) (n : Nat) :
    ∀ (fuel : Nat) (req : PageRequest) (acc : List (Outcome Json)) (log : List Http.Request),
      acc.length ≤ n →
        (((p.readFrom (Reader.upTo n) fuel req acc).run net).run log).1.length ≤ n
  | 0, _, _, _, fits => fits
  | fuel + 1, req, acc, log, fits => by
    by_cases room : acc.length < n
    case neg =>
      rw [readFrom_run_done p net _ _ (decide_eq_false room)]
      exact fits
    case pos =>
      have more : (Reader.upTo n).wants acc = true := decide_eq_true room
      -- the failure of a page request is taken only while there is room for it
      rcases fetched : Http.runFrom net log (p.fetch req) with ⟨_ | page, log₁⟩
      case error e =>
        rw [readFrom_run_error p _ net more fetched, upTo_take]
        show (acc ++ [Except.error e]).length ≤ n
        simpa using room
      case ok =>
        have fed : (acc ++ (page.items.map Except.ok).take (n - acc.length)).length ≤ n := by
          simp only [List.length_append, List.length_take, List.length_map]
          omega
        cases following : page.next with
        | none =>
          rw [readFrom_run_last p _ net more fetched following, feed_upTo net n _ fits]
          exact fed
        | some url =>
          rw [readFrom_run_next p _ net more fetched following, feed_upTo net n _ fits]
          exact length_readFrom_upTo_le p net n fuel _ _ _ fed

theorem length_take_le (p : Pages) (net : Http.Network) (fuel n : Nat)
    (log : List Http.Request) : (((p.take fuel n).run net).run log).1.length ≤ n :=
  length_readFrom_upTo_le p net n fuel p.first [] log (Nat.zero_le n)

end Pages

end MusicProviders
