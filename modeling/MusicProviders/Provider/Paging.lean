import MusicProviders.Http.Exchange

/-! # Paged listings

Vendors hand out long listings page by page: a page holds elements and, unless it is
the last, the URL of the next page. A listing is read lazily: the next page is requested
only when the reader wants an element beyond those it has received, so a reader that
stops early causes no further requests. A failed page request ends the listing, and the
reader receives the failure as its last element.

* `PageRequest`, `Page`, `Pages` — where a page is, what it holds, and how a listing
  fetches its pages (the first one given, each later one at the previous page's next
  URL with no added parameters).
* `Reader` — whether a reader wants another element, and how it takes one.
* `Pages.read` — feed a listing to a reader; at most `fuel` pages are requested.
* `Pages.all`, `Pages.take` — every element, or the first `n`.
* `collectOutcomes` — all the values of a list of outcomes, or its first failure.
-/

namespace MusicProviders

/-- Where a page is: a URL and query parameters to add to it. -/
structure PageRequest where
  url : String
  params : List (String × String)
deriving DecidableEq, Inhabited

/-- The elements of a page and the URL of the next page. -/
structure Page where
  items : List Json
  next : Option String
deriving DecidableEq, Inhabited

/-- A paged listing: its first page and how a page is fetched. -/
structure Pages where
  first : PageRequest
  fetch : PageRequest → Http Page

/-- A reader of a listing with state `σ`. Taking an element may itself exchange
requests (a reader that fetches each entry's details does), and those happen before the
next page is requested. -/
structure Reader (σ : Type) where
  /-- Whether the reader asks for another element. -/
  wants : σ → Bool
  /-- Take an element, or the failure that ends the listing. -/
  take : σ → Outcome Json → Exchange σ

namespace Reader

/-- Give the reader the elements of a page while it asks for them. -/
def feed {σ : Type} (r : Reader σ) : σ → List Json → Exchange σ
  | s, [] => pure s
  | s, x :: xs => if r.wants s then do feed r (← r.take s (.ok x)) xs else pure s

/-- The reader that keeps every element. -/
def all : Reader (List (Outcome Json)) := ⟨fun _ => true, fun s x => pure (s ++ [x])⟩

/-- The reader that keeps the first `n` elements. -/
def upTo (n : Nat) : Reader (List (Outcome Json)) :=
  ⟨fun s => s.length < n, fun s x => pure (s ++ [x])⟩

end Reader

namespace Pages

/-- Feed the pages from `req` on to a reader in state `s`, with at most `fuel` more
page requests. -/
def readFrom {σ : Type} (p : Pages) (r : Reader σ) : Nat → PageRequest → σ → Exchange σ
  | 0, _, s => pure s
  | fuel + 1, req, s =>
    if !r.wants s then pure s
    else do
      match ← Http.attempt (p.fetch req) with
      | .error e => r.take s (.error e)
      | .ok page =>
        let s ← r.feed s page.items
        match page.next with
        | none => pure s
        | some url => readFrom p r fuel ⟨url, []⟩ s

/-- Feed a listing to a reader, requesting at most `fuel` pages. -/
def read {σ : Type} (p : Pages) (fuel : Nat) (r : Reader σ) (init : σ) : Exchange σ :=
  p.readFrom r fuel p.first init

/-- Every element of a listing, a failure last. -/
def all (p : Pages) (fuel : Nat) : Exchange (List (Outcome Json)) := p.read fuel Reader.all []

/-- The first `n` elements of a listing. -/
def take (p : Pages) (fuel : Nat) (n : Nat) : Exchange (List (Outcome Json)) :=
  p.read fuel (Reader.upTo n) []

/-- A bound on the pages of one listing, far beyond any real listing. -/
def defaultFuel : Nat := 100000

end Pages

/-- The values of a list of outcomes, or the first failure among them. -/
def collectOutcomes {α : Type} : List (Outcome α) → Outcome (List α)
  | [] => .ok []
  | .error e :: _ => .error e
  | .ok a :: rest => (collectOutcomes rest).map (a :: ·)

end MusicProviders
