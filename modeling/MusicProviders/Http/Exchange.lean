import MusicProviders.Http.Url
import MusicProviders.Http.Status
import MusicProviders.Json.Parse
import MusicProviders.Json.Print
import MusicProviders.Provider.Error
import MusicProviders.Text.Hex
import MusicProviders.Media.Basic

/-! # Talking to a network

Providers reach their vendors through HTTP. The network is a function that answers each
request from the requests answered before it, so a computation that sends requests can
be run, and reasoned about, against any server behaviour.

* `Http.Request`, `Http.Response` — what is sent and what comes back.
* `Http.Network` — answers requests; `none` is a connection that cannot be made.
  `Network.unreachable` answers nothing.
* `Exchange` — computations that read the network and keep the log of the requests it
  answered; `Http` adds failure with a `ProviderError`, and the log survives failure.
* `Http.send` — send one request: a header value with a control character or a URL
  without a host is refused before sending (`builder error`), and a request the network
  does not answer fails with `error sending request for url (URL)`.
* `Response.json`, `Response.text` — read a body as JSON (a body that is not JSON is
  `error decoding response body`) or as text.
-/

namespace MusicProviders

namespace Http

/-- Request method. -/
inductive Method
  | get | post | delete
deriving DecidableEq, Repr, Inhabited

/-- Upper-case method name. -/
def Method.name : Method → String
  | .get => "GET"
  | .post => "POST"
  | .delete => "DELETE"

/-- A request as the client sends it. -/
structure Request where
  method : Method
  url : String
  /-- Header names and values, in the order they were set. -/
  headers : List (String × String)
  /-- The body; empty when there is none. -/
  body : Bytes
deriving DecidableEq, Inhabited

/-- A request with no headers and no body. -/
def Request.plain (method : Method) (url : String) : Request := ⟨method, url, [], []⟩

/-- The request with one more header. -/
def Request.withHeader (r : Request) (name value : String) : Request :=
  { r with headers := r.headers ++ [(name, value)] }

/-- The request with pairs added to its URL's query. -/
def Request.withQuery (r : Request) (pairs : List (String × String)) : Request :=
  { r with url := Url.withQuery r.url pairs }

/-- The request with a JSON body. -/
def Request.withJson (r : Request) (body : Json) : Request :=
  { r with body := Bytes.ofString body.render }

/-- The value of a header, by ASCII-case-insensitive name. -/
def Request.header? (r : Request) (name : String) : Option String :=
  (r.headers.find? fun (k, _) => asciiLower k == asciiLower name).map Prod.snd

/-- A status and a body. -/
structure Response where
  status : Nat
  body : Bytes
deriving DecidableEq, Inhabited

/-- A network: the answer to a request given the requests answered before it, or `none`
when no connection can be made. -/
structure Network where
  answer : List Request → Request → Option Response

/-- The network where no connection can be made. -/
def Network.unreachable : Network := ⟨fun _ _ => none⟩

/-- Bytes allowed in a header value: visible characters, blanks, tab and bytes above
`0x7F`; control characters and delete are not. -/
def headerByteOk (b : UInt8) : Bool := (b ≥ 0x20 && b != 0x7F) || b == 0x09

/-- The text before the first `://` of a text and the text after it, when it holds one. -/
def splitAtSchemeSep : List Char → Option (List Char × List Char)
  | ':' :: '/' :: '/' :: rest => some ([], rest)
  | c :: rest => (splitAtSchemeSep rest).map fun (scheme, after) => (c :: scheme, after)
  | [] => none

/-- The text before the first `://` of a text, or all of it. -/
def untilSchemeSep : List Char → List Char
  | ':' :: '/' :: '/' :: _ => []
  | c :: rest => c :: untilSchemeSep rest
  | [] => []

/-- Whether a URL names a host: a scheme, `://` and a non-empty authority, which ends at
the next `/`, `?`, `#` or `://`. Proofs about requests never look inside it, so it is
kept from unfolding. -/
@[irreducible] def hasHost (url : String) : Bool :=
  match splitAtSchemeSep url.toList with
  | some (scheme, after) =>
    !scheme.isEmpty && scheme.all (fun c => c.isAlphanum || c == '+' || c == '-' || c == '.') &&
      !((untilSchemeSep after).takeWhile (fun c => c != '/' && c != '?' && c != '#')).isEmpty
  | none => false

/-- Why a request cannot be built, if it cannot. -/
def Request.problem? (r : Request) : Option ProviderError :=
  if !hasHost r.url then some (.request "builder error")
  else if r.headers.any (fun (_, v) => !(Bytes.ofString v).all headerByteOk) then
    some (.request "builder error")
  else none

end Http

/-- Computations that send requests: they read the network and keep, in order, the
requests it answered. -/
abbrev Exchange := ReaderT Http.Network (StateM (List Http.Request))

/-- Exchanges that can fail; the log of answered requests is kept when they do. -/
abbrev Http := ExceptT ProviderError Exchange

namespace Http

/-- Run an exchange on a network from an empty log: its result and the requests the
network answered. -/
def run {α : Type} (net : Network) (x : Http α) : Except ProviderError α × List Request :=
  ((ExceptT.run x).run net).run []

/-- Fail with an error. -/
def fail {α : Type} (e : ProviderError) : Http α := throw e

/-- Lift an outcome into an exchange. -/
def lift {α : Type} : Outcome α → Http α
  | .ok a => pure a
  | .error e => throw e

/-- Run an exchange, keeping its failure as a value. -/
def attempt {α : Type} (x : Http α) : Exchange (Outcome α) := ExceptT.run x

/-- An exchange that cannot fail, as one that can. -/
def ofExchange {α : Type} (x : Exchange α) : Http α := ExceptT.lift x

/-- Run an exchange and keep its failure as a value, without failing. -/
def outcome {α : Type} (x : Http α) : Http (Outcome α) := ofExchange (attempt x)

/-- Send a request and receive the answer. -/
def send (r : Request) : Http Response := do
  match r.problem? with
  | some e => throw e
  | none =>
    let net ← read
    let log ← get
    match net.answer log r with
    | none => throw (.request ("error sending request for url (" ++ r.url ++ ")"))
    | some answer =>
      set (log ++ [r])
      pure answer

/-- A body read as UTF-8 text, a leading byte-order mark dropped. -/
def Response.text (a : Response) : String :=
  match a.body with
  | 0xEF :: 0xBB :: 0xBF :: rest => Text.decodeUtf8Lossy rest
  | body => Text.decodeUtf8Lossy body

/-- A body read as JSON. -/
def Response.json (a : Response) : Outcome Json :=
  match String.fromUTF8? ⟨a.body.toArray⟩ with
  | none => .error (.request "error decoding response body")
  | some text =>
    match Json.parse text with
    | .ok v => .ok v
    | .error _ => .error (.request "error decoding response body")

end Http

end MusicProviders
