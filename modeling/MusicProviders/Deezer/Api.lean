import MusicProviders.Provider.Paging
import MusicProviders.Deezer.Record
import MusicProviders.Deezer.Rules

/-! # The Deezer public API

The REST API answers JSON; an answer that is an object with an `error` object is a
failure (`checkError`). Every request carries the OAuth token as the `access_token`
query parameter, unless its URL already has one (next-page links do). Listings are
paged with `next` links.

* `Api` — the base URL and the token; `Api.endpoint` joins the base URL and a path.
* `Api.request` — one call; `Api.pages` — a paged listing.
* `Api.searchListing`, `Api.search` — the results of a per-kind search, and the first
  `limit` of them.
* `Api.libraryAdd`, `Api.libraryRemove`, `Api.addPlaylistTracks`,
  `Api.removePlaylistTracks` — edits, true when Deezer answers `true`.
* `Api.createPlaylist` — create a playlist and fetch its full record.
-/

namespace MusicProviders

namespace Deezer

/-- The public API's base URL. -/
def apiBaseUrl : String := "https://api.deezer.com"

/-- Drop every trailing occurrence of a character. -/
def trimEndChar (c : Char) (s : String) : String :=
  String.ofList (s.toList.reverse.dropWhile (· == c)).reverse

/-- A client of the public API bound to one access token. -/
structure Api where
  baseUrl : String
  accessToken : String
deriving DecidableEq, Repr, Inhabited

namespace Api

/-- A client of the real API. -/
def new (accessToken : String) : Api := ⟨apiBaseUrl, accessToken⟩

/-- The client pointed at another host. -/
def withBaseUrl (api : Api) (baseUrl : String) : Api := { api with baseUrl := baseUrl }

/-- The URL of an API path. -/
def endpoint (api : Api) (path : String) : String := trimEndChar '/' api.baseUrl ++ "/" ++ path

/-- The request for a URL with parameters, the token added unless the URL carries one. -/
def buildRequest (api : Api) (method : Http.Method) (url : String)
    (params : List (String × String)) : Http.Request :=
  let r := (Http.Request.plain method url).withQuery params
  let hasToken := Http.hasHost url && (Url.queryPairs url).any (·.1 == "access_token")
  if hasToken then r else r.withQuery [("access_token", api.accessToken)]

/-- Call the API: send the request, read the answer as JSON and check it for an error. -/
def request (api : Api) (method : Http.Method) (url : String)
    (params : List (String × String)) : Http Json := do
  let answer ← Http.send (api.buildRequest method url params)
  let data ← Http.lift answer.json
  Http.lift (checkError data)

/-- GET an API path. -/
def get (api : Api) (path : String) (params : List (String × String)) : Http Json :=
  api.request .get (api.endpoint path) params

/-- A paged listing at an API path. -/
def pages (api : Api) (path : String) (params : List (String × String)) : Pages :=
  ⟨⟨api.endpoint path, params⟩, fun req => do
    let data ← api.request .get req.url req.params
    let page ← Http.lift (decodePage data)
    pure ⟨page.data, page.next⟩⟩

/-- The signed-in user. -/
def userMe (api : Api) : Http UserRecord := do
  Http.lift (decode "user" userDecoder (← api.get "user/me" []))

/-- The raw record of an item: `kind` is `artist`, `album`, `track` or `playlist`. -/
def item (api : Api) (kind id : String) : Http Json := api.get (kind ++ "/" ++ id) []

/-- The listing of the results of a search for one kind, asked for `limit` at a time. -/
def searchListing (api : Api) (kind query : String) (limit : Nat) : Pages :=
  api.pages ("search/" ++ kind) [("q", query), ("limit", toString limit)]

/-- The first `limit` raw results of a search for one kind; the first failure among
them fails the search. -/
def search (api : Api) (fuel : Nat) (kind query : String) (limit : Nat) : Http (List Json) := do
  let items ← (api.searchListing kind query limit).take fuel limit
  Http.lift (collectOutcomes items)

/-- The parameter naming an item of a library collection: `artist_id` for `artists`. -/
def libraryKey (kind : String) : String := trimEndChar 's' kind ++ "_id"

/-- Whether an answer is `true`. -/
def answeredTrue (data : Json) : Bool := data.asBool?.getD false

/-- Add an item to a library collection (`artists`, `albums`, `tracks`, `playlists`). -/
def libraryAdd (api : Api) (kind id : String) : Http Bool := do
  let data ← api.request .post (api.endpoint ("user/me/" ++ kind)) [(libraryKey kind, id)]
  pure (answeredTrue data)

/-- Remove an item from a library collection. -/
def libraryRemove (api : Api) (kind id : String) : Http Bool := do
  let data ← api.request .delete (api.endpoint ("user/me/" ++ kind)) [(libraryKey kind, id)]
  pure (answeredTrue data)

/-- Add tracks to a playlist. -/
def addPlaylistTracks (api : Api) (playlistId : String) (trackIds : List String) : Http Bool := do
  let data ← api.request .post (api.endpoint ("playlist/" ++ playlistId ++ "/tracks"))
    [("songs", ",".intercalate trackIds)]
  pure (answeredTrue data)

/-- Remove tracks from a playlist. -/
def removePlaylistTracks (api : Api) (playlistId : String) (trackIds : List String) :
    Http Bool := do
  let data ← api.request .delete (api.endpoint ("playlist/" ++ playlistId ++ "/tracks"))
    [("songs", ",".intercalate trackIds)]
  pure (answeredTrue data)

/-- Create a playlist and fetch its full record. -/
def createPlaylist (api : Api) (title : String) : Http PlaylistRecord := do
  let created ← api.request .post (api.endpoint "user/me/playlists") [("title", title)]
  match (created.get? "id").bind Json.asI64? with
  | none => Http.fail (.invalidData "created playlist without id")
  | some id => Http.lift (decode "playlist" playlistDecoder (← api.item "playlist" (toString id)))

end Api

end Deezer

end MusicProviders
