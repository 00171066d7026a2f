import MusicProviders.Provider.Paging
import MusicProviders.Soundcloud.Record
import MusicProviders.Soundcloud.Rules

/-! # The SoundCloud API

Every request is a GET carrying the `Authorization` header and the `client_id` query
parameter (unless the URL already has one, as next-page links do). The status is checked
before the body is read (`checkStatus`, naming the URL as given). Collections are paged
with `next_href` links.

* `Api` — base URL and credentials; `Api.request` — one call; `Api.pages` — a collection.
* The endpoints the provider uses: the account, search, followings, library entries,
  track likes, playlist, track and user details, top tracks, related tracks, and a
  track's stream URL.
-/

namespace MusicProviders

namespace Soundcloud

/-- The API's base URL. -/
def apiBaseUrl : String := "https://api-v2.soundcloud.com"

/-- Page size asked of collection endpoints. -/
def pageSize : Nat := 50

/-- A playable URL and the mime type of the encoding behind it. -/
structure StreamUrl where
  url : String
  mimeType : Option String
deriving DecidableEq, Repr, Inhabited

/-- A client bound to one client id and authorization token. -/
structure Api where
  baseUrl : String
  clientId : String
  authorization : String
deriving DecidableEq, Repr, Inhabited

/-- Drop every trailing `/`. -/
def trimEndSlash (s : String) : String :=
  String.ofList (s.toList.reverse.dropWhile (· == '/')).reverse

namespace Api

/-- A client of the real API. -/
def new (clientId authorization : String) : Api := ⟨apiBaseUrl, clientId, authorization⟩

/-- The client pointed at another host. -/
def withBaseUrl (api : Api) (baseUrl : String) : Api := { api with baseUrl := baseUrl }

/-- The URL of an API path. -/
def endpoint (api : Api) (path : String) : String := trimEndSlash api.baseUrl ++ "/" ++ path

/-- The request for a URL with parameters and the credentials. -/
def buildRequest (api : Api) (url : String) (params : List (String × String)) : Http.Request :=
  let r := ((Http.Request.plain .get url).withHeader "authorization" api.authorization).withQuery params
  let hasClientId := Http.hasHost url && (Url.queryPairs url).any (·.1 == "client_id")
  if hasClientId then r else r.withQuery [("client_id", api.clientId)]

/-- Call the API: send, check the status, read the answer as JSON. -/
def request (api : Api) (url : String) (params : List (String × String)) : Http Json := do
  let answer ← Http.send (api.buildRequest url params)
  Http.lift (checkStatus answer.status url)
  Http.lift answer.json

/-- GET an API path. -/
def get (api : Api) (path : String) (params : List (String × String)) : Http Json :=
  api.request (api.endpoint path) params

/-- A paged collection at an API path. -/
def pages (api : Api) (path : String) (params : List (String × String)) : Pages :=
  ⟨⟨api.endpoint path, params⟩, fun req => do
    let data ← api.request req.url req.params
    let page ← Http.lift (decodeCollection data)
    pure ⟨page.collection, page.nextHref⟩⟩

/-- The `limit` parameter. -/
def limitParams (limit : Nat) : List (String × String) := [("limit", toString limit)]

/-- The signed-in account. -/
def accountDetails (api : Api) : Http UserRecord := do
  Http.lift (decode "user" userDecoder (← api.get "me" []))

/-- One combined search over users, tracks and playlists. -/
def search (api : Api) (query : String) (limit : Nat) : Http (List Json) := do
  let data ← api.get "search" [("q", query), ("limit", toString limit), ("offset", "0")]
  pure (← Http.lift (decodeCollection data)).collection

/-- The users a user follows. -/
def following (api : Api) (userId : String) : Pages :=
  api.pages ("users/" ++ userId ++ "/followings") (limitParams pageSize)

/-- The account's library entries. -/
def accountPlaylists (api : Api) : Pages := api.pages "me/library/all" (limitParams pageSize)

/-- A playlist in full. -/
def playlistDetails (api : Api) (playlistId : String) : Http Json :=
  api.get ("playlists/" ++ playlistId) [("representation", "full")]

/-- The track likes of a user; each entry holds the track under `track`. -/
def tracksLiked (api : Api) (userId : String) : Pages :=
  api.pages ("users/" ++ userId ++ "/track_likes") (limitParams pageSize)

/-- Full track records for a comma-separated list of ids; the answer must be an array. -/
def trackDetails (api : Api) (trackIds : String) : Http (List Json) := do
  match ← api.get "tracks" [("ids", trackIds)] with
  | .array items => pure items
  | other => Http.fail (.invalidData ("unexpected track details payload: " ++ other.render))

/-- A user's record. -/
def userDetails (api : Api) (userId : String) : Http Json := api.get ("users/" ++ userId) []

/-- A user's most played tracks. -/
def popularTracks (api : Api) (userId : String) (limit : Nat) : Http (List Json) := do
  let data ← api.get ("users/" ++ userId ++ "/toptracks") (limitParams limit)
  pure (← Http.lift (decodeCollection data)).collection

/-- Tracks related to a track. -/
def recommended (api : Api) (trackId : String) (limit : Nat) : Http (List Json) := do
  let data ← api.get ("tracks/" ++ trackId ++ "/related") (limitParams limit)
  pure (← Http.lift (decodeCollection data)).collection

/-- A playable URL of a track: the progressive encoding if there is one, else the first. -/
def streamUrl (api : Api) (track : TrackRecord) : Http StreamUrl := do
  let chosen := (track.transcodings.find? (·.isProgressive)).or track.transcodings.head?
  let some transcoding := chosen | Http.fail (.notFound "track has no transcodings")
  let some url := transcoding.url | Http.fail (.invalidData "transcoding without url")
  let params := track.trackAuthorization.toList.map (("track_authorization", ·))
  let data ← api.request url params
  let some streamUrl := (data.get? "url").bind Json.asString?
    | Http.fail (.invalidData "stream response without url")
  pure ⟨streamUrl, transcoding.mimeType⟩

end Api

end Soundcloud

end MusicProviders
