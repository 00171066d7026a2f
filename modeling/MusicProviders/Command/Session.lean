import MusicProviders.Command.Provider

/-! # Provider sessions

A session sets up one provider instance against a server and then drives it through a
list of calls, recording for each step the requests the server received. The server's
base URL is shown as `{base}` in every string of the answer.

* `deezer.session` — open the gateway with an access token and attach the API client,
  all on the server; `soundcloud.session` — attach a client with a client id and an
  authorization. When setting up fails, the answer has no calls.
* `deezer.oauth` — the Deezer settings form with the sign-in action, on a host whose
  helper answers with the request's `callback` parameters.

The command interface has no network access, so the server of a session is never
reached: every connection fails.
-/

namespace MusicProviders

namespace Command

/-- The base URL of a session's server. -/
def sessionBase : String := "http://127.0.0.1:4000"

mutual

/-- Apply a function to every string value of a JSON value. -/
def mapStrings (f : String → String) : Json → Json
  | .string s => .string (f s)
  | .array items => .array (mapStringItems f items)
  | .object fields => .object (mapStringFields f fields)
  | v => v

/-- Apply a function to every string value of a list of values. -/
def mapStringItems (f : String → String) : List Json → List Json
  | [] => []
  | v :: rest => mapStrings f v :: mapStringItems f rest

/-- Apply a function to every string value of a list of members. -/
def mapStringFields (f : String → String) : List (String × Json) → List (String × Json)
  | [] => []
  | (k, v) :: rest => (k, mapStrings f v) :: mapStringFields f rest

end

/-- An answer with the server's base URL written as `{base}`. -/
def showBase (j : Json) : Json := mapStrings (fun s => s.replace sessionBase "\x7bbase\x7d") j

/-- Perform calls in order, each answer with the requests of its call unless the call
says `"log": false`; a call that cannot be read stops the calls, and the whole request
fails with it. -/
def performLogged {σ : Type} (k : InstanceKind σ) : CallState σ → List Json →
    Exchange (Reading (List Json))
  | _, [] => pure (.ok [])
  | st, c :: rest => do
    match readCall c with
    | .error m => pure (.error m)
    | .ok call =>
      let before := (← get).length
      let (answer, st) ← perform k st call
      let requests := (← get).drop before
      let quiet := match c.get? "log" with
        | some (.bool false) => true
        | _ => false
      let answer := if quiet then answer
        else answer.withMember "requests" (requestsJson requests)
      pure ((answer :: ·) <$> (← performLogged k st rest))

/-- Set up an instance and, when that succeeds, perform the calls. -/
def runSession {σ : Type} (k : InstanceKind σ) (setup : σ → Http σ) (initial : σ)
    (calls : List Json) : Exchange (Reading Json) := do
  let outcome ← Http.attempt (setup initial)
  let setupRequests := requestsJson (← get)
  match outcome with
  | .error e => pure (.ok (.object [("setup", errorJson e), ("setup_requests", setupRequests)]))
  | .ok p =>
    let answers ← performLogged k ⟨p, none⟩ calls
    pure <| answers.map fun answers => .object [("setup", .object [("result", .null)]),
      ("setup_requests", setupRequests), ("calls", .array answers)]

/-- Run a session where the server cannot be reached. -/
def sessionResult (x : Exchange (Reading Json)) : Answer :=
  Answer.ofReading ((fun j => Answer.result (showBase j)) <$>
    ((x.run Http.Network.unreachable).run [] |>.1))

/-- The stamp of opened streams in sessions; answers hide it. -/
def sessionStamp : Deezer.PlaybackStamp := ⟨0, "00000000-0000-4000-8000-000000000000"⟩

/-- The gateway endpoints on a session's server. -/
def sessionGatewayUrls : Deezer.GatewayUrls :=
  ⟨sessionBase ++ "/ajax/gw-light.php", sessionBase ++ "/v1/get_url", sessionBase ++ "/session"⟩

/-- Answers of `deezer.session`. -/
def deezerSessionAnswer (r : Request) : Answer :=
  match readValues r with
  | .error m => .badRequest m
  | .ok values =>
    let config : ProviderConfig := ⟨r.stringOr "instance_id" "deezer--test1234", r.optString "name", values⟩
    let token := r.stringOr "access_token" "token"
    let provider := Deezer.Provider.new (requestHost r Host.standalone) config
    let setup (p : Deezer.Provider) : Http Deezer.Provider :=
      p.connect token ((Deezer.Api.new token).withBaseUrl sessionBase) sessionGatewayUrls
    sessionResult (runSession (Deezer.kind Pages.defaultFuel sessionStamp) setup provider (r.list "calls"))

/-- Answers of `soundcloud.session`. -/
def soundcloudSessionAnswer (r : Request) : Answer :=
  match readValues r with
  | .error m => .badRequest m
  | .ok values =>
    let config : ProviderConfig :=
      ⟨r.stringOr "instance_id" "soundcloud--xyz12345", r.optString "name", values⟩
    let api := (Soundcloud.Api.new (r.stringOr "client_id" "cid")
      (r.stringOr "authorization" "OAuth 2-secret")).withBaseUrl sessionBase
    let provider := Soundcloud.Provider.new (requestHost r Host.standalone) config
    sessionResult (runSession (Soundcloud.kind Pages.defaultFuel) (·.connect api) provider (r.list "calls"))

/-- Answers of `deezer.oauth`. -/
def deezerOAuthAnswer (r : Request) : Answer :=
  match readValues r with
  | .error m => .badRequest m
  | .ok values =>
    let callback := (r.members "callback").filterMap fun (k, v) => v.asString?.map (k, ·)
    let host := Host.standalone.withAuthHelper ⟨r.stringOr "callback_url" "http://host/callback/abc", .ok callback⟩
    let app : Deezer.OAuthApp := ⟨r.stringOr "app_id" "1", r.stringOr "app_secret" "s",
      sessionBase ++ "/oauth/access_token.php"⟩
    let (form, requests) := ((Deezer.configEntries host app (r.optString "action") values).run
      Http.Network.unreachable).run []
    .result (showBase (.object [
      ("entries", outcomeWith (fun es => .array (es.map ConfigEntry.toJson)) form.entries),
      ("values", form.values.toJson),
      ("auth_url", Json.optString form.authUrl),
      ("requests", requestsJson requests)]))

/-- Answers of the session operations. -/
def sessionAnswer (op : String) (r : Request) : Option Answer :=
  match op with
  | "deezer.session" => some (deezerSessionAnswer r)
  | "soundcloud.session" => some (soundcloudSessionAnswer r)
  | "deezer.oauth" => some (deezerOAuthAnswer r)
  | _ => none

end Command

end MusicProviders
