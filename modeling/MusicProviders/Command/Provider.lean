import MusicProviders.Command.Calls
import MusicProviders.Deezer.Provider
import MusicProviders.Deezer.Settings
import MusicProviders.Soundcloud.Provider
import MusicProviders.Provider.Listing

/-! # Provider operations

Configuration values and forms, provider instances and their descriptions, the listing
helpers, and hosts, on request fields. The command interface has no network access:
every connection it would make fails.

* `config.provider_config`, `config.values`, `config.entries` — reading settings and the
  two providers' settings forms.
* `provider.info` — an instance's description, optionally after setting it up.
* `provider.defaults` — the smallest provider driven through a list of calls.
* `provider.helpers` — `skipMalformed`, `softLookup` and `mapListing` on given items.
* `host.defaults` — the three kinds of host.
-/

namespace MusicProviders

namespace Command

/-- The configuration values of a request; absent values are none, and values that do
not decode are a parse failure. -/
def requestValues (r : Request) : Outcome ConfigValues :=
  match r.get? "values" with
  | none => .ok []
  | some v => (ConfigValues.decoder v).mapError fun e => .parse e.message

/-- The configuration values of a request where values that do not decode make the
request unusable (`bad values: ...`); absent values are none. -/
def readValues (r : Request) : Reading ConfigValues :=
  match r.get? "values" with
  | none => .ok []
  | some v => decodeField "values" ConfigValues.decoder v

/-- A host that knows the instance counts of a request's `instances` object. -/
def requestHost (r : Request) (host : Host) : Host :=
  (r.members "instances").foldl (fun h (domain, count) => h.withInstances domain (count.asU64?.getD 0)) host

/-- The configuration of an instance from request fields. -/
def requestConfig (r : Request) (defaultId : String) : Outcome ProviderConfig := do
  pure ⟨r.stringOr "instance_id" defaultId, r.optString "name", ← requestValues r⟩

/-- Answers of `config.provider_config`. -/
def providerConfigAnswer (r : Request) : Answer :=
  answerWith (fun (c : ProviderConfig) =>
    let keys := (r.list "keys").filterMap Json.asString?
    .object [
      ("get_str", .mkObject (keys.map fun k => (k, Json.optString (c.getStr k)))),
      ("get_value", .mkObject (keys.map fun k => (k, optionJson ConfigValue.toJson (c.getValue k)))),
      ("log_level", .string c.logLevel.name),
      ("serialized", c.toJson)])
    (requestConfig r "x--1")

/-- Answers of `config.values`. -/
def configValuesAnswer (r : Request) : Answer :=
  answerWith (fun (values : ConfigValues) =>
    let pairs := (r.list "with").filterMap fun
      | .array (.string k :: .string v :: _) => some (k, v)
      | _ => none
    let built := pairs.foldl (fun (c : ProviderConfig) (k, v) =>
      { c with values := c.values.insert k (.string v) })
      (ProviderConfig.new (r.stringOr "instance_id" "x--1"))
    .object [
      ("values", .mkObject (values.map fun (k, v) => (k, .object [
        ("as_bool", (v.asBool?.map Json.bool).getD .null), ("as_str", Json.optString v.asStr?)]))),
      ("built", built.toJson),
      ("built_log_level", .string built.logLevel.name)])
    (requestValues r)

/-- The answer of a settings form. -/
def formJson (entries : List ConfigEntry) (values : ConfigValues) : Json :=
  .object [("entries", .array (entries.map ConfigEntry.toJson)), ("values", values.toJson)]

/-- Answers of `config.entries`. -/
def configEntriesAnswer (r : Request) : Reading Answer :=
  match requestValues r with
  | .error e => pure (.failure e)
  | .ok values => do
    match ← r.requireString "provider" with
    | "deezer" =>
      let form := Deezer.configEntries Host.standalone (Deezer.OAuthApp.new "app" "secret")
        (r.optString "action") values
      let (answer, _) := (form.run Http.Network.unreachable).run []
      pure (answerWith (fun entries => formJson entries answer.values) answer.entries)
    | "soundcloud" => pure (.result (formJson (Soundcloud.configEntries values) values))
    | other => .error ("unknown provider " ++ other)

/-- The description of an instance: host listing, name, every feature with whether it is
supported, log level, and the outcome of setting it up when that was asked. -/
def describeInstance {σ : Type} (k : InstanceKind σ) (p : σ) (setup : Bool) : Json :=
  let (p, setupJson) :=
    if setup then
      match ((Http.attempt (k.setup p)).run Http.Network.unreachable).run [] |>.1 with
      | .ok p' => (p', Json.object [("result", .null)])
      | .error e => (p, errorJson e)
    else (p, Json.null)
  let base := k.base p
  .object [("to_dict", base.toDict k.features), ("name", .string base.displayName),
    ("supports", .array (ProviderFeature.all.map fun f =>
      .array [.string f.name, .bool (k.features.contains f)])),
    ("log_level", .string base.config.logLevel.name), ("setup", setupJson)]

/-- Answers of `provider.info`. -/
def providerInfoAnswer (r : Request) : Reading Answer :=
  match requestConfig r "x--1" with
  | .error e => pure (.failure e)
  | .ok config => do
    let host := requestHost r Host.standalone
    let setup := ((r.field "setup").asBool?).getD false
    match ← r.requireString "provider" with
    | "deezer" => pure <| .result <|
      describeInstance (Deezer.kind Pages.defaultFuel ⟨0, ""⟩) (Deezer.Provider.new host config) setup
    | "soundcloud" => pure <| .result <|
      describeInstance (Soundcloud.kind Pages.defaultFuel) (Soundcloud.Provider.new host config) setup
    | other => .error ("unknown provider " ++ other)

/-- Perform calls in order, each answered; a call that cannot be read stops the calls,
and the whole request fails with it. -/
def performAll {σ : Type} (k : InstanceKind σ) : CallState σ → List Json → Exchange (Reading (List Json))
  | _, [] => pure (.ok [])
  | st, c :: rest => do
    match readCall c with
    | .error m => pure (.error m)
    | .ok call =>
      let (answer, st) ← perform k st call
      pure ((answer :: ·) <$> (← performAll k st rest))

/-- Answers of `provider.defaults`. -/
def providerDefaultsAnswer (r : Request) : Reading Answer := do
  let values ← readValues r
  let config : ProviderConfig :=
    ⟨r.stringOr "instance_id" "dummy--abcdefgh12345678", r.optString "name", values⟩
  let manifest : Manifest := ⟨r.stringOr "domain" "dummy", r.stringOr "manifest_name" "Dummy", ""⟩
  let inst := Instance.new (requestHost r Host.standalone) manifest config
  let answers ← ((performAll InstanceKind.minimal ⟨inst, none⟩ (r.list "calls")).run
    Http.Network.unreachable).run [] |>.1
  pure (.result (.array answers))

/-- An item of a listing given in a request: an object with an `error` member is the
error of that kind (a string naming a known kind) with its `message` (empty when not a
string), anything else is a raw value. -/
def requestItem (v : Json) : Reading (Outcome Json) :=
  match v.get? "error" with
  | none => .ok (.ok v)
  | some _ => do
    let kind ← Request.requireString v "error"
    match ProviderError.ofKindName kind (Request.string v "message") with
    | some e => pure (.error e)
    | none => .error ("unknown error kind " ++ kind)

/-- Answers of `provider.helpers`. -/
def providerHelpersAnswer (r : Request) : Reading Answer := do
  let items ← (r.list "items").mapM requestItem
  let mapper : Deezer.Mapper := ⟨"deezer", "deezer--abc", some 42, some "NL"⟩
  pure <| .result (.object [
    ("skip_malformed", .array (items.map fun item =>
      match skipMalformed item with
      | some o => outcomeJson o
      | none => .string "skipped")),
    ("soft_lookup", .array (items.map fun item => outcomeWith (optionJson id) (softLookup item))),
    ("errors", .array (items.filterMap fun
      | .error e => some (.object [("display", .string e.message), ("soft", .bool e.isSoftLookupFailure)])
      | .ok _ => none)),
    ("map_listing", .array ((mapListing mapper.artistFromValue items).map (outcomeWith Artist.toJson))),
    ("media_type_display", .array (MediaType.all.map (Json.string ·.name))),
    ("searchable", .array (MediaType.searchable.map (Json.string ·.name)))])

/-- What a task run by a host's `spawn` delivers in `host.defaults`. -/
def spawnedValue : Nat := 7

/-- The answer of a sign-in session: the helper's callback URL, or the failure. -/
def authSessionJson (h : Host) (sessionId : String) : Json :=
  outcomeWith (fun (helper : AuthHelper) => .string helper.callbackUrl) (h.authSession sessionId)

/-- Answers of `host.defaults`. -/
def hostDefaultsAnswer (r : Request) : Answer :=
  let domain := r.stringOr "domain" "deezer"
  let sessionId := r.stringOr "session_id" "s-1"
  let standalone := match r.optNat "instances" with
    | some n => Host.standalone.withInstances domain n
    | none => Host.standalone
  let withHelper := standalone.withAuthHelper ⟨r.stringOr "callback_url" "http://host/callback/abc", .ok []⟩
  .result (.object [
    ("minimal_auth_session", authSessionJson Host.minimal sessionId),
    ("minimal_instance_count", Json.nat (Host.minimal.instanceCount domain)),
    ("minimal_spawn", Json.nat spawnedValue),
    ("standalone_debug", .string standalone.debugText),
    ("standalone_instance_count", Json.nat (standalone.instanceCount domain)),
    ("standalone_auth_session", authSessionJson standalone sessionId),
    ("standalone_debug_with_helper", .string withHelper.debugText),
    ("standalone_auth_session_with_helper", authSessionJson withHelper sessionId)])

/-- Answers of the provider operations. -/
def providerAnswer (op : String) (r : Request) : Option Answer :=
  match op with
  | "config.provider_config" => some (providerConfigAnswer r)
  | "config.values" => some (configValuesAnswer r)
  | "config.entries" => some (Answer.ofReading (configEntriesAnswer r))
  | "provider.info" => some (Answer.ofReading (providerInfoAnswer r))
  | "provider.defaults" => some (Answer.ofReading (providerDefaultsAnswer r))
  | "provider.helpers" => some (Answer.ofReading (providerHelpersAnswer r))
  | "host.defaults" => some (hostDefaultsAnswer r)
  | _ => none

end Command

end MusicProviders
