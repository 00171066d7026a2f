import MusicProviders.Cli.Args
import MusicProviders.Deezer.Provider
import MusicProviders.Deezer.Settings
import MusicProviders.Soundcloud.Provider

/-! # Running the command line

A command signs in to its provider and prints what it finds, line by line. Every step is
an exchange on a network, so a run is a pure function of the network's answers.

* `Run` — a run: the lines printed so far and the file written survive a failure.
* `Failure.debugText` — how a failure is shown after `Error: `.
* `runCommand` — everything but Deezer's sign-in, which asks the user for the code:
  `authPrompt` is what it shows first and `finishAuth` the rest, given the code.
-/

namespace MusicProviders

namespace Cli

/-- Why a run stopped. -/
inductive Failure
  /-- A provider operation failed. -/
  | provider (e : ProviderError)
  /-- A setting is missing. -/
  | missing (text : String)
deriving Inhabited

/-- The variant name of an error in diagnostic dumps. -/
def debugVariant : ProviderError → String
  | .loginFailed _ => "LoginFailed"
  | .invalidData _ => "InvalidData"
  | .notImplemented _ => "NotImplemented"
  | .notFound _ => "NotFound"
  | .api _ => "Api"
  | .request _ => "Request"
  | .parse _ => "Parse"
  | .crypto _ => "Crypto"
  | .io _ => "Io"

/-- The diagnostic form of a failure: the error variant with its quoted detail, or the
quoted text of a missing setting. -/
def Failure.debugText : Failure → String
  | .provider e => debugVariant e ++ "(" ++ Text.debugQuote e.detail ++ ")"
  | .missing text => Text.debugQuote text

/-- What a run printed and the file it wrote. -/
structure Report where
  lines : List String
  file : Option (String × Bytes)
deriving Inhabited

/-- A run of the command line. -/
abbrev Run := ExceptT Failure (StateT Report Exchange)

namespace Run

/-- Print a line. -/
def say (line : String) : Run Unit := modify fun r => { r with lines := r.lines ++ [line] }

/-- An exchange as a step of a run. -/
def exchange {α : Type} (x : Exchange α) : Run α := ExceptT.lift (StateT.lift x)

/-- A provider step; its failure stops the run. -/
def http {α : Type} (x : Http α) : Run α := do
  match ← exchange (Http.attempt x) with
  | .ok a => pure a
  | .error e => throw (.provider e)

/-- Stop with a provider failure. -/
def failWith {α : Type} (e : ProviderError) : Run α := throw (.provider e)

/-- Run on a network: the failure, if any, and the report. -/
def execute (x : Run Unit) (net : Http.Network) : Option Failure × Report :=
  let ((outcome, report), _) := ((x.run.run ⟨[], none⟩).run net).run []
  (match outcome with
    | .ok () => none
    | .error f => some f, report)

end Run

/-- The host of the command line: one instance of each provider. -/
def cliHost : Host := (Host.standalone.withInstances "deezer" 1).withInstances "soundcloud" 1

/-- A line per search result. -/
def resultLines (r : SearchResults) : List String :=
  r.artists.map (fun a => "artist   " ++ a.name ++ " (ID: " ++ a.itemId ++ ")") ++
  r.albums.map (fun a => "album    " ++ artistsString a.artists ", " ++ " - " ++ a.name ++
    " (ID: " ++ a.itemId ++ ")") ++
  r.tracks.map (fun t => "track    " ++ artistsString t.artists ", " ++ " - " ++ t.name ++
    " (ID: " ++ t.itemId ++ ")") ++
  r.playlists.map (fun p => "playlist " ++ p.name ++ " (ID: " ++ p.itemId ++ ")")

/-- Print a listing, numbered, then its length; a failed item stops the run. -/
def printListing {α : Type} (items : List (Outcome α)) (describe : α → String) : Run Unit := do
  let mut count := 0
  for item in items do
    count := count + 1
    match item with
    | .ok a => Run.say (toString count ++ ". " ++ describe a)
    | .error e => Run.failWith e
  Run.say (toString count ++ " items")

/-- Print a library collection. -/
def listLibrary (ops : Operations) : LibraryKind → Run Unit
  | .artists => do
    printListing (← Run.exchange ops.libraryArtists) fun a => a.name ++ " (ID: " ++ a.itemId ++ ")"
  | .albums => do
    printListing (← Run.exchange ops.libraryAlbums) fun a =>
      artistsString a.artists ", " ++ " - " ++ a.name ++ " (ID: " ++ a.itemId ++ ")"
  | .tracks => do
    printListing (← Run.exchange ops.libraryTracks) fun t =>
      artistsString t.artists ", " ++ " - " ++ t.name ++ " (ID: " ++ t.itemId ++ ")"
  | .playlists => do
    printListing (← Run.exchange ops.libraryPlaylists) fun p => p.name ++ " (ID: " ++ p.itemId ++ ")"

/-- Search and print the results. -/
def search (ops : Operations) (query : String) (kind : Option SearchKind) (limit : Nat) :
    Run Unit := do
  Run.say ("Searching for '" ++ query ++ "'...")
  let results ← Run.http (ops.search query (kind.map SearchKind.mediaType).toList limit)
  for line in resultLines results do
    Run.say line

/-- The bytes of a stream up to its first failure, and that failure. -/
def streamBytes : List (Outcome Bytes) → Bytes × Option ProviderError
  | [] => ([], none)
  | .error e :: _ => ([], some e)
  | .ok chunk :: rest =>
    let (bytes, failure) := streamBytes rest
    (chunk ++ bytes, failure)

/-- Decrypt a Deezer track into a file and report the listen. -/
def deezerStream (ops : Operations) (trackId output : String) (seek : Nat) : Run Unit := do
  let details ← Run.http (ops.streamDetails trackId)
  Run.say ("Streaming " ++ trackId ++ " as " ++ details.audioFormat.contentType.debugName ++
    " (" ++ toString (details.size.getD 0) ++ " bytes)")
  let audio ← Run.http (ops.audioStream details seek)
  let (bytes, failure) := streamBytes audio.items
  modify fun r => { r with file := some (output, bytes) }
  if let some e := failure then Run.failWith e
  let played := audio.details.duration.map fun d => Binary64.ofInt (d - seek : Nat)
  Run.http (ops.finish { audio.details with secondsStreamed := played })
  Run.say ("✅ Wrote " ++ toString bytes.length ++ " bytes to " ++ output)

/-- Everything a command does after its arguments are read, except Deezer's sign-in. -/
def runCommand (stamp : Deezer.PlaybackStamp) : Command → Run Unit
  | .deezer _ (.auth _ _) => pure ()
  | .deezer token command => do
    let some token := token | throw (.missing "DEEZER_ACCESS_TOKEN is not set")
    let config := { ProviderConfig.new "deezer--cli" with values := [("access_token", .string token)] }
    let provider ← Run.http (Deezer.Provider.new cliHost config).setup
    Run.say ("Logged in to " ++ provider.base.displayName)
    let ops := provider.operations Pages.defaultFuel stamp
    match command with
    | .auth _ _ => pure ()
    | .search query kind limit => search ops query kind limit
    | .library kind => listLibrary ops kind
    | .stream trackId output seek => deezerStream ops trackId output seek
  | .soundcloud clientId authorization command => do
    let config := { ProviderConfig.new "soundcloud--cli" with
      values := (ConfigValues.insert "client_id" (.string clientId)
        [("authorization", .string authorization)]) }
    let provider ← Run.http (Soundcloud.Provider.new cliHost config).setup
    Run.say ("Logged in to " ++ provider.base.displayName)
    let ops := provider.operations Pages.defaultFuel
    match command with
    | .search query kind limit => search ops query kind limit
    | .library kind => listLibrary ops kind
    | .stream trackId => do
      let details ← Run.http (ops.streamDetails trackId)
      Run.say (details.audioFormat.contentType.debugName ++ ": " ++ details.direct.getD "?")

/-- Where Deezer sends the user back after signing in from the command line. -/
def consoleCallbackUrl : String := "http://localhost/callback"

/-- What Deezer's sign-in shows before it reads the code. -/
def authPrompt (appId appSecret : String) : List String :=
  ["Open this URL and authorize the app:\n" ++
      (Deezer.OAuthApp.new appId appSecret).authorizeUrl consoleCallbackUrl,
    "Then paste the \x60code\x60 value from the redirect:"]

/-- Deezer's sign-in, given the line the user typed: exchange the code and print the
new token. -/
def finishAuth (appId appSecret line : String) : Run Unit := do
  let host := cliHost.withAuthHelper ⟨consoleCallbackUrl, .ok [("code", Text.trimBlank line)]⟩
  let form ← Run.exchange (Deezer.configEntries host (Deezer.OAuthApp.new appId appSecret)
    (some Deezer.confActionAuth) [("session_id", .string "cli")])
  match form.entries with
  | .error e => Run.failWith e
  | .ok _ =>
    if let some token := (form.values.get? "access_token").bind ConfigValue.asStr? then
      Run.say ("✅ Access token: " ++ token)

/-- A random (version 4) UUID from sixteen bytes: the version and variant bits are set and
the bytes are written as lower-case hexadecimal in groups of 8, 4, 4, 4 and 12 digits. -/
def uuidOfBytes (bytes : Bytes) : String :=
  let bytes := bytes.zipIdx.map fun (b, i) =>
    if i == 6 then (b &&& 0x0F) ||| 0x40 else if i == 8 then (b &&& 0x3F) ||| 0x80 else b
  let hex := (Bytes.toHex bytes).toList
  String.ofList (hex.take 8) ++ "-" ++ String.ofList ((hex.drop 8).take 4) ++ "-" ++
    String.ofList ((hex.drop 12).take 4) ++ "-" ++ String.ofList ((hex.drop 16).take 4) ++ "-" ++
    String.ofList ((hex.drop 20).take 12)

end Cli

end MusicProviders
