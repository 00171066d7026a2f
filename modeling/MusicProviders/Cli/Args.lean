import MusicProviders.Media.Basic

/-! # Command-line arguments

The command line talks to one provider at a time:

* `deezer [--access-token T] auth --app-id A --app-secret S` — sign in and print a token.
* `deezer [--access-token T] search QUERY [-t TYPE] [-l LIMIT]`, `library KIND`,
  `stream TRACK_ID -o FILE [--seek SECONDS]`.
* `soundcloud --client-id C --authorization A search QUERY [-t TYPE] [-l LIMIT]`,
  `library KIND`, `stream TRACK_ID`.

A global `--log-level` comes before the provider. Options take their value as the next
argument or after `=` (`--limit=5`, `-l5`); `--` ends the options. Credentials may come
from the environment instead (`DEEZER_ACCESS_TOKEN`, `DEEZER_APP_ID`,
`DEEZER_APP_SECRET`, `SOUNDCLOUD_CLIENT_ID`, `SOUNDCLOUD_AUTHORIZATION`); an argument
wins over the environment.

* `Cli` — the parsed command line; `parseArgs` — the parser, which fails with a usage
  message, or asks for help.
-/

namespace MusicProviders

namespace Cli

/-- The kind a search is restricted to. -/
inductive SearchKind
  | artist | album | track | playlist
deriving DecidableEq, Repr, Inhabited

/-- The media type of a search kind. -/
def SearchKind.mediaType : SearchKind → MediaType
  | .artist => .artist
  | .album => .album
  | .track => .track
  | .playlist => .playlist

/-- A library collection. -/
inductive LibraryKind
  | artists | albums | tracks | playlists
deriving DecidableEq, Repr, Inhabited

/-- What to do with Deezer. -/
inductive DeezerCommand
  | auth (appId appSecret : String)
  | search (query : String) (kind : Option SearchKind) (limit : Nat)
  | library (kind : LibraryKind)
  | stream (trackId output : String) (seek : Nat)
deriving DecidableEq, Repr, Inhabited

/-- What to do with SoundCloud. -/
inductive SoundcloudCommand
  | search (query : String) (kind : Option SearchKind) (limit : Nat)
  | library (kind : LibraryKind)
  | stream (trackId : String)
deriving DecidableEq, Repr, Inhabited

/-- The provider to talk to, with its credentials. -/
inductive Command
  | deezer (accessToken : Option String) (command : DeezerCommand)
  | soundcloud (clientId authorization : String) (command : SoundcloudCommand)
deriving DecidableEq, Repr, Inhabited

/-- A parsed command line. -/
structure Invocation where
  logLevel : String
  command : Command
deriving DecidableEq, Repr, Inhabited

/-- Why a command line does not run. -/
inductive Stop
  /-- The command line asks for help. -/
  | help
  /-- The command line is wrong; the message says how. -/
  | usage (message : String)
deriving DecidableEq, Repr, Inhabited

/-- An option that takes a value: its long name and its short letter, if any. -/
structure OptionSpec where
  long : String
  short : Option Char
deriving DecidableEq, Repr, Inhabited

/-- The options and positional arguments of one level of the command line, and where a
subcommand starts. -/
structure Scan where
  options : List (String × String)
  positionals : List String
  subcommand : Option (String × List String)
deriving Inhabited

/-- A usage failure. -/
def usage {α : Type} (message : String) : Except Stop α := .error (.usage message)

/-- The option a long name or short letter stands for. -/
def findLong (specs : List OptionSpec) (name : String) : Option OptionSpec :=
  specs.find? (·.long == name)

/-- The option a short letter stands for. -/
def findShort (specs : List OptionSpec) (c : Char) : Option OptionSpec :=
  specs.find? (·.short == some c)

/-- Record an option's value; an option given twice is refused. -/
def Scan.withOption (s : Scan) (name value : String) : Except Stop Scan :=
  if s.options.any (·.1 == name) then
    usage ("the argument '--" ++ name ++ "' cannot be used multiple times")
  else .ok { s with options := s.options ++ [(name, value)] }

/-- Scan the arguments of one level: options with values, positional arguments, and,
when `nested` holds, the first positional argument is a subcommand that takes the rest. -/
def scan (specs : List OptionSpec) (nested : Bool) : Scan → List String → Except Stop Scan
  | s, [] => .ok s
  | s, "--" :: rest => .ok { s with positionals := s.positionals ++ rest }
  | _, "-h" :: _ => .error .help
  | _, "--help" :: _ => .error .help
  | s, arg :: rest =>
    if arg.startsWith "--" then
      let body := arg.drop 2 |>.toString
      let (name, inline) := match body.splitOn "=" with
        | n :: v :: more => (n, some ("=".intercalate (v :: more)))
        | _ => (body, none)
      match findLong specs name with
      | none => usage ("unexpected argument '" ++ arg ++ "' found")
      | some spec =>
        match inline with
        | some v => do scan specs nested (← s.withOption spec.long v) rest
        | none =>
          match rest with
          | v :: rest' => do scan specs nested (← s.withOption spec.long v) rest'
          | [] => usage ("a value is required for '--" ++ spec.long ++ "' but none was supplied")
    else if arg.startsWith "-" && arg.length ≥ 2 then
      match arg.toList with
      | _ :: c :: attached =>
        match findShort specs c with
        | none => usage ("unexpected argument '" ++ arg ++ "' found")
        | some spec =>
          let attached := match attached with
            | '=' :: v => v
            | v => v
          if !attached.isEmpty then do
            scan specs nested (← s.withOption spec.long (String.ofList attached)) rest
          else
            match rest with
            | v :: rest' => do scan specs nested (← s.withOption spec.long v) rest'
            | [] => usage ("a value is required for '--" ++ spec.long ++ "' but none was supplied")
      | _ => usage ("unexpected argument '" ++ arg ++ "' found")
    else if nested then .ok { s with subcommand := some (arg, rest) }
    else scan specs nested { s with positionals := s.positionals ++ [arg] } rest
termination_by _ args => args.length

/-- Scan one level from nothing. -/
def scanLevel (specs : List OptionSpec) (nested : Bool) (args : List String) : Except Stop Scan :=
  scan specs nested ⟨[], [], none⟩ args

/-- An option's value, or the environment's. -/
def optionOrEnv (s : Scan) (name : String) (env : Option String) : Option String :=
  (List.lookup name s.options).or (env.filter (!·.isEmpty))

/-- A required option's value. -/
def required (s : Scan) (name : String) (env : Option String) : Except Stop String :=
  match optionOrEnv s name env with
  | some v => .ok v
  | none => usage ("the following required arguments were not provided: --" ++ name)

/-- Exactly one positional argument. -/
def single (s : Scan) (what : String) : Except Stop String :=
  match s.positionals with
  | [v] => .ok v
  | [] => usage ("the following required arguments were not provided: <" ++ what ++ ">")
  | _ :: extra :: _ => usage ("unexpected argument '" ++ extra ++ "' found")

/-- No positional arguments. -/
def noPositionals (s : Scan) : Except Stop Unit :=
  match s.positionals with
  | [] => .ok ()
  | extra :: _ => usage ("unexpected argument '" ++ extra ++ "' found")

/-- A natural number option, with a default. -/
def natOption (s : Scan) (name : String) (fallback : Nat) : Except Stop Nat :=
  match List.lookup name s.options with
  | none => .ok fallback
  | some v =>
    match v.toNat? with
    | some n => .ok n
    | none => usage ("invalid value '" ++ v ++ "' for '--" ++ name ++ "': invalid digit found in string")

/-- The search kind option. -/
def kindOption (s : Scan) : Except Stop (Option SearchKind) :=
  match List.lookup "type" s.options with
  | none => .ok none
  | some "artist" => .ok (some .artist)
  | some "album" => .ok (some .album)
  | some "track" => .ok (some .track)
  | some "playlist" => .ok (some .playlist)
  | some v => usage ("invalid value '" ++ v ++ "' for '--type <TYPE>'")

/-- A library collection argument. -/
def libraryKind (v : String) : Except Stop LibraryKind :=
  match v with
  | "artists" => .ok .artists
  | "albums" => .ok .albums
  | "tracks" => .ok .tracks
  | "playlists" => .ok .playlists
  | _ => usage ("invalid value '" ++ v ++ "' for '<KIND>'")

/-- The search options. -/
def searchSpecs : List OptionSpec := [⟨"type", some 't'⟩, ⟨"limit", some 'l'⟩]

/-- The subcommand of a level, or the failure of a level without one. -/
def subcommandOf (s : Scan) (level : String) : Except Stop (String × List String) :=
  match s.subcommand with
  | some sub => .ok sub
  | none => usage ("'" ++ level ++ "' requires a subcommand but one was not provided")

/-- Parse a Deezer subcommand. -/
def parseDeezer (env : String → Option String) (name : String) (args : List String) :
    Except Stop DeezerCommand := do
  match name with
  | "auth" =>
    let s ← scanLevel [⟨"app-id", none⟩, ⟨"app-secret", none⟩] false args
    noPositionals s
    pure (.auth (← required s "app-id" (env "DEEZER_APP_ID"))
      (← required s "app-secret" (env "DEEZER_APP_SECRET")))
  | "search" =>
    let s ← scanLevel searchSpecs false args
    pure (.search (← single s "QUERY") (← kindOption s) (← natOption s "limit" 10))
  | "library" =>
    let s ← scanLevel [] false args
    pure (.library (← libraryKind (← single s "KIND")))
  | "stream" =>
    let s ← scanLevel [⟨"output", some 'o'⟩, ⟨"seek", none⟩] false args
    let trackId ← single s "TRACK_ID"
    pure (.stream trackId (← required s "output" none) (← natOption s "seek" 0))
  | other => usage ("unrecognized subcommand '" ++ other ++ "'")

/-- Parse a SoundCloud subcommand. -/
def parseSoundcloud (name : String) (args : List String) : Except Stop SoundcloudCommand := do
  match name with
  | "search" =>
    let s ← scanLevel searchSpecs false args
    pure (.search (← single s "QUERY") (← kindOption s) (← natOption s "limit" 10))
  | "library" =>
    let s ← scanLevel [] false args
    pure (.library (← libraryKind (← single s "KIND")))
  | "stream" =>
    let s ← scanLevel [] false args
    pure (.stream (← single s "TRACK_ID"))
  | other => usage ("unrecognized subcommand '" ++ other ++ "'")

/-- Parse a command line (without the program name) in an environment. -/
def parseArgs (env : String → Option String) (args : List String) : Except Stop Invocation := do
  let top ← scanLevel [⟨"log-level", none⟩] true args
  let logLevel := (List.lookup "log-level" top.options).getD "INFO"
  let (provider, rest) ← subcommandOf top "musicbridge"
  match provider with
  | "deezer" =>
    let s ← scanLevel [⟨"access-token", none⟩] true rest
    let (name, args) ← subcommandOf s "musicbridge deezer"
    let command ← parseDeezer env name args
    pure ⟨logLevel, .deezer (optionOrEnv s "access-token" (env "DEEZER_ACCESS_TOKEN")) command⟩
  | "soundcloud" =>
    let s ← scanLevel [⟨"client-id", none⟩, ⟨"authorization", none⟩] true rest
    let (name, args) ← subcommandOf s "musicbridge soundcloud"
    let command ← parseSoundcloud name args
    pure ⟨logLevel, .soundcloud (← required s "client-id" (env "SOUNDCLOUD_CLIENT_ID"))
      (← required s "authorization" (env "SOUNDCLOUD_AUTHORIZATION")) command⟩
  | other => usage ("unrecognized subcommand '" ++ other ++ "'")

/-- The help text. -/
def helpText : String :=
  "CLI for the Deezer and SoundCloud providers\n\n" ++
  "Usage: musicbridge [OPTIONS] <COMMAND>\n\n" ++
  "Commands:\n  deezer      Talk to Deezer\n  soundcloud  Talk to SoundCloud\n\n" ++
  "Options:\n      --log-level <LOG_LEVEL>  Log level (GLOBAL, ERROR, WARN, INFO, DEBUG, TRACE) [default: INFO]\n" ++
  "  -h, --help                   Print help"

end Cli

end MusicProviders
