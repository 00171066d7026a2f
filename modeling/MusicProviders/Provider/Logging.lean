import MusicProviders.Media.Basic

/-! # Log levels

Each provider instance carries a log level from its configuration. `LogLevel.parse`
reads it without ASCII case and falls back to following the global level;
`LogLevel.filterDirective` turns a level into the filter text a log subscriber is
installed with: the providers log at the level, HTTP libraries stay at `warn` unless
the level is `DEBUG` or `TRACE`.
-/

namespace MusicProviders

/-- Log level selectable per provider instance; `global` follows the global level. -/
inductive LogLevel
  | global | error | warn | info | debug | trace
deriving DecidableEq, Repr, Inhabited

namespace LogLevel

/-- All levels, in declaration order. -/
def all : List LogLevel := [.global, .error, .warn, .info, .debug, .trace]

/-- A configured level, compared after ASCII upper-casing; `WARNING` is `WARN`, and
anything unknown follows the global level. -/
def parse (value : String) : LogLevel :=
  match asciiUpper value with
  | "ERROR" => .error
  | "WARN" | "WARNING" => .warn
  | "INFO" => .info
  | "DEBUG" => .debug
  | "TRACE" => .trace
  | _ => .global

/-- Configuration name of a level. -/
def name : LogLevel → String
  | .global => "GLOBAL"
  | .error => "ERROR"
  | .warn => "WARN"
  | .info => "INFO"
  | .debug => "DEBUG"
  | .trace => "TRACE"

/-- Filter name of a level; following the global level means `info`. -/
def directive : LogLevel → String
  | .global | .info => "info"
  | .error => "error"
  | .warn => "warn"
  | .debug => "debug"
  | .trace => "trace"

/-- `DEBUG` and `TRACE` also open up the HTTP libraries' logs. -/
def isVerbose : LogLevel → Bool
  | .debug | .trace => true
  | _ => false

/-- Libraries whose logs stay at `warn` unless the level is verbose. -/
def dependencyTargets : List String := ["reqwest", "hyper", "hyper_util", "h2", "rustls"]

/-- The filter text for a level: `warn` by default, the providers at the level, and the
HTTP libraries at `warn` or, for a verbose level, at the level too. -/
def filterDirective (level : LogLevel) : String :=
  let dependencyLevel := if level.isVerbose then level.directive else "warn"
  ",".intercalate
    (["warn", "musicbridge=" ++ level.directive] ++
      dependencyTargets.map (fun target => target ++ "=" ++ dependencyLevel))

end LogLevel

end MusicProviders
