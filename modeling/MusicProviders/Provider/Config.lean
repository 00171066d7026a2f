import MusicProviders.Json.Decode
import MusicProviders.Provider.Logging

/-! # Provider configuration

Each provider instance is configured by an instance id, an optional display name and
a map of values. Hosts describe the values a provider understands by config entries.

* `ConfigValue` — a boolean, an integer of 64 bits, a double, a string or null.
  `ConfigValue.decoder` reads JSON by trying those shapes in turn: integers beyond the
  64-bit signed range become doubles, and arrays and objects are rejected.
* `ConfigValues` — the values by key, sorted.
* `ProviderConfig` — with `getStr` (a non-empty string value) and `logLevel`.
* `ConfigEntry` — one entry of a provider's settings form, and `logLevelEntry`, the
  entry every provider offers for its log level.
-/

namespace MusicProviders

/-- A configuration value. -/
inductive ConfigValue
  | bool (b : Bool)
  | int (n : Int)
  | float (x : Binary64)
  | string (s : String)
  | null
deriving DecidableEq, Repr, Inhabited

namespace ConfigValue

/-- The text of a string value. -/
def asStr? : ConfigValue → Option String
  | .string s => some s
  | _ => none

/-- The truth value of a boolean value. -/
def asBool? : ConfigValue → Option Bool
  | .bool b => some b
  | _ => none

/-- The JSON form of a value. -/
def toJson : ConfigValue → Json
  | .bool b => .bool b
  | .int n => Json.int n
  | .float x => .number (.float x)
  | .string s => .string s
  | .null => .null

/-- The message when a JSON value has none of the accepted shapes. -/
def mismatchMessage : String := "data did not match any variant of untagged enum ConfigValue"

/-- Read a value: a boolean, an integer in the signed 64-bit range, any other number as
a double, a string, or null. -/
def decoder : Decoder ConfigValue
  | .bool b => .ok (.bool b)
  | .number (.unsigned n) =>
    if n ≤ JsonNumber.i64Max.toNat then .ok (.int n) else .ok (.float (JsonNumber.unsigned n).asF64)
  | .number (.negative n) => .ok (.int n)
  | .number (.float x) => .ok (.float x)
  | .string s => .ok (.string s)
  | .null => .ok .null
  | _ => .error (.custom mismatchMessage)

end ConfigValue

/-- Configuration values by key, sorted by key, each key once. -/
abbrev ConfigValues := List (String × ConfigValue)

namespace ConfigValues

/-- The value of a key. -/
def get? (values : ConfigValues) (key : String) : Option ConfigValue := List.lookup key values

/-- Set the value of a key. -/
def insert (key : String) (v : ConfigValue) : ConfigValues → ConfigValues
  | [] => [(key, v)]
  | (k, w) :: rest =>
    if key = k then (key, v) :: rest
    else if key < k then (key, v) :: (k, w) :: rest
    else (k, w) :: insert key v rest

/-- Read values from a JSON object. -/
def decoder : Decoder ConfigValues := fun v => do
  let members ← Decoder.members v
  let values ← members.mapM fun (k, x) => do pure (k, ← ConfigValue.decoder x)
  pure (values.foldl (fun acc (k, x) => insert k x acc) [])

/-- The JSON object of values. -/
def toJson (values : ConfigValues) : Json := .mkObject (values.map fun (k, v) => (k, v.toJson))

end ConfigValues

/-- The key of the log level value. -/
def confLogLevel : String := "log_level"

/-- The configuration of one provider instance. -/
structure ProviderConfig where
  instanceId : String
  name : Option String
  values : ConfigValues
deriving DecidableEq, Repr, Inhabited

namespace ProviderConfig

/-- A configuration with only an instance id. -/
def new (instanceId : String) : ProviderConfig := ⟨instanceId, none, []⟩

/-- The value of a key. -/
def getValue (c : ProviderConfig) (key : String) : Option ConfigValue := c.values.get? key

/-- A non-empty string value. -/
def getStr (c : ProviderConfig) (key : String) : Option String :=
  ((c.getValue key).bind ConfigValue.asStr?).filter (!·.isEmpty)

/-- The configured log level; following the global level when unset. -/
def logLevel (c : ProviderConfig) : LogLevel := ((c.getStr confLogLevel).map LogLevel.parse).getD .global

/-- The JSON form: instance id, the name when set, and the values. -/
def toJson (c : ProviderConfig) : Json :=
  .mkObject ([("instance_id", .string c.instanceId), ("values", c.values.toJson)] ++
    (c.name.map (fun n => ("name", Json.string n))).toList)

end ProviderConfig

/-- Kind of input of a config entry. -/
inductive ConfigEntryType
  | boolean | string | secureString | integer | float | label | divider | action
deriving DecidableEq, Repr, Inhabited

/-- Wire name of an entry type. -/
def ConfigEntryType.name : ConfigEntryType → String
  | .boolean => "boolean"
  | .string => "string"
  | .secureString => "secure_string"
  | .integer => "integer"
  | .float => "float"
  | .label => "label"
  | .divider => "divider"
  | .action => "action"

/-- One entry of a provider's settings form. -/
structure ConfigEntry where
  key : String
  type : ConfigEntryType
  label : String
  required : Bool
  description : Option String
  defaultValue : Option ConfigValue
  value : Option ConfigValue
  /-- Selectable values with their titles. -/
  options : List (String × ConfigValue)
  action : Option String
  actionLabel : Option String
  advanced : Bool
deriving DecidableEq, Repr, Inhabited

namespace ConfigEntry

/-- An optional, basic entry. -/
def new (key : String) (type : ConfigEntryType) (label : String) : ConfigEntry :=
  ⟨key, type, label, false, none, none, none, [], none, none, false⟩

/-- The JSON form; absent fields and an empty option list are left out. -/
def toJson (e : ConfigEntry) : Json :=
  .mkObject ([("key", .string e.key), ("type", .string e.type.name), ("label", .string e.label),
    ("required", .bool e.required), ("advanced", .bool e.advanced)] ++
    (e.description.map (fun d => ("description", Json.string d))).toList ++
    (e.defaultValue.map (fun v => ("default_value", v.toJson))).toList ++
    (e.value.map (fun v => ("value", v.toJson))).toList ++
    (if e.options.isEmpty then [] else [("options", .array (e.options.map fun (t, v) =>
      .mkObject [("title", .string t), ("value", v.toJson)]))]) ++
    (e.action.map (fun a => ("action", Json.string a))).toList ++
    (e.actionLabel.map (fun a => ("action_label", Json.string a))).toList)

end ConfigEntry

/-- The entry of the log level: a string defaulting to `GLOBAL`, one of the level names,
among the advanced settings. -/
def logLevelEntry : ConfigEntry :=
  { ConfigEntry.new confLogLevel .string "Log level" with
    defaultValue := some (.string LogLevel.global.name)
    options := LogLevel.all.map fun l => (l.name, .string l.name)
    advanced := true }

end MusicProviders
