import MusicProviders.Json.Basic

/-! # Writing JSON text

`Json.render` writes a value compactly: no blanks, object members in their stored
(sorted) order, numbers by `JsonNumber.text`, and strings quoted by `Json.quote`, which
escapes the quote, the backslash and the control characters (the five with short forms
as `\b \t \n \f \r`, the rest as `\u00XX` with lower-case hex) and nothing else.
`sortByText` orders values by that text.
-/

namespace MusicProviders

namespace Json

/-- Lower-case hexadecimal digit of a value below sixteen. -/
def hexDigit (n : Nat) : Char :=
  if n < 10 then Char.ofNat ('0'.toNat + n) else Char.ofNat ('a'.toNat + n - 10)

/-- The escaped form of one character inside a JSON string. -/
def escapeChar (c : Char) : List Char :=
  if c = '"' then ['\\', '"']
  else if c = '\\' then ['\\', '\\']
  else if c = '\x08' then ['\\', 'b']
  else if c = '\t' then ['\\', 't']
  else if c = '\n' then ['\\', 'n']
  else if c = '\x0c' then ['\\', 'f']
  else if c = '\r' then ['\\', 'r']
  else if c.toNat < 0x20 then ['\\', 'u', '0', '0', hexDigit (c.toNat / 16), hexDigit (c.toNat % 16)]
  else [c]

/-- A string as a JSON string literal, quotes included. -/
def quote (s : String) : String :=
  String.ofList ('"' :: (s.toList.flatMap escapeChar ++ ['"']))

mutual

/-- Compact JSON text of a value. -/
def render : Json → String
  | .null => "null"
  | .bool true => "true"
  | .bool false => "false"
  | .number n => n.text
  | .string s => quote s
  | .array items => "[" ++ renderItems items ++ "]"
  | .object fields => "\x7b" ++ renderFields fields ++ "\x7d"

/-- Items separated by commas. -/
def renderItems : List Json → String
  | [] => ""
  | [v] => render v
  | v :: rest => render v ++ "," ++ renderItems rest

/-- Members `"key":value` separated by commas. -/
def renderFields : List (String × Json) → String
  | [] => ""
  | [(k, v)] => quote k ++ ":" ++ render v
  | (k, v) :: rest => quote k ++ ":" ++ render v ++ "," ++ renderFields rest

end

/-- Insert into a list sorted by text, keeping it sorted (equal texts keep their order). -/
def insertByText (x : String × Json) : List (String × Json) → List (String × Json)
  | [] => [x]
  | y :: ys => if x.1 < y.1 then x :: y :: ys else y :: insertByText x ys

end Json

/-- JSON values sorted by their compact text, compared character by character (which is
the order of their UTF-8 bytes); values of equal text keep their order. -/
def sortByText (values : List Json) : List Json :=
  (values.foldl (fun acc v => Json.insertByText (v.render, v) acc) []).map (·.2)

end MusicProviders
