import MusicProviders.Text.FormEncode
import MusicProviders.Text.Utf8

/-! # URLs and their queries

Providers build request URLs from a base URL, a path and query parameters; servers
read the path and the decoded query pairs back.

* `Url.withQuery` — append form-encoded pairs to a URL, after `?` or, when the URL
  already has a query, after `&`; no pairs leave the URL as it is.
* `Url.path`, `Url.queryPairs` — the path of a URL (from the first `/` after the
  authority up to `?` or `#`) and its query pairs, decoded.
* `formDecode` — the inverse of form encoding: `+` is a space, `%XX` a byte.
-/

namespace MusicProviders

namespace Url

/-- The URL with the given pairs added to its query. -/
def withQuery (url : String) (pairs : List (String × String)) : String :=
  if pairs.isEmpty then url
  else url ++ (if url.toList.contains '?' then "&" else "?") ++ Text.formQuery pairs

/-- The part of a URL after its scheme and authority: from the first `/` that follows
`//`, or the whole text when it has no `//`. -/
def afterAuthority (url : String) : List Char :=
  let cs := url.toList
  let rec find : List Char → Option (List Char)
    | '/' :: '/' :: rest => some rest
    | _ :: rest => find rest
    | [] => none
  match find cs with
  | some rest => rest.dropWhile (· ≠ '/')
  | none => cs

/-- The path of a URL, `/` when it has none. -/
def path (url : String) : String :=
  let p := (afterAuthority url).takeWhile (fun c => c ≠ '?' && c ≠ '#')
  if p.isEmpty then "/" else String.ofList p

/-- The raw query text of a URL, without `?` and fragment. -/
def queryText (url : String) : Option String :=
  let rest := (afterAuthority url).dropWhile (· ≠ '?')
  match rest with
  | '?' :: q => some (String.ofList (q.takeWhile (· ≠ '#')))
  | _ => none

end Url

namespace Text

/-- The value of a hexadecimal digit. -/
def hexDigitValue? (c : Char) : Option Nat :=
  if '0' ≤ c ∧ c ≤ '9' then some (c.toNat - '0'.toNat)
  else if 'a' ≤ c ∧ c ≤ 'f' then some (c.toNat - 'a'.toNat + 10)
  else if 'A' ≤ c ∧ c ≤ 'F' then some (c.toNat - 'A'.toNat + 10)
  else none

/-- The bytes of form-encoded text: `+` is a space, `%` and two hexadecimal digits a
byte, and any other character its UTF-8 bytes. -/
def formDecodeBytes : List Char → List UInt8
  | [] => []
  | '+' :: rest => 0x20 :: formDecodeBytes rest
  | '%' :: h :: l :: rest =>
    match hexDigitValue? h, hexDigitValue? l with
    | some a, some b => UInt8.ofNat (16 * a + b) :: formDecodeBytes rest
    | _, _ => 0x25 :: formDecodeBytes (h :: l :: rest)
  | c :: rest => (String.singleton c).toUTF8.toList ++ formDecodeBytes rest

/-- Form-decoded text; invalid UTF-8 becomes the replacement character. -/
def formDecode (s : String) : String := decodeUtf8Lossy (formDecodeBytes s.toList)

end Text

namespace Url

/-- The decoded query pairs of a URL, in order: the pieces between `&`, each a key up to
its first `=` and a value after it; a piece without `=` has an empty value. -/
def queryPairs (url : String) : List (String × String) :=
  match queryText url with
  | none => []
  | some q =>
    ((q.toList.splitOn '&').filter (!·.isEmpty)).map fun piece =>
      (Text.formDecode (String.ofList (piece.takeWhile (· ≠ '='))),
        Text.formDecode (String.ofList ((piece.dropWhile (· ≠ '=')).drop 1)))

end Url

end MusicProviders
