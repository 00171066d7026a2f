import MusicProviders.Text.Blank
import MusicProviders.Text.Alphanumeric

/-! # Splitting a track title into name and version

Vendors put the version of a recording into its title: `"Song (Radio Edit)"`,
`"Track [Extended Mix]"`, `"Digital Love - 2021 Remaster"`. `parseTitleAndVersion`
separates the two.

* `isVersionText` — some word of the text (a maximal run of letters and digits) is one
  of `versionKeywords`, compared without ASCII case.
* `bracketGroups` — the `(...)` and `[...]` groups of a title, found left to right with
  one group open at a time; a group closes at the first matching closing bracket.
* `parseTitleAndVersion` — every bracket group holding version text is cut out of the
  name, and the first one's trimmed inner text is the version. Without such a group, a
  version text after the last `" - "` becomes the version and the name is what precedes
  it. The name's blanks are normalised to single spaces.

Positions here count characters, so every cut falls between two characters.
-/

namespace MusicProviders

namespace Text

/-- Words that mark a bracketed or dashed title suffix as a version. -/
def versionKeywords : List String :=
  ["remix", "mix", "edit", "live", "acoustic", "version", "remaster", "remastered",
    "instrumental", "extended", "radio", "club", "demo", "bootleg", "rework", "vip", "dub",
    "unplugged", "mono", "stereo"]

/-- The pieces of a character list between separators: the list is cut at every
character that fails `keep`, and those characters are dropped. Consecutive separators
give empty pieces. -/
def splitWhere (keep : Char → Bool) : List Char → List (List Char)
  | [] => [[]]
  | c :: rest =>
    match splitWhere keep rest with
    | [] => [[]]
    | piece :: pieces => if keep c then (c :: piece) :: pieces else [] :: piece :: pieces

/-- The lower-case form of a character, as far as comparing with ASCII keywords needs:
ASCII letters, and the Kelvin sign `U+212A`, whose lower-case form is the letter `k`.
Every other non-ASCII character lower-cases to text that is not pure ASCII (the dotted
capital `U+0130` keeps a combining dot), so it never takes part in a keyword. -/
def keywordLower (c : Char) : Char :=
  if c.toNat = 0x212A then 'k' else c.toLower

/-- A word is a keyword when its lower-case form is one. -/
def isVersionWord (word : List Char) : Bool :=
  versionKeywords.contains (String.ofList (word.map keywordLower))

/-- Whether some alphanumeric word of the text is a version keyword. -/
def isVersionText (text : List Char) : Bool :=
  (splitWhere isAlphanumeric text).any isVersionWord

/-- The closing bracket of an opening one. -/
def closingBracket : Char → Option Char
  | '(' => some ')'
  | '[' => some ']'
  | _ => none

/-- Bracket groups from position `i` on, given the group that is open (its start and
the closing bracket it waits for). Each group is `(start, stop)`: the opening bracket is
at `start` and the closing one at `stop - 1`. -/
def bracketGroupsFrom : Nat → Option (Nat × Char) → List Char → List (Nat × Nat)
  | _, _, [] => []
  | i, none, c :: rest =>
    match closingBracket c with
    | some close => bracketGroupsFrom (i + 1) (some (i, close)) rest
    | none => bracketGroupsFrom (i + 1) none rest
  | i, some (start, close), c :: rest =>
    if c = close then (start, i + 1) :: bracketGroupsFrom (i + 1) none rest
    else bracketGroupsFrom (i + 1) (some (start, close)) rest

/-- The bracket groups of a title, left to right. -/
def bracketGroups (title : List Char) : List (Nat × Nat) := bracketGroupsFrom 0 none title

/-- The characters strictly inside a group. -/
def groupInner (title : List Char) (g : Nat × Nat) : List Char :=
  (title.drop (g.1 + 1)).take (g.2 - 1 - (g.1 + 1))

/-- The title without the characters of the given groups. -/
def removeGroups (title : List Char) (groups : List (Nat × Nat)) : List Char :=
  ((List.range title.length).zip title).filterMap fun (i, c) =>
    if groups.any (fun g => g.1 ≤ i && i < g.2) then none else some c

/-- Split at the last occurrence of `" - "`: the text before it and the text after it. -/
def splitAtLastDash : List Char → Option (List Char × List Char)
  | [] => none
  | c :: rest =>
    match splitAtLastDash rest with
    | some (head, tail) => some (c :: head, tail)
    | none =>
      match c :: rest with
      | ' ' :: '-' :: ' ' :: tail => some ([], tail)
      | _ => none

/-- Name and version of a title given as characters. -/
def splitTitle (title : List Char) : List Char × List Char :=
  let title := trimBlankChars title
  let versionGroups := (bracketGroups title).filter (fun g => isVersionText (groupInner title g))
  let (name, version) :=
    match versionGroups with
    | g :: _ => (removeGroups title versionGroups, trimBlankChars (groupInner title g))
    | [] =>
      match splitAtLastDash title with
      | some (head, tail) => if isVersionText tail then (head, trimBlankChars tail) else (title, [])
      | none => (title, [])
  (joinWords (wordsChars name), version)
where
  /-- Words joined by single spaces. -/
  joinWords (words : List (List Char)) : List Char := [' '].intercalate words

/-- Split a track title into name and version: `"Song (Radio Edit)"` and
`"Song - Radio Edit"` both give `("Song", "Radio Edit")`, while groups that are not
versions, such as `(feat. ...)`, stay in the name. The version is empty when the title
names none. -/
def parseTitleAndVersion (title : String) : String × String :=
  let (name, version) := splitTitle title.toList
  (String.ofList name, String.ofList version)

end Text

end MusicProviders
