/-! # Blank characters

The Unicode `White_Space` property: the characters that trimming removes and that
separate words.

* `isBlank` — membership, as the table of its twenty-five code points.
* `trimBlank` — drop blanks at both ends.
* `words` — the maximal runs of non-blank characters, in order.
-/

namespace MusicProviders

namespace Text

/-- The Unicode `White_Space` characters: tab to carriage return, space, next line,
no-break space, ogham space mark, the eleven spaces from en quad to hair space, line and
paragraph separators, narrow no-break space, medium mathematical space and ideographic
space. -/
def isBlank (c : Char) : Bool :=
  let n := c.toNat
  (0x09 ≤ n && n ≤ 0x0D) || n == 0x20 || n == 0x85 || n == 0xA0 || n == 0x1680 ||
  (0x2000 ≤ n && n ≤ 0x200A) || n == 0x2028 || n == 0x2029 || n == 0x202F ||
  n == 0x205F || n == 0x3000

/-- Drop blanks at the start. -/
def dropBlank (cs : List Char) : List Char := cs.dropWhile isBlank

/-- Drop blanks at both ends. -/
def trimBlankChars (cs : List Char) : List Char :=
  (dropBlank (dropBlank cs).reverse).reverse

/-- A string without blanks at either end. -/
def trimBlank (s : String) : String := String.ofList (trimBlankChars s.toList)

/-- Split off the first word: its characters and what follows it. -/
def nextWord (cs : List Char) : List Char × List Char :=
  (cs.takeWhile (fun c => !isBlank c), cs.dropWhile (fun c => !isBlank c))

/-- The words of a character list: maximal runs of non-blank characters, in order. -/
def wordsChars (cs : List Char) : List (List Char) :=
  go cs.length cs
where
  go : Nat → List Char → List (List Char)
    | 0, _ => []
    | fuel + 1, cs =>
      match dropBlank cs with
      | [] => []
      | c :: rest =>
        let (w, rest) := nextWord (c :: rest)
        w :: go fuel rest

/-- The words of a string. -/
def words (s : String) : List String := (wordsChars s.toList).map String.ofList

/-- The words of a string joined by single spaces. -/
def normalizeBlanks (s : String) : String := " ".intercalate (words s)

end Text

end MusicProviders
