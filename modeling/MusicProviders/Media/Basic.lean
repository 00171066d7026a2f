import MusicProviders.Text.Blank

/-! # Kinds and tags of the media model

* `MediaType` — what an item is; `MediaType.searchable` lists the four a search covers,
  and `MediaType.wanted` tells whether a search asks for a kind.
* `AlbumType` with `AlbumType.parse` for vendor record types (`"compile"` is a
  compilation, unknown words are `unknown`).
* `ContentType` with `ContentType.parse`, a best-effort reading of codec names, file
  extensions and mime types.
* `ImageType` and `ExternalIdKind`, with their wire names.

Every wire name is the lower-case (snake case) spelling of the constructor.
-/

namespace MusicProviders

/-- Lower-case ASCII letters; every other character is kept. -/
def asciiLower (s : String) : String := String.ofList (s.toList.map Char.toLower)

/-- Upper-case ASCII letters; every other character is kept. -/
def asciiUpper (s : String) : String := String.ofList (s.toList.map Char.toUpper)

/-- Kind of media item. -/
inductive MediaType
  | artist | album | track | playlist | radio | folder | unknown
deriving DecidableEq, Repr, Inhabited

namespace MediaType

/-- All kinds, in declaration order. -/
def all : List MediaType := [.artist, .album, .track, .playlist, .radio, .folder, .unknown]

/-- The four kinds a provider can search for. -/
def searchable : List MediaType := [.artist, .album, .track, .playlist]

/-- Whether a search asking for `mediaTypes` covers the kind `t`: an empty list asks for
every kind. -/
def wanted (mediaTypes : List MediaType) (t : MediaType) : Bool :=
  mediaTypes.isEmpty || mediaTypes.contains t

/-- Wire and display name. -/
def name : MediaType → String
  | .artist => "artist"
  | .album => "album"
  | .track => "track"
  | .playlist => "playlist"
  | .radio => "radio"
  | .folder => "folder"
  | .unknown => "unknown"

end MediaType

/-- Album release type. -/
inductive AlbumType
  | album | single | compilation | ep | unknown
deriving DecidableEq, Repr, Inhabited

namespace AlbumType

/-- All release types, in declaration order. -/
def all : List AlbumType := [.album, .single, .compilation, .ep, .unknown]

/-- Wire name. -/
def name : AlbumType → String
  | .album => "album"
  | .single => "single"
  | .compilation => "compilation"
  | .ep => "ep"
  | .unknown => "unknown"

/-- A vendor record type, compared without ASCII case: `album`, `single`, `ep`, and
`compile` or `compilation`; anything else is `unknown`. -/
def parse (value : String) : AlbumType :=
  match asciiLower value with
  | "album" => .album
  | "single" => .single
  | "ep" => .ep
  | "compile" => .compilation
  | "compilation" => .compilation
  | _ => .unknown

end AlbumType

/-- Audio container or codec. -/
inductive ContentType
  | mp3 | flac | aac | ogg | opus | m4a | wav | unknown
deriving DecidableEq, Repr, Inhabited

namespace ContentType

/-- All content types, in declaration order. -/
def all : List ContentType := [.mp3, .flac, .aac, .ogg, .opus, .m4a, .wav, .unknown]

/-- Wire name. -/
def name : ContentType → String
  | .mp3 => "mp3"
  | .flac => "flac"
  | .aac => "aac"
  | .ogg => "ogg"
  | .opus => "opus"
  | .m4a => "m4a"
  | .wav => "wav"
  | .unknown => "unknown"

/-- Name in diagnostic dumps. -/
def debugName : ContentType → String
  | .mp3 => "Mp3"
  | .flac => "Flac"
  | .aac => "Aac"
  | .ogg => "Ogg"
  | .opus => "Opus"
  | .m4a => "M4a"
  | .wav => "Wav"
  | .unknown => "Unknown"

/-- Drop every leading `x-`. -/
def dropExperimental (cs : List Char) : List Char :=
  go cs.length cs
where
  go : Nat → List Char → List Char
    | 0, cs => cs
    | fuel + 1, 'x' :: '-' :: rest => go fuel rest
    | _ + 1, cs => cs

/-- Whether `needle` occurs in `hay` as a contiguous part. -/
def occursIn (needle : List Char) : List Char → Bool
  | [] => needle.isEmpty
  | c :: rest => needle.isPrefixOf (c :: rest) || occursIn needle rest

/-- Best-effort reading of a codec name, file extension or mime type. After trimming and
ASCII lower-casing, any mention of `opus` is Opus; otherwise the text before the first
`;`, trimmed, then its last `/`-separated part without leading `x-` prefixes names the
type (`mpeg` is mp3, `mp4` is m4a, `vorbis` is ogg, `wave` is wav, `aacp` is aac). -/
def parse (value : String) : ContentType :=
  let lowered := (asciiLower (Text.trimBlank value)).toList
  if occursIn ['o', 'p', 'u', 's'] lowered then .opus
  else
    let base := Text.trimBlankChars (lowered.takeWhile (· ≠ ';'))
    let last := (base.reverse.takeWhile (· ≠ '/')).reverse
    match String.ofList (dropExperimental last) with
    | "mp3" | "mpeg" | "mpeg3" => .mp3
    | "flac" => .flac
    | "aac" | "aacp" => .aac
    | "ogg" | "vorbis" => .ogg
    | "m4a" | "mp4" => .m4a
    | "wav" | "wave" => .wav
    | _ => .unknown

end ContentType

/-- Kind of image attached to an item. -/
inductive ImageType
  | thumb | fanart | logo
deriving DecidableEq, Repr, Inhabited

namespace ImageType

/-- All image types, in declaration order. -/
def all : List ImageType := [.thumb, .fanart, .logo]

/-- Wire name. -/
def name : ImageType → String
  | .thumb => "thumb"
  | .fanart => "fanart"
  | .logo => "logo"

end ImageType

/-- Kind of external identifier; identifiers sort by kind in this order. -/
inductive ExternalIdKind
  | isrc | upc | musicbrainz
deriving DecidableEq, Repr, Inhabited

namespace ExternalIdKind

/-- All kinds, in order. -/
def all : List ExternalIdKind := [.isrc, .upc, .musicbrainz]

/-- Wire name. -/
def name : ExternalIdKind → String
  | .isrc => "isrc"
  | .upc => "upc"
  | .musicbrainz => "musicbrainz"

/-- Position in the order of kinds. -/
def rank : ExternalIdKind → Nat
  | .isrc => 0
  | .upc => 1
  | .musicbrainz => 2

end ExternalIdKind

end MusicProviders
