import ProbeLifecycle.Text.Percent

/-!
# Paths of web addresses

A path is a nonempty list of segments, kept as all but the last and the last,
which is empty when the path ends with a slash.  Segments hold text that is
already percent-encoded.  A segment `.` names the place it stands in and `..`
the place above it; both are resolved when a path is read, and also when they
are added to one under disguise of ignored characters.
-/

namespace ProbeLifecycle

open Text

def isVisibleAscii (char : Char) : Bool :=
  0x20 ≤ char.toNat && char.toNat < 0x7F

/-- A keep-set: the visible ASCII characters without the ones listed. -/
def visibleExcept (escaped : List Char) (char : Char) : Bool :=
  isVisibleAscii char && !escaped.contains char

def isPathChar : Char → Bool :=
  visibleExcept [' ', '"', '#', '<', '>', '?', '`', '\x7b', '\x7d']

def isSegmentChar : Char → Bool :=
  visibleExcept
    [' ', '"', '#', '<', '>', '?', '`', '\x7b', '\x7d', '/', '%', '\\']

/-- Tabs, line feeds and carriage returns, which addresses ignore. -/
def isIgnoredChar (char : Char) : Bool :=
  char == '\t' || char == '\n' || char == '\r'

structure Path where
  before : List String
  last : String
  deriving DecidableEq, Repr

namespace Path

def root : Path := ⟨[], ""⟩

def segments (path : Path) : List String :=
  path.before ++ [path.last]

/-- Each segment after a slash. -/
def chars (path : Path) : List Char :=
  path.segments.flatMap fun segment => '/' :: segment.toList

/-- Whether a segment is a letter and a colon or a bar, as drives are named;
such a segment is never left upwards. -/
def isDrive (segment : String) : Bool :=
  match segment.toList with
  | [letter, mark] => letter.isAlpha && (mark == ':' || mark == '|')
  | _ => false

/-- The segments of the place above. -/
def parent (segments : List String) : List String :=
  match segments.getLast? with
  | some last => if isDrive last then segments else segments.dropLast
  | none => []

/-- The dot and its percent-encoded forms. -/
def dotForms : List String := [".", "%2e", "%2E"]

def isSingleDot (segment : String) : Bool :=
  dotForms.contains segment

def isDoubleDot (segment : String) : Bool :=
  dotForms.any fun first => dotForms.any fun second =>
    segment == first ++ second

/-- The segments after going through one more that a slash follows. -/
def descend (segments : List String) (segment : String) : List String :=
  if isDoubleDot segment then parent segments
  else if isSingleDot segment then segments
  else segments ++ [segment]

def ending (segments : List String) (segment : String) : Path :=
  if isDoubleDot segment then ⟨parent segments, ""⟩
  else if isSingleDot segment then ⟨segments, ""⟩
  else ⟨segments, segment⟩

/-- Goes through segments and ends with the last of them. -/
def walk (before : List String) : List String → Path
  | [] => ⟨before, ""⟩
  | [segment] => ending before segment
  | segment :: segments => walk (descend before segment) segments

def ofChars (chars : List Char) : Path :=
  let pieces :=
    (chars.map fun char => if char = '\\' then '/' else char).splitOn '/'
  walk [] (pieces.map fun piece => .ofList (percentEncode isPathChar piece))

/-- The path without a single empty segment at its end. -/
def popIfEmpty (path : Path) : Path :=
  if path.last = "" then
    match path.before.getLast? with
    | some last => ⟨path.before.dropLast, last⟩
    | none => path
  else path

/-- The segments that a segment is added after: a lone slash is replaced. -/
def base (path : Path) : List String :=
  if path = root then [] else path.segments

/-- Text as a segment to be added, without the characters that are ignored. -/
def encodeSegment (text : String) : String :=
  .ofList (percentEncode isSegmentChar
    (text.toList.filter fun char => !isIgnoredChar char))

/-- Adds text as one segment.  A plain dot segment adds nothing. -/
def push (path : Path) (text : String) : Path :=
  if text = "." ∨ text = ".." then path
  else ending path.base (encodeSegment text)

def extend (path : Path) (texts : List String) : Path :=
  texts.foldl push path

end Path

end ProbeLifecycle
