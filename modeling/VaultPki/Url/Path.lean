import VaultPki.Text.Commas
import VaultPki.Url.Percent

/-!
# Paths

A path is either rooted, a list of segments each behind a slash, or a single opaque text. Reading a
rooted path cuts the text at its slashes, encodes each segment and resolves the dot segments. A
segment that begins with a drive, such as `C:`, is never removed by the two dots behind it. In the
scheme of files a drive at the front is written with a colon.
-/

namespace VaultPki.Url

inductive Path where
  | rooted (segments : List String)
  | rootless (text : String)
  deriving DecidableEq

namespace Path

/-- A dot, plain or encoded, at the front of a text; gives what follows. -/
def afterDot? : List Char → Option (List Char)
  | '.' :: rest => some rest
  | '%' :: '2' :: e :: rest => if e == 'e' || e == 'E' then some rest else none
  | _ => none

def isSingleDot (segment : List Char) : Bool :=
  afterDot? segment == some []

def isDoubleDot (segment : List Char) : Bool :=
  match afterDot? segment with
  | some rest => isSingleDot rest
  | none => false

def isDrive : List Char → Bool
  | [a, b] => a.isAlpha && (b == ':' || b == '|')
  | _ => false

/-- Whether a segment is a drive, or one with a backslash behind it. -/
def beginsWithDrive (segment : List Char) : Bool :=
  isDrive (segment.take 2) && (segment.drop 2).head?.all (· == '\\')

def isDropped (c : Char) : Bool :=
  c == '\t' || c == '\n' || c == '\r'

/-- A backslash separates segments in special schemes. -/
def unifySlash (special : Bool) (c : Char) : Char :=
  if special && c == '\\' then '/' else c

def encoded (segment : List Char) : List Char :=
  Percent.encode Percent.pathSet (segment.filter fun c => !isDropped c)

/-- A drive with a colon at the front of a segment that goes on behind a dropped character: the
drive and the rest. -/
def cutDrive? (segment : List Char) : Option (List Char × List Char) :=
  let fromLetter := segment.dropWhile isDropped
  let fromColon := fromLetter.tail.dropWhile isDropped
  let drive := fromLetter.take 1 ++ fromColon.take 1
  let behind := fromColon.tail
  let rest := behind.dropWhile isDropped
  if isDrive drive && fromColon.head? == some ':' && behind.head?.any isDropped && !rest.isEmpty
  then some (drive, rest)
  else none

/-- How far the reading of a path has come: the segments behind which a slash has been read, the
last one first, and whether a drive of files has been found in front. -/
structure Walk where
  closed : List (List Char)
  foundDrive : Bool

namespace Walk

def start : Walk :=
  ⟨[], false⟩

def up (w : Walk) : Walk :=
  match w.closed with
  | [] => w
  | s :: above => if beginsWithDrive s then w else { w with closed := above }

def close (w : Walk) (segment : List Char) : Walk :=
  { w with closed := segment :: w.closed }

/-- Closes a segment that is no dot segment. In front of all others, a drive of files is written
with a colon, and what goes on behind a drive is a segment of its own. -/
def enter (files : Bool) (w : Walk) (segment : List Char) : Walk :=
  if files && w.closed.isEmpty then
    match cutDrive? segment with
    | some (drive, rest) => (w.close drive).close (encoded rest)
    | none =>
      let s := encoded segment
      if isDrive s then { closed := [s.take 1 ++ [':']], foundDrive := true } else w.close s
  else w.close (encoded segment)

/-- Reads the segments of a path from left to right. Behind a dot segment at the end stands a
slash. -/
def read (files : Bool) (w : Walk) : List (List Char) → Walk
  | [] => w
  | s :: rest =>
    let dots := encoded s
    let atEnd (w : Walk) : Walk := if rest.isEmpty then w.close [] else w
    if isDoubleDot dots then read files (atEnd w.up) rest
    else if isSingleDot dots then read files (atEnd w) rest
    else read files (w.enter files s) rest

/-- The segments that have been read, in order. Those of files do not begin with empty ones. -/
def segments (files : Bool) (w : Walk) : List String :=
  let all := w.closed.reverse
  let kept := if files then all.dropWhile List.isEmpty else all
  (if kept.isEmpty && !all.isEmpty then [[]] else kept).map String.ofList

end Walk

/-- Reads what stands behind the first slash of a path. -/
def walk (files special : Bool) (text : List Char) : Walk :=
  Walk.start.read files (Text.Commas.splitAt '/' (text.map (unifySlash special)))

/-- A text without the slash in front of it. -/
def behindSlash (special : Bool) (text : List Char) : List Char :=
  match text with
  | [] => []
  | c :: rest => if unifySlash special c == '/' then rest else text

def toText : Path → String
  | .rootless text => text
  | .rooted segments => String.ofList (segments.flatMap fun s => '/' :: s.toList)

end Path

end VaultPki.Url
