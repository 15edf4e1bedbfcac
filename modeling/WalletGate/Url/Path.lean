import WalletGate.Text.Percent
import WalletGate.Url.Scheme
/-!
# Paths

The path of a URL is read segment by segment. A segment of one dot is left out, and a segment of two
dots takes the segment before it away. In the path of a file a drive letter in front stays, and no
segment that starts with a drive letter is ever taken away.
-/

namespace WalletGate.Url.Path

/-- The characters that are escaped in a path. -/
def isEscaped (c : Char) : Bool :=
  c.toNat ≤ 0x20 || 0x7F ≤ c.toNat || c ∈ ['"', '<', '>', '`', '#', '?', '{', '}']

/-- Whether a segment is one dot, which may be escaped. -/
def isDot (segment : List Char) : Bool :=
  segment.map Text.lower ∈ [['.'], ['%', '2', 'e']]

/-- Whether a segment is two dots, each of which may be escaped. -/
def isTwoDots (segment : List Char) : Bool :=
  segment.map Text.lower ∈
    [['.', '.'], ['%', '2', 'e', '.'], ['.', '%', '2', 'e'], ['%', '2', 'e', '%', '2', 'e']]

/-- A letter and a colon. -/
def isDrive : List Char → Bool
  | [c, ':'] => Text.isLetter c
  | _ => false

/-- A letter and a colon or a bar. -/
def isDriveLike : List Char → Bool
  | [c, d] => Text.isLetter c && (d == ':' || d == '|')
  | _ => false

/-- Whether a slash and a drive letter come first, and then another segment or nothing. -/
def startsWithDrive : List Char → Bool
  | '/' :: c :: d :: rest =>
    Text.isLetter c && (d == ':' || d == '|') && (rest.head?.all (· ∈ ['/', '\\', '?', '#']))
  | _ => false

/-- The part of a path up to its last slash, that slash included. -/
def throughLastSlash (path : List Char) : List Char :=
  (path.reverse.dropWhile (· ≠ '/')).reverse

/-- The part of a path after its last slash. -/
def afterLastSlash (path : List Char) : List Char :=
  (path.reverse.takeWhile (· ≠ '/')).reverse

/-- The part of a path from its last slash on. -/
def fromLastSlash (path : List Char) : List Char :=
  if '/' ∈ path then '/' :: afterLastSlash path else []

/-- A path without the slash at its end, unless that is the first slash or follows a drive letter.
-/
def openEnd (path : List Char) : List Char :=
  match path.getLast? with
  | some '/' =>
    let before := path.dropLast
    if '/' ∈ before ∧ !startsWithDrive (fromLastSlash before ++ ['/']) then before else path
  | _ => path

/-- A path without its last segment. -/
def shorten (kind : Kind) (path : List Char) : List Char :=
  if kind = .file && isDrive (afterLastSlash path) then path else throughLastSlash path

/-- A path with a slash at its end. -/
def slashed (path : List Char) : List Char :=
  if path.getLast? = some '/' then path else path ++ ['/']

/-- A path that is being read. -/
structure Draft where
  /-- The segments that are complete, with the slashes between and after them. -/
  done : List Char
  /-- The segment that is being read. -/
  segment : List Char
  /-- Whether a drive letter has taken the place of the host. -/
  drive : Bool

/-- Completes a segment, at a slash or at the end of the path. -/
def Draft.close (kind : Kind) (draft : Draft) (slash : Bool) : Draft :=
  if isTwoDots draft.segment then
    let path := shorten kind (openEnd draft.done)
    { draft with done := if slash then slashed path else path, segment := [] }
  else if isDot draft.segment then { draft with done := slashed draft.done, segment := [] }
  else
    let ending := if slash then ['/'] else []
    -- the first segment of a file may be a drive letter, whose bar becomes a colon
    if kind = .file && draft.done.length = 1 && isDriveLike draft.segment then
      ⟨draft.done ++ draft.segment.take 1 ++ ':' :: ending, [], true⟩
    else { draft with done := draft.done ++ draft.segment ++ ending, segment := [] }

/-- Adds a character to the segment. In the path of a file a drive letter ends its segment. -/
def Draft.add (kind : Kind) (draft : Draft) (c : Char) : Draft :=
  let draft :=
    if kind = .file && isDrive ((draft.done ++ draft.segment).drop 1) then
      { draft with
        done := draft.done ++ draft.segment.take 1
        segment := draft.segment.drop 1 ++ ['/'] }
    else draft
  { draft with segment := draft.segment ++ Text.escape isEscaped [c] }

/-- Reads a path up to a query, a fragment or the end. -/
def read (kind : Kind) : List Char → Draft → Draft × List Char
  | [], draft => (draft.close kind false, [])
  | c :: rest, draft =>
    if c == '?' || c == '#' then (draft.close kind false, c :: rest)
    else if kind.isSlash c then read kind rest (draft.close kind true)
    else read kind rest (draft.add kind c)

/-- The path of a file has one slash in front. -/
def finish (kind : Kind) (path : List Char) : List Char :=
  if kind = .file then '/' :: path.dropWhile (· = '/') else path

end WalletGate.Url.Path
