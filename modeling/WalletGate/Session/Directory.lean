import WalletGate.Session.Store
import WalletGate.Json.Tree
import WalletGate.Json.Written
import WalletGate.Text.Letter
/-!
# Session files

A session store that keeps each value as JSON in a file of its own. A value is first written to a
temporary file and then moved to its name, so a file never holds half a value. A key is one or more
letters, digits, hyphens and underscores; the names of files are at most 255 bytes long.
-/

namespace WalletGate.Session

/-- What a name in a directory stands for. -/
inductive Node where
  | file (text : String)
  | directory
deriving DecidableEq, Repr

/-- What stands in the place of the session directory. -/
inductive Place where
  | absent
  /-- A file, so that no session can be stored there. -/
  | file (text : String)
  | directory (nodes : Dict Node)

namespace Place

/-- Whether a file may have the name. -/
def isName (name : String) : Bool :=
  name ≠ "" && name ≠ "." && name ≠ ".." && name.utf8ByteSize ≤ 255
    && name.toList.all fun c => c != '/' && c.toNat != 0

/-- Why a file cannot be read. -/
inductive ReadFault where
  | missing
  | unreadable
deriving DecidableEq, Repr

/-- The text of a file in the directory. -/
def read (name : String) : Place → Except ReadFault String
  | absent => .error .missing
  | file _ => .error .unreadable
  | directory nodes =>
    if isName name then
      match nodes.find? name with
      | some (.file text) => .ok text
      | some .directory => .error .unreadable
      | none => .error .missing
    else .error .unreadable

/-- Writes a file in the directory, unless that cannot be done. -/
def write? (name text : String) : Place → Option Place
  | directory nodes =>
    if isName name && nodes.find? name ≠ some .directory then
      some (directory (nodes.put name (.file text)))
    else none
  | _ => none

/-- Moves a file of the directory onto another, unless that cannot be done. -/
def rename? (name name' : String) : Place → Option Place
  | directory nodes =>
    match nodes.find? name with
    | some (.file text) =>
      -- a file that has the name already is replaced, a directory never
      if isName name' && nodes.find? name' ≠ some .directory then
        some (directory ((nodes.remove name).put name' (.file text)))
      else none
    | _ => none
  | _ => none

/-- Makes a directory in the directory, unless that cannot be done. -/
def makeDirectory? (name : String) : Place → Option Place
  | directory nodes =>
    if isName name && !nodes.contains name then some (directory (nodes.put name .directory))
    else none
  | _ => none

/-- The place with a directory, created if nothing is there. -/
def opened : Place → Place
  | absent => directory ∅
  | place => place

end Place

/-- Whether a key names files. -/
def isKey (key : String) : Bool :=
  key ≠ "" && key.toList.all fun c => Text.isAlphanumeric c || c == '-' || c == '_'

/-- The file that holds the value of a key. -/
def fileName (key : String) : String := key ++ ".json"

/-- The temporary file of a key. -/
def temporaryName (key : String) : String := key ++ ".tmp"

/-- Stores a value; the temporary file stays if it cannot be moved. -/
def setFile (key : String) (value : Json) (place : Place) : Except Fault Unit × Place :=
  if isKey key then
    match place.write? (temporaryName key) value.written with
    | none => (.error .storage, place)
    | some place =>
      match place.rename? (temporaryName key) (fileName key) with
      | none => (.error .storage, place)
      | some place => (.ok (), place)
  else (.error (.invalidKey key), place)

/-- The value of a key. -/
def getFile (key : String) (place : Place) : Except Fault (Option Json) :=
  if isKey key then
    match place.read (fileName key) with
    | .error .missing => .ok none
    | .error .unreadable => .error .storage
    | .ok text =>
      match Json.parse? text with
      | some value => .ok (some value)
      | none => .error .content
  else .error (.invalidKey key)

/-- The store in files. -/
def files : Store Place where
  set := setFile
  get := getFile
  isAvailable
    | .directory _ => true
    | _ => false

end WalletGate.Session
