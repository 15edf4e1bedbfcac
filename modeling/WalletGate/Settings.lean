import WalletGate.Net.Address
import WalletGate.Page.Denylist
import WalletGate.Port.Bindings
import WalletGate.Port.Trust
/-!
# Settings

What a deployment can choose, read once from named variables. A variable that is absent or blank
counts as unset; values are trimmed before they are read. The extension's id is required, everything
else has a default, and the first variable in order that cannot be read stops the reading.
-/

namespace WalletGate

/-- How the log is written. -/
inductive LogFormat where
  | json
  | pretty
deriving DecidableEq, Repr

namespace LogFormat

def name : LogFormat → String
  | json => "json"
  | pretty => "pretty"

/-- The format of a name, blanks around it and the case of its letters aside. -/
def ofName? (s : String) : Option LogFormat :=
  Entries.find? (Text.lowerText (Text.trim s))
    [("json", json), ("pretty", pretty), ("text", pretty)]

end LogFormat

/-- The variables that settings are read from. -/
inductive Variable where
  | host
  | port
  | platform
  | extensionId
  | reservedNames
  | runtimeApis
  | denylist
  | capacity
  | sessionDirectory
  | logFormat
deriving DecidableEq, Repr

def Variable.name : Variable → String
  | host => "HOST"
  | port => "PORT"
  | platform => "BROWSER_PLATFORM"
  | extensionId => "EXTENSION_ID"
  | reservedNames => "BLOCKED_PORT_NAMES"
  | runtimeApis => "RUNTIME_APIS"
  | denylist => "INJECTION_DENYLIST"
  | capacity => "REQUEST_ACCOUNT_BINDING_CAPACITY"
  | sessionDirectory => "SESSION_DIR"
  | logFormat => "LOG_FORMAT"

structure Settings where
  /-- The address to listen on. -/
  host : Net.Address := .v4 ⟨127, 0, 0, 1⟩
  port : Nat := 8546
  platform : Platform := .chrome
  /-- The extension's own id; empty if it has none. -/
  extensionId : String := ""
  /-- Port names that belong to others. -/
  reservedNames : List String := Port.defaultReservedNames
  /-- What the background of the extension can use. -/
  runtimeApis : List String := []
  denylist : Page.Denylist := .standard
  /-- How many tab bindings are kept. -/
  capacity : Nat := Port.defaultCapacity
  /-- Where the session is stored, in memory if nowhere. -/
  sessionDirectory : Option String := none
  logFormat : LogFormat := .pretty
deriving DecidableEq, Repr

/-- Why settings cannot be read. -/
inductive SettingsFault where
  | missing (name : Variable)
  /-- The value as it was given, blanks included. -/
  | invalid (name : Variable) (value : String)
  | denylist (fault : Page.EntryFault)
deriving DecidableEq, Repr

def SettingsFault.message : SettingsFault → String
  | missing x => x.name ++ " must be set"
  | invalid x value => "Invalid value for " ++ x.name ++ ": `" ++ value ++ "`"
  | denylist fault => fault.message

namespace Settings

/-- The value of a variable, if it is set. -/
def value? (lookup : String → Option String) (x : Variable) : Option String :=
  (lookup x.name).filter fun s => !Text.isVacant s

/-- Reads a variable, or takes the default if it is unset. -/
def readOr {α : Type} (lookup : String → Option String) (x : Variable) (default : α)
    (read : String → Option α) : Except SettingsFault α :=
  match value? lookup x with
  | none => .ok default
  | some s =>
    match read s with
    | some a => .ok a
    | none => .error (.invalid x s)

/-- The items of a variable that holds a list, or the default if it is unset. -/
def listOr (lookup : String → Option String) (x : Variable) (default : List String) : List String :=
  ((value? lookup x).map Text.items).getD default

def readHost? (s : String) : Option Net.Address := Net.Address.ofText? (Text.trim s).toList

/-- An unsigned integer of sixteen bits. -/
def readPort? (s : String) : Option Nat := (Text.unsigned? (Text.trim s).toList).filter (· < 65536)

/-- A positive unsigned integer of sixty-four bits. -/
def readCapacity? (s : String) : Option Nat :=
  (Text.unsigned? (Text.trim s).toList).filter fun n => 0 < n && n < 18446744073709551616

def readExtensionId (lookup : String → Option String) : Except SettingsFault String :=
  match value? lookup .extensionId with
  -- a blank value counts as unset, so the id is never empty
  | some s => .ok (Text.trim s)
  | none => .error (.missing .extensionId)

def readDenylist (lookup : String → Option String) : Except SettingsFault Page.Denylist :=
  match value? lookup .denylist with
  | some s => (Page.Denylist.parse (Text.items s)).mapError .denylist
  | none => .ok .standard

/-- Reads the settings from the variables that `lookup` knows. -/
def load (lookup : String → Option String) : Except SettingsFault Settings := do
  let host ← readOr lookup .host (.v4 ⟨127, 0, 0, 1⟩) readHost?
  let port ← readOr lookup .port 8546 readPort?
  let platform ← readOr lookup .platform .chrome Platform.ofName?
  let extensionId ← readExtensionId lookup
  let denylist ← readDenylist lookup
  let capacity ← readOr lookup .capacity Port.defaultCapacity readCapacity?
  let logFormat ← readOr lookup .logFormat .pretty LogFormat.ofName?
  .ok {
    host, port, platform, extensionId, denylist, capacity, logFormat
    reservedNames := listOr lookup .reservedNames Port.defaultReservedNames
    runtimeApis := listOr lookup .runtimeApis []
    sessionDirectory := value? lookup .sessionDirectory }

/-- The address and port to listen on. -/
def bindAddress (s : Settings) : String := s.host.withPort s.port

end Settings

end WalletGate
