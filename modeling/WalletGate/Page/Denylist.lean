import WalletGate.Text.Blank
import WalletGate.Url.Basic
/-!
# Denylists

Hosts, and single paths of hosts, on whose pages the wallet stays away. An entry covers its host and
every host below it; an entry with the path `/` covers every path, and any other only its own path.
Entries are read from URLs without query and fragment, or from bare hosts.
-/

namespace WalletGate.Page

/-- A host and everything below it, or one path of these hosts. -/
structure Entry where
  host : String
  path : String
deriving DecidableEq, Repr

/-- Why a text is not an entry. -/
inductive EntryFault where
  | notUrl (entry : String) (reason : Url.Error)
  | noHost (entry : String)
  | queryOrFragment (entry : String)
deriving DecidableEq, Repr

namespace EntryFault

def reason : EntryFault → String
  | notUrl _ reason => "not a URL (" ++ reason.message ++ ")"
  | noHost _ => "no host"
  | queryOrFragment _ => "query strings and fragments are not supported"

def entry : EntryFault → String
  | notUrl entry _ | noHost entry | queryOrFragment entry => entry

def message (fault : EntryFault) : String :=
  "Invalid denylist entry `" ++ fault.entry ++ "`: " ++ fault.reason

end EntryFault

namespace Entry

/-- Reads an entry; a text without a scheme is read as the rest of an `https` URL. -/
def parse (s : String) : Except EntryFault Entry :=
  let entry := Text.trim s
  let address := if Text.containsRun "://".toList entry.toList then entry else "https://" ++ entry
  match Url.parse address with
  | .error reason => .error (.notUrl entry reason)
  | .ok url =>
    -- an entry covers whole paths, so a query or a fragment would promise too much
    if url.hasQuery || url.hasFragment then .error (.queryOrFragment entry)
    else match url.hostText? with
      | none => .error (.noHost entry)
      | some host => .ok ⟨Text.lowerText host, url.path⟩

/-- Whether the entry covers every path. -/
def isRoot (e : Entry) : Bool := e.path == "/"

/-- Whether a host is the host of the entry or below it. -/
def matchesHost (e : Entry) (host : String) : Bool :=
  host == e.host || ('.' :: e.host.toList).isSuffixOf host.toList

/-- Whether the entry covers a path of a host. -/
def blocks (e : Entry) (host path : String) : Bool :=
  e.matchesHost host && (e.isRoot || path == e.path)

end Entry

structure Denylist where
  entries : List Entry
deriving DecidableEq, Repr

namespace Denylist

/-- Reads every entry; the first bad one is reported. -/
def parse (entries : List String) : Except EntryFault Denylist :=
  (entries.mapM Entry.parse).map Denylist.mk

/-- The entries of the list that is used unless one is given, as they are written. -/
def standardTexts : List String :=
  ["https://execution.consensys.io/", "https://sharefile.com/", "https://dropbox.com/",
    "https://ipfs.io/", "https://adyen.com/", "https://gravityforms.com/",
    "https://harbourair.com/", "https://ani.gamer.com.tw/", "https://blueskybooking.com/",
    "https://battle.net/"]

/-- The hosts that are avoided unless a list is given; a text that is no entry is left out. -/
def standard : Denylist := ⟨standardTexts.filterMap fun text => (Entry.parse text).toOption⟩

/-- Whether some entry covers a path of a host. -/
def blocks (d : Denylist) (host path : String) : Bool :=
  d.entries.any (·.blocks host path)

end Denylist

end WalletGate.Page
