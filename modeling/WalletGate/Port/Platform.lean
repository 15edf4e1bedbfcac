import WalletGate.Json.Record
import WalletGate.Text.Blank
/-!
# Browser platforms

The browser that the extension runs in. It fixes the scheme of the extension's own pages.
-/

namespace WalletGate

inductive Platform where
  | chrome
  | firefox
  | edge
  | opera
  | brave
deriving DecidableEq, Repr, Inhabited

namespace Platform

/-- Every platform with its name. -/
def names : List (String × Platform) :=
  [("chrome", chrome), ("firefox", firefox), ("edge", edge), ("opera", opera), ("brave", brave)]

def name : Platform → String
  | chrome => "chrome"
  | firefox => "firefox"
  | edge => "edge"
  | opera => "opera"
  | brave => "brave"

/-- The platform of a name, blanks around it and the case of its letters aside. -/
def ofName? (s : String) : Option Platform :=
  Entries.find? (Text.lowerText (Text.trim s)) names

/-- The scheme of the extension's pages. -/
def scheme : Platform → String
  | firefox => "moz-extension"
  | _ => "chrome-extension"

instance : Wire Platform where
  toJson x := .text x.name
  written x := (Json.text x.name).written
  decoder := .choice names

end Platform

end WalletGate
