import WalletGate.Text.Letter
/-!
# Schemes

A URL starts with a scheme and a colon. Six schemes are special: their URLs always have an authority
and a path, and a backslash in them is a slash. One of them, `file`, has rules of its own.
-/

namespace WalletGate.Url

/-- How a scheme shapes its URLs. -/
inductive Kind where
  | file
  /-- A special scheme other than `file`. -/
  | special
  | other
deriving DecidableEq, Repr

namespace Kind

def ofScheme (scheme : String) : Kind :=
  if scheme = "file" then file
  else if scheme ∈ ["http", "https", "ws", "wss", "ftp"] then special
  else other

/-- Whether a backslash is a slash. -/
def isSpecial (kind : Kind) : Bool := kind != other

/-- Whether a character is a slash. -/
def isSlash (kind : Kind) (c : Char) : Bool := c == '/' || (kind.isSpecial && c == '\\')

/-- Whether a character ends an authority. -/
def endsAuthority (kind : Kind) (c : Char) : Bool := kind.isSlash c || c == '?' || c == '#'

end Kind

/-- The port that a scheme implies. -/
def defaultPort? (scheme : String) : Option Nat :=
  if scheme = "http" ∨ scheme = "ws" then some 80
  else if scheme = "https" ∨ scheme = "wss" then some 443
  else if scheme = "ftp" then some 21
  else none

def isSchemeChar (c : Char) : Bool := Text.isAlphanumeric c || c ∈ ['+', '-', '.']

/-- The scheme of a text in lower case and what follows its colon. A scheme starts with a letter. -/
def splitScheme? (cs : List Char) : Option (String × List Char) :=
  if !cs.head?.any Text.isLetter then none
  else match cs.dropWhile isSchemeChar with
    | ':' :: rest => some (String.ofList ((cs.takeWhile isSchemeChar).map Text.lower), rest)
    | _ => none

end WalletGate.Url
