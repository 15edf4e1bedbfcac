import WalletGate.Text.Blank
import WalletGate.Text.Letter
/-!
# Media types

Whether the body of a request is JSON, by its media type: `application/json`, or any `application`
type that is built on JSON. Parameters are read and do not matter, but they must be well formed.
-/

namespace WalletGate.Http

/-- The characters of names and of values without quotes. -/
def isTokenChar (c : Char) : Bool :=
  Text.isAlphanumeric c
    || c ∈ ['!', '#', '$', '%', '&', '\'', '*', '+', '-', '.', '^', '_', '`', '|', '~']

/-- The characters of values in quotes. -/
def isQuotedChar (c : Char) : Bool := 32 ≤ c.toNat && c.toNat != 127

/-- What follows a value in quotes, from behind the opening quote on. The value is not empty, so a
quote that comes first belongs to it. -/
def afterQuoted? : List Char → Option (List Char)
  | [] => none
  | first :: rest =>
    match rest.dropWhile fun c => isQuotedChar c && c != '"' with
    | '"' :: rest => if isQuotedChar first then some rest else none
    | _ => none

/-- Whether the rest of a media type, from behind a semicolon on, is a list of parameters. -/
def areParameters : Nat → List Char → Bool
  | 0, _ => false
  | fuel + 1, cs =>
    let cs := cs.dropWhile (· == ' ')
    let name := cs.takeWhile isTokenChar
    match cs.drop name.length with
    | '=' :: '"' :: rest =>
      !name.isEmpty && (afterQuoted? rest).any fun rest =>
        match rest.dropWhile (· == ' ') with
        | [] => true
        | ';' :: rest => areParameters fuel rest
        | _ => false
    | '=' :: rest =>
      let value := rest.takeWhile isTokenChar
      !name.isEmpty &&
        match rest.drop value.length with
        | [] => true
        | ';' :: rest => !value.isEmpty && areParameters fuel rest
        | _ => false
    | _ => cs.isEmpty

/-- The subtype and what it is built on: the parts before and after the last plus sign, which is
never the first character. -/
def splitSubtype (cs : List Char) : List Char × Option (List Char) :=
  let suffix := cs.reverse.takeWhile (· != '+')
  match cs.reverse.drop suffix.length with
  | [] | [_] => (cs, none)
  | _ :: before => (before.reverse, some suffix.reverse)

/-- Whether a media type, in lower case, is one of JSON. -/
def isJsonType (cs : List Char) : Bool :=
  let type := cs.takeWhile isTokenChar
  match cs.drop type.length with
  | '/' :: rest =>
    let subtype := rest.takeWhile isTokenChar
    let parameters := match rest.drop subtype.length with
      | [] => true
      | ';' :: rest => areParameters (rest.length + 1) rest
      | _ => false
    let (base, suffix) := splitSubtype subtype
    !subtype.isEmpty && parameters && type = "application".toList
      && (base = "json".toList || suffix = some "json".toList)
  | _ => false

/-- Whether the value of a content type header names JSON. -/
def namesJson (s : String) : Bool :=
  s.toList.all (fun c => c == '\t' || (32 ≤ c.toNat && c.toNat < 127))
    && isJsonType (s.toList.map Text.lower)

end WalletGate.Http
