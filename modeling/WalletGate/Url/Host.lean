import WalletGate.Domain.Ascii
import WalletGate.Net.Address
/-!
# Hosts

The host of a special URL is an address or a domain name in ASCII. Any other host is an address of
version 6 or is kept as it is, case included.
-/

namespace WalletGate.Url

/-- Why a text is not a URL. -/
inductive Error where
  | emptyHost
  /-- The host is a domain name without an ASCII form. -/
  | domainName
  /-- The host holds a character that no host may hold. -/
  | domainCharacter
  | port
  | addressV4
  | addressV6
  /-- The text has no scheme. -/
  | relative
deriving DecidableEq, Repr

def Error.message : Error → String
  | emptyHost => "empty host"
  | domainName => "invalid international domain name"
  | domainCharacter => "invalid domain character"
  | port => "invalid port number"
  | addressV4 => "invalid IPv4 address"
  | addressV6 => "invalid IPv6 address"
  | relative => "relative URL without a base"

inductive Host where
  /-- A domain name, or the host of a scheme that is not special. -/
  | name (cs : List Char)
  | v4 (address : Net.V4)
  | v6 (address : Net.V6)
deriving DecidableEq, Repr

namespace Host

def text : Host → String
  | name cs => String.ofList cs
  | v4 address => address.text
  | v6 address => "[" ++ address.text ++ "]"

/-- The address between brackets. -/
def bracketed (cs : List Char) : Except Error Host :=
  match cs.getLast? with
  | some ']' =>
    match Net.V6.ofText? cs.dropLast with
    | some address => .ok (v6 address)
    | none => .error .addressV6
  | _ => .error .addressV6

/-- The host of a special URL. -/
def ofSpecial (cs : List Char) : Except Error Host :=
  match cs with
  | [] => .error .emptyHost
  | '[' :: rest => bracketed rest
  | _ =>
    match (Text.ofBytes? (Text.unescape cs)).bind Domain.ascii? with
    | none => .error .domainName
    | some [] => .error .emptyHost
    | some domain =>
      -- a name that ends in a number is an address or no host at all
      if Net.V4.endsInNumber domain then
        match Net.V4.ofLooseText? domain with
        | some address => .ok (v4 address)
        | none => .error .addressV4
      else .ok (name domain)

/-- The characters that no host may hold. -/
def isForbidden (c : Char) : Bool :=
  c.toNat == 0 ||
    c ∈ ['\t', '\n', '\r', ' ', '#', '/', ':', '<', '>', '?', '@', '[', '\\', ']', '^', '|']

/-- Controls and all characters beyond ASCII, which are escaped wherever they stand. -/
def isUnseen (c : Char) : Bool := c.toNat < 0x20 || 0x7F ≤ c.toNat

/-- The host of a URL that is not special; it may be empty. -/
def ofOther (cs : List Char) : Except Error Host :=
  match cs with
  | '[' :: rest => bracketed rest
  | _ =>
    if cs.any isForbidden then .error .domainCharacter
    else .ok (name (Text.escape isUnseen cs))

end Host

end WalletGate.Url
