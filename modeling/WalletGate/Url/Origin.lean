import WalletGate.Url.Basic
/-!
# Origins

Pages are told apart by the scheme, the host and the port of their URL. Only the schemes of the web
have such an origin; a `blob` URL has the origin of the URL that it wraps. The written form of an
origin leaves a port out that the scheme implies.
-/

namespace WalletGate.Url

structure Origin where
  scheme : String
  host : Host
  port : Nat
deriving DecidableEq, Repr

/-- The written form: scheme, host, and the port unless the scheme implies it. -/
def Origin.text (o : Origin) : String :=
  let site := o.scheme ++ "://" ++ o.host.text
  if defaultPort? o.scheme = some o.port then site else site ++ ":" ++ Text.decimal o.port

/-- The origin of a URL; `depth` bounds how many URLs wrap each other. -/
def originWithin : Nat → Url → Option Origin
  | depth, url =>
    if url.scheme = "blob" then
      match depth with
      | 0 => none
      | depth + 1 => (parse url.path).toOption.bind (originWithin depth)
    else if Kind.ofScheme url.scheme = .special then
      match url.host, url.port.or (defaultPort? url.scheme) with
      | some host, some port => some ⟨url.scheme, host, port⟩
      | _, _ => none
    else none

/-- The origin of a URL, if it has one. Each URL that wraps another is longer than it. -/
def origin? (url : Url) : Option Origin := originWithin url.path.length url

/-- The written origin of a text, if it is a URL with an origin. -/
def originOf? (s : String) : Option String :=
  ((parse s).toOption.bind origin?).map Origin.text

/-- Whether a text is the written form of its own origin. -/
def isOrigin (s : String) : Bool := originOf? s == some s

end WalletGate.Url
