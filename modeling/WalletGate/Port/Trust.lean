import WalletGate.Port.Basic
import WalletGate.Url.Origin
/-!
# Trust in ports

Which class a port belongs to. Reserved names come first, then the rule by which the platform tells
the wallet's own windows, then the tab and the URL of a page. A policy may require proof of origin:
then nothing is believed that the connecting end could have made up, and a page counts only if the
browser states the origin of its URL.
-/

namespace WalletGate.Port

/-- How a platform tells the wallet's own windows. -/
inductive TrustRule where
  /-- By the name of the port. -/
  | name
  /-- By the origin of the sender. -/
  | origin
deriving DecidableEq, Repr

/-- The rule of a platform. -/
def TrustRule.ofPlatform : Platform → TrustRule
  | .firefox => name
  | .chrome | .edge | .opera | .brave => origin

/-- The names under which the wallet's own windows open ports. -/
def windowNames : List String := ["popup", "notification", "fullscreen"]

/-- The names that are reserved unless others are given. -/
def defaultReservedNames : List String := ["trezor-connect"]

/-- What classification depends on besides the port. -/
structure Policy where
  platform : Platform
  /-- The extension's own id; empty if it has none. -/
  extensionId : String
  reservedNames : List String := defaultReservedNames
  /-- Whether only the browser's word for an origin counts. -/
  requiresProof : Bool := false

namespace Policy

def rule (p : Policy) : TrustRule := .ofPlatform p.platform

/-- The origin of the wallet's own windows. -/
def extensionOrigin? (p : Policy) : Option String :=
  if p.extensionId = "" then none else some (p.platform.scheme ++ "://" ++ p.extensionId)

def isReserved (p : Policy) (name : String) : Bool := name ∈ p.reservedNames

/-- Whether the sender has the origin of the wallet's own windows. -/
def trustsOrigin (p : Policy) (port : Port) : Bool :=
  match p.extensionOrigin?, port.sender.bind (·.origin) with
  | some own, some origin => origin == own
  | _, _ => false

/-- Whether the rule of the platform takes a port for one of the wallet's own windows. -/
def trusts (p : Policy) (port : Port) : Bool :=
  match p.rule with
  | .name => port.name ∈ windowNames && (!p.requiresProof || p.trustsOrigin port)
  | .origin => p.trustsOrigin port

/-- The class of a port that is neither reserved nor trusted. -/
def pageClass (p : Policy) (port : Port) : Class :=
  match port.sender with
  | some ⟨stated, some tab, some url⟩ =>
    match Url.originOf? url with
    | none => .rejected
    | some origin =>
      match stated with
      -- the page may have any path, so origins are compared and not the texts
      | some s => if Url.originOf? s = some origin then .external tab origin else .rejected
      | none => if p.requiresProof then .rejected else .external tab origin
  | _ => .rejected

/-- The class of a port. -/
def classOf (p : Policy) (port : Port) : Class :=
  if p.isReserved port.name then .blocked
  else if p.trusts port then .internal
  else p.pageClass port

end Policy

end WalletGate.Port
