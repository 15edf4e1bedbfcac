import WalletGate.Host.Basic
import WalletGate.Port.Message
/-!
# Connections

A port is classified once, when it opens, and its class and the origin of its requests never change.
When one of the wallet's own windows connects, the snapshot it starts from is stored in the session,
and the window is greeted if the background is a service worker. If the snapshot or the storing
fails the connection is none the worse for it.
-/

namespace WalletGate.Host

variable {β σ : Type}

/-- A port that has been classified. -/
structure Connection where
  port : Port
  kind : Port.Class
  /-- The origin of every request on this connection. -/
  origin : Option String
deriving DecidableEq, Repr

namespace Connection

def isOpen (c : Connection) : Bool := c.kind.isOpen

/-- The origin that the browser stated. -/
def statedOrigin? (c : Connection) : Option String := c.port.sender.bind (·.origin)

/-- The tab that the sender named. -/
def senderTab? (c : Connection) : Option Int64 := c.port.sender.bind (·.tab)

/-- The connection of a port under a policy. -/
def ofPort (p : Port.Policy) (port : Port) : Connection :=
  let kind := p.classOf port
  { port, kind
    origin := match kind with
      | .internal => (port.sender.bind (·.origin)).or p.extensionOrigin?
      | .external _ origin => some origin
      | .blocked | .rejected => none }

end Connection

/-- A connection, and the message that it starts with. -/
structure Opening where
  connection : Connection
  greeting : Option Port.Message

/-- The key under which the session keeps the snapshot for the wallet's windows. -/
def snapshotKey : String := "uiBootstrapState"

/-- The message that greets the wallet's windows. -/
def greeting : Port.Message := ⟨some "CONNECTION_READY", .null⟩

/-- Stores a snapshot of the wallet in the session. -/
def storeSnapshot (h : Host β σ) (now : String) (s : State β σ) : State β σ :=
  match h.wallet.snapshot now s.wallet with
  | (.error _, wallet) => { s with wallet }
  | (.ok snapshot, wallet) =>
    { s with wallet, session := (h.session.set snapshotKey snapshot s.session).2 }

/-- Opens a port at the given time. -/
def accept (h : Host β σ) (now : String) (port : Port) (s : State β σ) : Opening × State β σ :=
  let c := Connection.ofPort h.policy port
  match c.kind with
  | .internal => (⟨c, if h.isServiceWorker then some greeting else none⟩, h.storeSnapshot now s)
  | _ => (⟨c, none⟩, s)

end WalletGate.Host
