import WalletGate.Port.Platform
/-!
# Ports

A port is one line from a page, or from the wallet's own windows, to the host. When it opens, its
name is chosen by the connecting end, and the sender is what the browser and the page say about it.
-/

namespace WalletGate

namespace Port

/-- What is known of the end that opened a port. -/
structure Sender where
  /-- The origin as the browser states it. -/
  origin : Option String
  /-- The tab that the page is in. -/
  tab : Option Int64
  url : Option String
deriving DecidableEq, Repr

/-- What a port is to the host. -/
inductive Class where
  /-- Its name is reserved for others. -/
  | blocked
  /-- It belongs to the wallet's own windows. -/
  | internal
  /-- It belongs to the page of an origin in a tab. -/
  | external (tab : Int64) (origin : String)
  /-- Nothing vouches for it. -/
  | rejected
deriving DecidableEq, Repr

namespace Class

def label : Class → String
  | blocked => "blocked"
  | internal => "internal"
  | external _ _ => "external"
  | rejected => "rejected"

/-- Whether the port is served at all. -/
def isOpen : Class → Bool
  | internal | external _ _ => true
  | blocked | rejected => false

end Class

end Port

/-- A port as it is reported, before it is classified. -/
structure Port where
  name : String
  sender : Option Port.Sender
deriving DecidableEq, Repr

end WalletGate
