import WalletGate.Rpc.Local
import WalletGate.Session.Store
import WalletGate.Settings
import WalletGate.Wallet.Basic
/-!
# The host

The host stands between pages and a wallet. What it is made of is fixed when it is assembled; what
changes while it runs is the wallet, the tab bindings, the session, and whether it is shutting down.
-/

namespace WalletGate

/-- A host over wallets with states in `β` and sessions with states in `σ`. -/
structure Host (β σ : Type) where
  policy : Port.Policy
  /-- What the background of the extension can use. -/
  runtimeApis : List String
  denylist : Page.Denylist
  endpoint : Rpc.Endpoint
  wallet : Wallet.Service β
  session : Session.Store σ

namespace Host

variable {β σ : Type}

/-- What changes while the host runs. -/
structure State (β σ : Type) where
  wallet : β
  bindings : Port.Bindings
  session : σ
  /-- Whether the host is shutting down. -/
  stopping : Bool

/-- The host of some settings. Any page can open a port, so proof of origin is required. -/
def assemble (c : Settings) (wallet : Wallet.Service β) (session : Session.Store σ) : Host β σ where
  policy := ⟨c.platform, c.extensionId, c.reservedNames, true⟩
  runtimeApis := c.runtimeApis
  denylist := c.denylist
  endpoint := ⟨⟨.hosting [], .full⟩, Rpc.refuseUnknown⟩
  wallet := wallet
  session := session

/-- The state in which a host starts. -/
def State.start (c : Settings) (wallet : β) (session : σ) : State β σ :=
  ⟨wallet, .empty c.capacity, session, false⟩

/-- Whether the background of the extension is a service worker. -/
def isServiceWorker (h : Host β σ) : Bool := "ServiceWorkerGlobalScope" ∈ h.runtimeApis

end Host

end WalletGate
