import WalletGate.Rpc.Dispatch
import WalletGate.Wallet.Order
/-!
# Methods of the host

The four methods that the host answers itself: the accounts in order, the state that a provider
starts from, what a site reports about itself, and the note that a site uses the legacy interface.
All but the first need the origin of the connection.
-/

namespace WalletGate.Rpc

open Wallet (SubjectMetadata)

/-- Goes on with the origin of the connection. -/
def withOrigin (q : Request) (next : String → Program) : Program :=
  match q.origin with
  | some origin => next origin
  | none => .fail (.internal ("Request for \"" ++ q.method ++ "\" has no origin"))

/-! ## Accounts -/

def accounts : Handler where
  methods := ["eth_accounts"]
  hooks := some (.ofList [.getAccounts, .getIdentities])
  program _ _ :=
    .ask .accounts fun accounts =>
    .ask .identities fun identities =>
    match Wallet.order accounts identities with
    | .ok ordered => .reply (.array (ordered.map .text))
    | .error address => .fail (.missingIdentity address)

/-! ## Provider state -/

def providerState : Handler where
  methods := ["metamask_getProviderState"]
  hooks := some (.ofList [.getProviderState])
  program q _ :=
    withOrigin q fun origin =>
    .ask (.providerState origin) fun state => .reply state

/-! ## Site metadata -/

/-- What a site reports about itself. -/
structure SiteReport where
  name : Option Json
  icon : Option String

namespace SiteReport

structure Draft where
  name : Option (Option Json) := none
  icon : Option (Option String) := none

def layout : Decoder.Layout Draft SiteReport where
  name := "DomainMetadataParams"
  columns := [
    Decoder.column "name" (.optional .json) Draft.name fun v d => { d with name := some v },
    Decoder.column "icon" (.optional .text) Draft.icon fun v d => { d with icon := some v }]
  start := {}
  finish d := .ok ⟨d.name.join, d.icon.join⟩

/-- The name and the icon that the parameters of a request report. -/
def ofParams (params : Option Json) : Except Fault (String × Option String) := do
  let report ← match params with
    | none => .ok ⟨none, none⟩
    | some v => ((Decoder.record layout).ofJson v).mapError fun e => .invalidParams e.message
  match report.name with
  | some (.text name) => .ok (name, report.icon)
  | _ => .error (.invalidParams "Must specify a string name.")

end SiteReport

def siteMetadata : Handler where
  methods := ["metamask_sendDomainMetadata"]
  hooks := some (.ofList [.addSubjectMetadata])
  program q _ :=
    withOrigin q fun origin =>
    match SiteReport.ofParams q.params with
    | .error fault => .fail fault
    | .ok (name, icon) =>
      .ask (.addSubject ⟨origin, name, icon⟩) fun _ => .reply (.bool true)

/-! ## Legacy interface -/

def shimUsage : Handler where
  methods := ["metamask_logWeb3ShimUsage"]
  hooks := some (.ofList [.getShimUsage, .recordShimUsage])
  program q _ :=
    withOrigin q fun origin =>
    .ask (.shimUsage origin) fun usage =>
    match usage with
    | some _ => .reply (.bool true)
    | none => .ask (.recordShimUsage origin) fun _ => .reply (.bool true)

/-! ## The table -/

/-- The handlers of the host. -/
def ownHandlers : List Handler := [accounts, providerState, siteMetadata, shimUsage]

/-- The methods of the host and then those of contributed groups, which take none of its own. -/
def Methods.hosting (contributed : List (List Handler)) : Methods :=
  .ofGroups (ownHandlers :: contributed)

end WalletGate.Rpc
