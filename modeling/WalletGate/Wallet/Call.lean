import WalletGate.Wallet.Account
/-!
# Calls

What a wallet can be asked. Every question belongs to one hook, which is what a handler must be
granted to ask it. A service answers from a state of its own, which any question may change. The
snapshot that the wallet's windows start from is asked by the host alone and needs no hook.
-/

namespace WalletGate.Wallet

/-- What a handler can be granted. -/
inductive Hook where
  | getAccounts
  | getIdentities
  | getProviderState
  | addSubjectMetadata
  | getShimUsage
  | recordShimUsage
deriving DecidableEq, Repr

namespace Hook

/-- Every hook, in order. -/
def all : List Hook :=
  [getAccounts, getIdentities, getProviderState, addSubjectMetadata, getShimUsage, recordShimUsage]

def name : Hook → String
  | getAccounts => "getAccounts"
  | getIdentities => "getIdentities"
  | getProviderState => "getProviderState"
  | addSubjectMetadata => "addSubjectMetadata"
  | getShimUsage => "getWeb3ShimUsageState"
  | recordShimUsage => "setWeb3ShimUsageRecorded"

end Hook

/-- A question to the wallet. -/
inductive Call where
  /-- The accounts that can be used now. -/
  | accounts
  /-- What the user sees of each account, by address. -/
  | identities
  /-- What the provider in a page of an origin starts from. -/
  | providerState (origin : String)
  /-- Keep what a site reports about itself. -/
  | addSubject (subject : SubjectMetadata)
  | shimUsage (origin : String)
  | recordShimUsage (origin : String)
deriving DecidableEq, Repr

namespace Call

/-- The hook that the question needs. -/
def hook : Call → Hook
  | accounts => .getAccounts
  | identities => .getIdentities
  | providerState _ => .getProviderState
  | addSubject _ => .addSubjectMetadata
  | shimUsage _ => .getShimUsage
  | recordShimUsage _ => .recordShimUsage

/-- The answers to the question. -/
def Answer : Call → Type
  | accounts => List String
  | identities => Dict Identity
  | providerState _ => Json
  | addSubject _ => Unit
  | shimUsage _ => Option ShimUsage
  | recordShimUsage _ => Unit

end Call

/-- Why a service does not answer. -/
inductive Refusal where
  | locked
  /-- What a controller of the wallet says. -/
  | controller (message : String)
deriving DecidableEq, Repr

def Refusal.message : Refusal → String
  | locked => "Wallet is locked"
  | controller message => message

/-- A wallet with states in `σ`. -/
structure Service (σ : Type) where
  serve : (c : Call) → σ → Except Refusal c.Answer × σ
  /-- The snapshot for the wallet's windows, taken at the given time. -/
  snapshot : String → σ → Except Refusal Json × σ

/-- The service that refuses the questions under some hooks, or the snapshot, without an effect. -/
def Service.failing {σ : Type} (b : Service σ) (calls : Hook → Option Refusal)
    (snapshot : Option Refusal) : Service σ where
  serve c s :=
    match calls c.hook with
    | some fault => (.error fault, s)
    | none => b.serve c s
  snapshot now s :=
    match snapshot with
    | some fault => (.error fault, s)
    | none => b.snapshot now s

end WalletGate.Wallet
