import WalletGate.Host.Line
import WalletGate.Host.Routes
/-!
# Runs

A run of the host takes steps one at a time: ports open, frames arrive on them, the user changes the
wallet, and plain requests come in. Connections are numbered in the order in which they opened, and
a frame on a number that no connection has changes nothing.
-/

namespace WalletGate.Host

variable {σ : Type}

/-- A host at work, with every connection that has opened so far. -/
structure Run (σ : Type) where
  state : State Wallet σ
  /-- The connections, in the order in which they opened. -/
  connections : List Connection

/-- What happens to a host. -/
inductive Step where
  /-- A port opens at a time. -/
  | opens (now : String) (port : Port)
  /-- A frame arrives on the connection of a number. -/
  | frame (number : Nat) (text : String)
  /-- The user changes the wallet. -/
  | change (c : Wallet.Change)
  /-- A request comes in whose connection is not upgraded. -/
  | request (r : Http.Request)

/-- What a step is answered by. -/
inductive Reply where
  | opened (o : Opening)
  | frame (m : Option Port.Message)
  | response (r : Http.Response)
  | none

namespace Run

/-- A host before its first step. -/
def start (state : State Wallet σ) : Run σ := ⟨state, []⟩

/-- Takes a step. -/
def step (h : Host Wallet σ) (run : Run σ) : Step → Reply × Run σ
  | .opens now port =>
    let (o, state) := h.accept now port run.state
    (.opened o, ⟨state, run.connections ++ [o.connection]⟩)
  | .frame number text =>
    match run.connections[number]? with
    | some c =>
      let (m, state) := h.receive c text run.state
      (.frame m, { run with state })
    | .none => (.none, run)
  | .change c =>
    (.none, { run with state := { run.state with wallet := run.state.wallet.apply c } })
  | .request r => (.response (h.respond r run.state), run)

/-- Takes steps one after the other and collects what they are answered by. -/
def steps (h : Host Wallet σ) (run : Run σ) : List Step → List Reply × Run σ
  | [] => ([], run)
  | s :: rest =>
    let (reply, run) := run.step h s
    let (replies, run) := run.steps h rest
    (reply :: replies, run)

end Run

end WalletGate.Host
