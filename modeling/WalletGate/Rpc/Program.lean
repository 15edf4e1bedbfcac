import WalletGate.Rpc.Fault
/-!
# Handler programs

A handler acts through its arguments alone: it asks the wallet, writes to the reply, and ends in
one of four ways. A question under a hook that was not granted is answered by a fault and never
reaches the wallet.
-/

namespace WalletGate.Rpc

open Wallet (Hook Call Service)

/-- A set of hooks. -/
abbrev HookSet := Hook → Bool

namespace HookSet

/-- The hooks of a list. -/
def ofList (hooks : List Hook) : HookSet := fun h => h ∈ hooks

/-- The hooks in order. -/
def toList (hooks : HookSet) : List Hook := Hook.all.filter hooks

/-- The hooks of both sets. -/
def inter (a b : HookSet) : HookSet := fun h => a h && b h

/-- All hooks. -/
def full : HookSet := fun _ => true

end HookSet

/-- What is written to a reply. -/
inductive Write where
  | result (value : Json)
  | error (object : ErrorObject)

def Reply.write (r : Reply) : Write → Reply
  | .result value => r.setResult value
  | .error object => r.setError object

/-- How a handler ends. -/
inductive Exit where
  /-- The fallback takes over. -/
  | next
  /-- The reply stands. -/
  | ended
  | failed (fault : Fault)
  /-- The handler broke down, perhaps with a text that says why. -/
  | broken (message : Option String)

/-- What a handler does, step by step. -/
inductive Program where
  | call (c : Call) (next : Except Fault c.Answer → Program)
  | write (w : Write) (next : Program)
  | exit (e : Exit)

namespace Program

/-- Asks the wallet, and fails if there is no answer. -/
def ask (c : Call) (next : c.Answer → Program) : Program :=
  .call c fun
    | .ok a => next a
    | .error fault => .exit (.failed fault)

/-- Answers with a result. -/
def reply (value : Json) : Program := .write (.result value) (.exit .ended)

/-- Fails. -/
def fail (fault : Fault) : Program := .exit (.failed fault)

/-- Runs a program with the hooks it was granted. -/
def run {σ : Type} (b : Service σ) (granted : HookSet) :
    Program → Reply → σ → Exit × Reply × σ
  | .call c next, r, s =>
    if granted c.hook then
      let (answer, s) := b.serve c s
      run b granted (next (answer.mapError .refused)) r s
    else run b granted (next (.error (.notGranted c.hook))) r s
  | .write w next, r, s => run b granted next (r.write w) s
  | .exit e, r, s => (e, r, s)

end Program

end WalletGate.Rpc
