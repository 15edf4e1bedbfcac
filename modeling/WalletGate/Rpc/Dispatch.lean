import WalletGate.Rpc.Methods
/-!
# Dispatching requests

A request goes to a dispatcher and then, unless that answered it for good, to a fallback. The
dispatcher refuses the methods that nobody may use, and runs the handler of a method with those
hooks that the handler asks for and the host has. A handler that fails or breaks down is answered by
an error. Whatever happens, the response leaves with a result or an error. Each look-up and each run
of the fallback is counted where it happens.
-/

namespace WalletGate.Rpc

open Wallet (Hook Service)

/-- The methods that are refused to everyone. -/
def forbiddenMethods : List String := ["eth_signTransaction"]

/-- What answers the requests that no handler answered for good, as what it writes for each. -/
abbrev Fallback := Request → List Write

/-- Answers that nothing answers to the method. -/
def refuseUnknown : Fallback := fun r => [.error (Fault.unknownMethod r.method).object]

/-- The handlers, and what they may be granted. -/
structure Dispatcher where
  methods : Methods
  /-- The hooks that the host has. -/
  available : HookSet

/-- A dispatcher and the fallback behind it. -/
structure Endpoint where
  dispatcher : Dispatcher
  fallback : Fallback

/-- How often what stands behind an endpoint was used. -/
structure Uses where
  /-- How often the method table was looked up. -/
  lookups : Nat := 0
  /-- How often the fallback ran. -/
  forwards : Nat := 0

/-- Looks a method up, and counts it. -/
def Methods.lookUp (m : Methods) (method : String) (uses : Uses) : Option Handler × Uses :=
  (m.find? method, { uses with lookups := uses.lookups + 1 })

/-- Runs the fallback on a reply, and counts it. -/
def Fallback.run (fallback : Fallback) (q : Request) (r : Reply) (uses : Uses) : Reply × Uses :=
  ((fallback q).foldl Reply.write r, { uses with forwards := uses.forwards + 1 })

/-- What became of a request. -/
structure Outcome (σ : Type) where
  reply : Reply
  /-- The state of the wallet afterwards. -/
  state : σ
  /-- Whether the fallback takes over. -/
  goesOn : Bool
  /-- What was used on the way. -/
  uses : Uses

namespace Outcome

variable {σ : Type}

/-- The response that the reply has become. -/
def response (o : Outcome σ) : Response := o.reply.toResponse

/-- How often the method table was looked up. -/
def lookups (o : Outcome σ) : Nat := o.uses.lookups

/-- How often the fallback ran. -/
def forwards (o : Outcome σ) : Nat := o.uses.forwards

section Parts

variable (r : Reply) (s : σ) (goesOn : Bool) (uses : Uses)

@[simp] theorem response_mk : (⟨r, s, goesOn, uses⟩ : Outcome σ).response = r.toResponse := rfl

@[simp] theorem lookups_mk : (⟨r, s, goesOn, uses⟩ : Outcome σ).lookups = uses.lookups := rfl

@[simp] theorem forwards_mk : (⟨r, s, goesOn, uses⟩ : Outcome σ).forwards = uses.forwards := rfl

end Parts

end Outcome

namespace Dispatcher

/-- The hooks that a handler is given, if it asks for any. -/
def grant (d : Dispatcher) (h : Handler) : Option HookSet :=
  h.hooks.map fun hooks => HookSet.inter d.available hooks

/-- What breaking down is reported as when there is no text. -/
def brokenText : String := "handler panicked"

/-- Settles how a handler ended: whether the fallback takes over, and the reply. -/
def settle (method : String) (r : Reply) : Exit → Bool × Reply
  | .next => (true, r)
  | .ended => (false, r)
  | .failed fault => (false, r.setError fault.object)
  | .broken message =>
    (false, r.setError (Fault.handlerFailed method (message.getD brokenText)).object)

/-- Passes a request to its handler. -/
def dispatch {σ : Type} (d : Dispatcher) (b : Service σ) (q : Request) (r : Reply) (s : σ) :
    Outcome σ :=
  if q.method ∈ forbiddenMethods then
    ⟨r.setError (Fault.unsupported q.method).object, s, false, {}⟩
  else
    let (found, uses) := d.methods.lookUp q.method {}
    match found with
    | none => ⟨r, s, true, uses⟩
    | some h =>
      -- a handler that asks for no hooks runs without any
      let granted := d.grant h
      let (e, r, s) := (h.program q granted).run b (granted.getD fun _ => false) r s
      let (goesOn, r) := settle q.method r e
      ⟨r, s, goesOn, uses⟩

end Dispatcher

namespace Endpoint

/-- The reply, or an error if nobody wrote one. -/
def complete (q : Request) (r : Reply) : Reply :=
  if r.isComplete then r
  else r.setError ⟨-32603, "Response has no error or result for request: " ++ q.method, none⟩

/-- Answers a request. -/
def answer {σ : Type} (e : Endpoint) (b : Service σ) (q : Request) (s : σ) : Outcome σ :=
  let o := e.dispatcher.dispatch b q (.answering q) s
  if o.goesOn then
    let (r, uses) := e.fallback.run q o.reply o.uses
    { o with reply := complete q r, uses }
  else { o with reply := complete q o.reply }

end Endpoint

end WalletGate.Rpc
