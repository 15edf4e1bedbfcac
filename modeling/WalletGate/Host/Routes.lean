import WalletGate.Host.Connection
import WalletGate.Host.Handshake
import WalletGate.Http.Form
import WalletGate.Http.MediaType
import WalletGate.Http.Message
import WalletGate.Page.Injection
import WalletGate.Url.Origin
/-!
# Routes

What the host answers over HTTP: whether it is well, whether the wallet may put its interface into a
document, and which tab of an origin last asked for accounts. No request changes the state of the
host. A port is opened by an upgrade of the connection, which a plain request cannot be granted.
-/

namespace WalletGate.Host

open Http (Request Response Answer)

variable {β σ : Type}

/-! ## Health -/

/-- The well-being of the parts of the host. -/
def health (h : Host β σ) (s : State β σ) : Answer :=
  let stored := h.session.isAvailable s.session
  let methods := h.endpoint.dispatcher.methods.size
  let well := stored && 0 < methods
  .json (if well then 200 else 503) [
    ("status", .text (if well then "ok" else "degraded")),
    ("checks", .object [
      ("service", .text "ok"),
      ("session_storage", .text (if stored then "ok" else "unavailable")),
      ("registered_methods", .whole methods)])]

/-- That the host runs at all. -/
def alive : Answer := .json 200 [("status", .text "ok")]

/-! ## Injection -/

/-- Whether the wallet may put its interface into the document of the body. -/
def injection (h : Host β σ) (r : Request) : Answer :=
  if ((r.header? "content-type").any Http.namesJson) then
    match fromText Page.Document r.body with
    | .ok document => .json 200 [("inject", .bool (h.denylist.admits document))]
    | .error .grammar => .bare 400
    | .error .shape => .bare 422
  else .bare 415

/-! ## Tab bindings -/

/-- Why there is no binding to show. -/
inductive LookupFault where
  /-- The text is not the written form of an origin. -/
  | notOrigin (s : String)
  | unbound
deriving DecidableEq, Repr

namespace LookupFault

def status : LookupFault → Nat
  | notOrigin _ => 400
  | unbound => 404

def message : LookupFault → String
  | notOrigin s => "`" ++ s ++ "` is not a web origin (expected scheme://host[:port])"
  | unbound => "No tab bound to this origin"

end LookupFault

/-- Accepts a text that is the written form of its own origin. -/
def asOrigin (s : String) : Except LookupFault String :=
  if Url.isOrigin s then .ok s else .error (.notOrigin s)

/-- The tab that an origin is bound to. -/
def lookup (b : Port.Bindings) (s : String) : Except LookupFault Int64 := do
  let origin ← asOrigin s
  match b.tab? origin with
  | some tab => .ok tab
  | none => .error .unbound

/-- The tab that the origin of the query is bound to. -/
def showBinding (r : Request) (s : State β σ) : Answer :=
  match Http.requiredField? "origin" (Http.formFields r.query) with
  | none => .bare 400
  | some origin =>
    match lookup s.bindings origin with
    | .ok tab => .json 200 [("origin", .text origin), ("tab_id", .int tab)]
    | .error fault => .json fault.status [("error", .text fault.message)]

/-! ## Ports -/

/-- Where ports are opened. -/
def portPath : String := "/v1/connect"

/-- Opens a port for a request whose connection is upgraded, or refuses it with a status. -/
def upgrade (h : Host β σ) (now : String) (r : Request) (s : State β σ) :
    Except Nat (Opening × State β σ) :=
  if r.path ≠ portPath then .error 404
  else match Handshake.ofQuery? r.query with
    | none => .error 400
    -- the policy has its say on the upgraded connection, by closing it
    | some x => .ok (h.accept now (x.port ((r.header? "origin").bind statedOrigin?)) s)

/-- Refuses to open a port: either the request does not ask for an upgrade as it should, or the
connection cannot be upgraded. -/
def refuseUpgrade (r : Request) : Answer :=
  let asks :=
    (r.header? "connection").any (fun v =>
      Text.containsRun "upgrade".toList (v.toList.map Text.lower))
    && (r.header? "upgrade").any (Text.eqIgnoringCase · "websocket")
    && (r.header? "sec-websocket-key").isSome
    && (r.header? "sec-websocket-version").any (Text.eqIgnoringCase · "13")
  if r.method ≠ "GET" then .bare 405
  else if asks then .bare 426
  else .bare 400

/-! ## The table -/

/-- The answer of a route that can be read. A request for the head gets no body. -/
def reading (r : Request) (answer : Answer) : Answer :=
  if r.method = "GET" ∨ r.method = "HEAD" then answer else .bare 405

/-- The answer to a request, by its path. -/
def route (h : Host β σ) (r : Request) (s : State β σ) : Answer :=
  match r.path with
  | "/health" | "/health/ready" => reading r (h.health s)
  | "/health/live" => reading r alive
  | "/v1/injection/check" => if r.method = "POST" then h.injection r else .bare 405
  | "/v1/request-accounts" => reading r (showBinding r s)
  | "/v1/connect" => reading r (refuseUpgrade r)
  | _ => .bare 404

/-- The response to a request. -/
def respond (h : Host β σ) (r : Request) (s : State β σ) : Response :=
  let answer := h.route r s
  let text (v : Json) : String := if r.method = "HEAD" then "" else v.written
  ⟨answer.status, answer.body.map text, r.header? "x-request-id"⟩

end WalletGate.Host
