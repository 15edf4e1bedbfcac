import WalletGate.Host.Connection
/-!
# Frames

A frame is the text of a port message. On the connection of a page, a frame that asks for accounts
binds the page's origin to its tab, whatever its substream. Only the frames of the provider's
substream are requests: each is answered by one message on that substream, and a payload that is no
request is answered by an error.
-/

namespace WalletGate.Host

variable {β σ : Type}

/-- The substream of requests and replies. -/
def providerStream : String := "metamask-provider"

/-- The method that binds an origin to a tab. -/
def accountsRequest : String := "eth_requestAccounts"

/-- The binding that a message makes, as an origin and a tab. -/
def binding? (c : Connection) (m : Port.Message) : Option (String × Int64) :=
  match c.kind with
  | .external tab origin => if m.method? = some accountsRequest then some (origin, tab) else none
  | _ => none

/-- Records the binding that a message makes. -/
def note (c : Connection) (m : Port.Message) (s : State β σ) : State β σ :=
  match binding? c m with
  | some (origin, tab) => { s with bindings := s.bindings.record origin tab }
  | none => s

/-- The answer to the payload of a provider message. -/
def answerPayload (h : Host β σ) (c : Connection) (data : Json) (s : State β σ) :
    Rpc.Response × State β σ :=
  match fromJson Rpc.Request data with
  | .ok q =>
    let o := h.endpoint.answer h.wallet { q with origin := c.origin } s.wallet
    (o.response, { s with wallet := o.state })
  | .error e =>
    let id := (data.field? "id").getD .null
    (⟨Rpc.version, id, none, some (Rpc.Fault.invalidRequest e.message).object⟩, s)

/-- The answer to a message. -/
def answerMessage (h : Host β σ) (c : Connection) (m : Port.Message) (s : State β σ) :
    Option Port.Message × State β σ :=
  let s := note c m s
  if m.name = some providerStream then
    let (r, s) := h.answerPayload c m.data s
    (some ⟨some providerStream, toJson r⟩, s)
  else (none, s)

/-- The answer to a frame. A text that is no message is passed over. -/
def receive (h : Host β σ) (c : Connection) (text : String) (s : State β σ) :
    Option Port.Message × State β σ :=
  match fromText Port.Message text with
  | .ok m => h.answerMessage c m s
  | .error _ => (none, s)

end WalletGate.Host
