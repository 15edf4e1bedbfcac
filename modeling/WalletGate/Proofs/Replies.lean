import WalletGate.Proofs.Faults
import WalletGate.Proofs.Listener
import WalletGate.Proofs.RoundTrip
/-!
# The reply to a frame

Every frame of the provider's substream is answered by one message that carries a result or an
error, also a frame whose payload is no request. Which payloads are refused as no requests is
decided by their form alone, and which id the reply has by the same form: the id of a payload that
is refused is found by a look at the payload, apart from decoding it.

* `field?_toJson`: what a written response has under its keys;
* `replyId`: the id that a payload is answered under, and `id_of_request`: a request has this id;
* `answerPayload_cases`: what becomes of a payload, and `answerPayload_reply`: the response to it on
  the assembled host, both by the form of the payload;
* `receive_replies`: the reply to a frame, whatever its text.
-/

namespace WalletGate

/-! ## Written responses -/

theorem Json.int_injective {i j : Int64} (h : Json.int i = Json.int j) : i = j := by
  injection h with h
  injection h with h
  exact Int64.toInt_inj.1 h

namespace Rpc

theorem ErrorObject.field?_toJson (e : ErrorObject) :
    (toJson e).field? "code" = some (.int e.code) ∧
      (toJson e).field? "message" = some (.text e.message) := by
  have hkeys : ["code", "data", "message"].Pairwise (· < ·) := by decide
  rw [e.toJson_eq]
  constructor
  · exact Json.field?_present (by exact hkeys) (by simp)
  · exact Json.field?_present (by exact hkeys) (by simp)

/-- An error object can be told by its text from those with another code or other words. -/
theorem ErrorObject.eq_of_toJson_eq {e e' : ErrorObject} (h : toJson e = toJson e') :
    e.code = e'.code ∧ e.message = e'.message := by
  obtain ⟨hcode, hmessage⟩ := e.field?_toJson
  obtain ⟨hcode', hmessage'⟩ := e'.field?_toJson
  rw [h, hcode'] at hcode
  rw [h, hmessage'] at hmessage
  constructor
  · exact (Json.int_injective (Option.some.inj hcode)).symm
  · injection Option.some.inj hmessage with hwords
    exact hwords.symm

theorem Response.field?_toJson (r : Response) :
    (toJson r).field? "jsonrpc" = some (.text r.jsonrpc) ∧
      (toJson r).field? "id" = some r.id ∧
      (toJson r).field? "result" = r.result ∧
      (toJson r).field? "error" = r.error.map toJson := by
  have hkeys : ["error", "id", "jsonrpc", "result"].Pairwise (· < ·) := by decide
  rw [r.toJson_eq]
  refine ⟨?_, ?_, ?_, ?_⟩
  · exact Json.field?_present (by exact hkeys) (by simp)
  · exact Json.field?_present (by exact hkeys) (by simp)
  · exact Json.field?_present (by exact hkeys) (by simp)
  · exact Json.field?_present (by exact hkeys) (by simp)

/-- The code of the error that a written response has. -/
theorem Response.errorCode_toJson_iff (r : Response) (code : Int64) :
    ((toJson r).field? "error").bind (·.field? "code") = some (.int code) ↔
      r.error.map (·.code) = some code := by
  rw [r.field?_toJson.2.2.2]
  cases r.error with
  | none => simp
  | some e =>
    simp only [Option.map_some, Option.bind_some, e.field?_toJson.1, Option.some.injEq]
    constructor
    · exact Json.int_injective
    · rintro rfl
      rfl

/-! ## The id of a reply -/

/-- The id that a payload is answered under: the id of an object, the second item of an array that
is a request, and null for any other payload. -/
def replyId (data : Json) : Json :=
  match data with
  | .object fields => ((Json.object fields).field? "id").getD .null
  | .array (_ :: id :: _) => if Request.isRequest data then id else .null
  | _ => .null

/-- A request is answered under its own id. -/
theorem id_of_request {data : Json} {q : Request} (h : Request.of? data = some q) :
    q.id = replyId data := by
  have hrequest : Request.isRequest data = true := by
    rw [← Request.isSome_of?, h]
    rfl
  cases data with
  | object fields => exact (Request.eq_of_ofParts h).1
  | array items =>
    obtain ⟨jsonrpc, id, rest, rfl, _, hid⟩ := Request.of?_array h
    simp only [replyId, hrequest, if_true]
    exact hid
  | _ => exact absurd h (by simp [Request.of?])

/-- A payload that is no request is answered under the id that a look at it finds. -/
theorem replyId_of_not_request {data : Json} (h : Request.isRequest data = false) :
    replyId data = (data.field? "id").getD .null := by
  unfold replyId
  split
  · rfl
  · rw [h]
    rfl
  · rename_i hobject _
    cases data with
    | object fields => exact absurd rfl (hobject fields)
    | _ => rfl

end Rpc

/-! ## Replies -/

namespace Host

open Rpc (OwnFault Request replyId)

variable {β σ : Type}

section Payloads

variable (h : Host β σ) (c : Connection)

/-- A payload that is no request is refused and changes nothing. One that is a request is answered
by the endpoint, as a request from the origin of the connection. -/
theorem answerPayload_cases (data : Json) (s : State β σ) :
    (Request.isRequest data = false ∧ ∃ message, h.answerPayload c data s =
      (⟨Rpc.version, replyId data, none, some (Rpc.Fault.invalidRequest message).object⟩, s)) ∨
    (Request.isRequest data = true ∧ ∃ q, Request.of? data = some q ∧
      h.answerPayload c data s =
        let o := h.endpoint.answer h.wallet { q with origin := c.origin } s.wallet
        (o.response, { s with wallet := o.state })) := by
  rcases Request.fromJson_cases data with ⟨hrequest, q, hq, hread⟩ | ⟨hnot, e, hread⟩
  · refine .inr ⟨hrequest, q, hq, ?_⟩
    simp only [answerPayload, hread]
  · refine .inl ⟨hnot, e.message, ?_⟩
    rw [Rpc.replyId_of_not_request hnot]
    simp only [answerPayload, hread]

end Payloads

section Assembled

variable (cfg : Settings) (wallet : Wallet.Service β) (session : Session.Store σ)

/-- The response of the assembled host to a payload that is a request. -/
theorem answerPayload_of_request (c : Connection) {data : Json}
    (hrequest : Request.isRequest data = true) (s : State β σ) :
    ∃ q out, q.origin = c.origin ∧ q.id = replyId data ∧
      ((assemble cfg wallet session).answerPayload c data s).1 = .ofVerdict q out ∧
      ∀ fault, out = .error fault → OwnFault wallet q fault := by
  rcases answerPayload_cases (assemble cfg wallet session) c data s with
    ⟨hnot, _⟩ | ⟨_, q, hq, hanswer⟩
  · rw [hrequest] at hnot
    exact absurd hnot (by simp)
  · -- The origin is stamped on the request, which leaves its id as it was.
    obtain ⟨out, hout, hfault⟩ := Rpc.answer_own wallet { q with origin := c.origin } s.wallet
    have hid : q.id = replyId data := Rpc.id_of_request hq
    refine ⟨{ q with origin := c.origin }, out, rfl, hid, ?_, hfault⟩
    rw [hanswer]
    exact hout

/-- Every error of the assembled host is the object of a fault: that the payload is no request, or
why the request failed. -/
theorem answerPayload_fault (c : Connection) (data : Json) (s : State β σ)
    {object : Rpc.ErrorObject}
    (herror : ((assemble cfg wallet session).answerPayload c data s).1.error = some object) :
    ∃ fault : Rpc.Fault, object = fault.object ∧
      ((∃ message, fault = .invalidRequest message) ∨
        ∃ q, q.origin = c.origin ∧ OwnFault wallet q fault) := by
  rcases answerPayload_cases (assemble cfg wallet session) c data s with
    ⟨_, message, hanswer⟩ | ⟨hrequest, _⟩
  · rw [hanswer] at herror
    exact ⟨.invalidRequest message, (Option.some.inj herror).symm, .inl ⟨message, rfl⟩⟩
  · obtain ⟨q, out, horigin, _, hanswer, hfault⟩ :=
      answerPayload_of_request cfg wallet session c hrequest s
    rw [hanswer] at herror
    cases out with
    | ok value => exact absurd herror (by simp [Rpc.Response.ofVerdict])
    | error fault =>
      exact ⟨fault, (Option.some.inj herror).symm, .inr ⟨q, horigin, hfault fault rfl⟩⟩

/-- The response to a payload: its id, that it is a result or an error and not both, and when it
refuses the payload, all by the form of the payload. -/
theorem answerPayload_reply (c : Connection) (data : Json) (s : State β σ) :
    let r := ((assemble cfg wallet session).answerPayload c data s).1
    r.jsonrpc = Rpc.version ∧ r.id = replyId data ∧ r.result.isSome = !r.error.isSome ∧
      (r.error.map (·.code) = some (-32600) ↔ Request.isRequest data = false) := by
  intro r
  rcases answerPayload_cases (assemble cfg wallet session) c data s with
    ⟨hnot, message, hanswer⟩ | ⟨hrequest, _⟩
  · -- The payload is refused, by the one fault that has this code.
    have hr : r = ⟨Rpc.version, replyId data, none,
        some (Rpc.Fault.invalidRequest message).object⟩ := congrArg Prod.fst hanswer
    rw [hr]
    exact ⟨rfl, rfl, rfl, iff_of_true rfl hnot⟩
  · obtain ⟨q, out, _, hid, hanswer, hfault⟩ :=
      answerPayload_of_request cfg wallet session c hrequest s
    have hr : r = .ofVerdict q out := hanswer
    rw [hr, hrequest, ← hid]
    cases out with
    | ok value => exact ⟨rfl, rfl, rfl, iff_of_false (by simp [Rpc.Response.ofVerdict]) (by simp)⟩
    | error fault =>
      -- A request that fails has another code, whatever it fails for.
      refine ⟨rfl, rfl, rfl, iff_of_false (fun hcode => ?_) (by simp)⟩
      exact (hfault fault rfl).code_ne (Option.some.inj hcode)

end Assembled

/-! ## Frames -/

/-- The listener touches nothing but the bindings, and of these that of the page. -/
theorem note_eq (c : Connection) (m : Port.Message) (s : State β σ) :
    note c m s = { s with bindings := (note c m s).bindings } ∧
      ((note c m s).bindings = s.bindings ∨ ∃ tab origin,
        c.kind = .external tab origin ∧ (note c m s).bindings = s.bindings.record origin tab) := by
  unfold note
  cases hbinding : binding? c m with
  | none => exact ⟨rfl, .inl rfl⟩
  | some r =>
    obtain ⟨origin, tab⟩ := r
    exact ⟨rfl, .inr ⟨tab, origin, binding?_eq_some hbinding, rfl⟩⟩

section Messages

variable (h : Host β σ) (c : Connection) {text : String} {m : Port.Message} (s : State β σ)

theorem receive_of_other (hm : fromText Port.Message text = .ok m)
    (hname : m.name ≠ some providerStream) : h.receive c text s = (none, note c m s) := by
  unfold receive
  rw [hm]
  exact if_neg hname

theorem receive_of_provider (hm : fromText Port.Message text = .ok m)
    (hname : m.name = some providerStream) :
    h.receive c text s =
      let out := h.answerPayload c m.data (note c m s)
      (some ⟨some providerStream, toJson out.1⟩, out.2) := by
  unfold receive
  rw [hm]
  exact if_pos hname

end Messages

/-- A text that is no message gets no reply and changes nothing. A message outside the provider's
substream gets no reply and changes nothing but a binding of the page. A message of the provider's
substream gets one reply on that substream, an object with the version, an id, and a result or an
error and not both. The code of the error says that the payload is no request exactly if it is none:
neither an object with a text for its method and no version or a text for it, nor an array of three
or four items of which the first and the third are texts. The id is that of the payload if it is an
object, the second item if it is an array that is a request, and null otherwise. -/
theorem receive_replies (cfg : Settings) (wallet : Wallet.Service β) (session : Session.Store σ)
    (c : Connection) (text : String) (s : State β σ) :
    let out := (assemble cfg wallet session).receive c text s
    match fromText Port.Message text with
    | .error _ => out = (none, s)
    | .ok m =>
      (m.name ≠ some "metamask-provider" →
        out.1 = none ∧ out.2 = { s with bindings := out.2.bindings } ∧
          (out.2.bindings = s.bindings ∨ ∃ tab origin,
            c.kind = .external tab origin ∧ out.2.bindings = s.bindings.record origin tab)) ∧
      (m.name = some "metamask-provider" →
        ∃ reply, out.1 = some ⟨some "metamask-provider", reply⟩ ∧
          (∃ fields, reply = .object fields) ∧
          reply.field? "jsonrpc" = some (.text "2.0") ∧
          reply.field? "id" = some (replyId m.data) ∧
          (reply.field? "result").isSome = !(reply.field? "error").isSome ∧
          ((reply.field? "error").bind (·.field? "code") = some (.int (-32600)) ↔
            Request.isRequest m.data = false)) := by
  intro out
  cases hm : fromText Port.Message text with
  | error e =>
    simp only [out, receive, hm]
  | ok m =>
    constructor
    · intro hname
      have hout : out = (none, note c m s) := receive_of_other _ c s hm hname
      rw [hout]
      exact ⟨rfl, note_eq c m s⟩
    · intro hname
      have hout : out = _ := receive_of_provider _ c s hm hname
      obtain ⟨hversion, hid, hcomplete, hcode⟩ :=
        answerPayload_reply cfg wallet session c m.data (note c m s)
      -- What is said of the reply is said of the response and carries over, since a written
      -- response has its own parts under its keys.
      rw [hout]
      generalize (assemble cfg wallet session).answerPayload c m.data (note c m s) = answer
        at hversion hid hcomplete hcode
      obtain ⟨hjsonrpc, hidField, hresult, herror⟩ := answer.1.field?_toJson
      refine ⟨toJson answer.1, rfl, ⟨_, rfl⟩, ?_, ?_, ?_, ?_⟩
      · rw [hjsonrpc, hversion]
        rfl
      · rw [hidField, hid]
      · rw [hresult, herror, Option.isSome_map]
        exact hcomplete
      · rw [answer.1.errorCode_toJson_iff]
        exact hcode

/-- A text that is read and answered, under the id of its payload. -/
example :
    ((assemble {} Wallet.service Session.memory).receive
      ⟨⟨"page", none⟩, .external 3 "https://dapp.example", some "https://dapp.example"⟩
      ("\x7b\"name\":\"metamask-provider\",\"data\":" ++
        "\x7b\"id\":7,\"method\":\"eth_accounts\"\x7d\x7d")
      (State.start {} .empty ∅)).1.map (fun reply => (toJson reply).written) =
    some ("\x7b\"data\":\x7b\"id\":7,\"jsonrpc\":\"2.0\",\"result\":[]\x7d," ++
      "\"name\":\"metamask-provider\"\x7d") := by decide +kernel

end Host

end WalletGate
