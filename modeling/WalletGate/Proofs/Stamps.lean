import WalletGate.Proofs.Admission
import WalletGate.Proofs.Replies
/-!
# Whose requests are answered

The origin of a request is that of the connection it arrives on, and nothing that a frame says takes
part in it. Payloads that agree where a request is read from them are not told apart, in whatever
else they differ, and no form of a request is long enough to reach a place for the origin.

* `receive_congr`: frames whose payloads agree on the keys of a request do the same;
* `receive_long_array`: a payload of more than four items is refused;
* `error_of_stamped`: on a connection that has an origin no request fails for want of one;
* `receive_stamps`: all of this, and that every open connection has an origin.
-/

namespace WalletGate.Host

open Rpc (Request OwnFault)

variable {β σ : Type}

/-! ## Frames that agree -/

/-- The listener and the bindings see of a message its method alone. -/
theorem note_congr (c : Connection) {m m' : Port.Message} (hmethod : m.method? = m'.method?)
    (s : State β σ) : note c m s = note c m' s := by
  have hbinding : binding? c m = binding? c m' := by
    unfold binding?
    rw [hmethod]
  unfold note
  rw [hbinding]

theorem answerPayload_congr (h : Host β σ) (c : Connection) {data data' : Json}
    (hread : fromJson Request data = fromJson Request data')
    (hid : data.field? "id" = data'.field? "id") (s : State β σ) :
    h.answerPayload c data s = h.answerPayload c data' s := by
  unfold answerPayload
  rw [hread, hid]

section Agree

variable {m m' : Port.Message} {fields fields' : List (String × Json)}

/-- Frames whose payloads are objects that have the same under the keys of a request do the same, if
both or none of them are on the provider's substream. -/
theorem receive_congr (h : Host β σ) (c : Connection) {text text' : String}
    (hm : fromText Port.Message text = .ok m) (hm' : fromText Port.Message text' = .ok m')
    (hname : m.name = some providerStream ↔ m'.name = some providerStream)
    (hdata : m.data = .object fields) (hdata' : m'.data = .object fields')
    (hsame : ∀ key ∈ ["jsonrpc", "id", "method", "params"],
      m.data.field? key = m'.data.field? key) (s : State β σ) :
    h.receive c text s = h.receive c text' s := by
  -- The listener looks at one of the keys, and the endpoint at all of them.
  have hnote : note c m s = note c m' s := by
    refine note_congr c ?_ s
    unfold Port.Message.method?
    rw [hsame "method" (by simp)]
  by_cases hprovider : m.name = some providerStream
  · have hread : fromJson Request m.data = fromJson Request m'.data := by
      rw [hdata, hdata'] at hsame ⊢
      exact Request.fromJson_object_congr hsame
    rw [receive_of_provider h c s hm hprovider, receive_of_provider h c s hm' (hname.1 hprovider),
      hnote, answerPayload_congr h c hread (hsame "id" (by simp))]
  · rw [receive_of_other h c s hm hprovider, receive_of_other h c s hm' (mt hname.2 hprovider),
      hnote]

end Agree

/-! ## Payloads that are too long -/

/-- A payload of more than four items is refused before any handler sees it. -/
theorem receive_long_array (h : Host β σ) (c : Connection) {text : String} {m : Port.Message}
    (hm : fromText Port.Message text = .ok m) (hname : m.name = some providerStream)
    {items : List Json} (hdata : m.data = .array items) (hlong : 4 < items.length)
    (s : State β σ) :
    handed? text = none ∧ ∃ message,
      h.receive c text s = (some ⟨some providerStream, toJson (⟨Rpc.version, .null, none,
        some (Rpc.Fault.invalidRequest message).object⟩ : Rpc.Response)⟩, s) := by
  -- The payload is no request by its length alone, and an array is answered without an id.
  have hnot : Request.isRequest m.data = false := by
    rw [hdata]
    exact Request.isRequest_of_long hlong
  have hid : Rpc.replyId m.data = .null := by
    rw [Rpc.replyId_of_not_request hnot, hdata]
    rfl
  -- The listener finds no method in an array.
  have hnote : note c m s = s := by
    have hmethod := Port.Message.method?_eq_none_of_array hdata
    have hbinding : binding? c m = none := by
      unfold binding?
      rw [hmethod]
      split
      · rfl
      · rfl
    unfold note
    rw [hbinding]
  constructor
  · unfold handed?
    rw [hm]
    simp only [hname, if_true]
    rw [Request.toOption_fromJson, Option.map_eq_none_iff, ← Option.not_isSome_iff_eq_none,
      Request.isSome_of?, hnot]
    exact Bool.false_ne_true
  · rcases answerPayload_cases h c m.data s with ⟨_, message, hanswer⟩ | ⟨hrequest, _⟩
    · refine ⟨message, ?_⟩
      rw [receive_of_provider h c s hm hname, hnote, hanswer, hid]
    · rw [hnot] at hrequest
      exact absurd hrequest (by simp)

/-! ## Connections with an origin -/

/-- Where proof of origin is required, the wallet's own windows are believed on the stated origin.
-/
theorem trustsOrigin_of_trusts {p : Port.Policy} (hproof : p.requiresProof = true) {port : Port}
    (htrusts : p.trusts port = true) : p.trustsOrigin port = true := by
  unfold Port.Policy.trusts at htrusts
  rw [hproof] at htrusts
  split at htrusts
  · simp only [Bool.not_true, Bool.false_or, Bool.and_eq_true] at htrusts
    exact htrusts.2
  · exact htrusts

theorem trusts_of_internal {p : Port.Policy} {port : Port} (hclass : p.classOf port = .internal) :
    p.trusts port = true := by
  unfold Port.Policy.classOf at hclass
  split at hclass
  · exact absurd hclass (by simp)
  · split at hclass
    · rename_i htrusts
      exact htrusts
    · rcases pageClass_eq_rejected_or p port with hrejected | ⟨tab, origin, hpage⟩
      · exact absurd (hrejected.symm.trans hclass) (by simp)
      · exact absurd (hpage.symm.trans hclass) (by simp)

/-- Where proof of origin is required, every open connection has an origin. -/
theorem origin_isSome_of_open {p : Port.Policy} (hproof : p.requiresProof = true) {port : Port}
    (hopen : (Connection.ofPort p port).isOpen = true) :
    (Connection.ofPort p port).origin.isSome = true := by
  cases hkind : (Connection.ofPort p port).kind with
  | internal =>
    -- A window is believed on the stated origin, so there is one.
    have hclass : p.classOf port = .internal := hkind
    have htrusts : p.trustsOrigin port = true :=
      trustsOrigin_of_trusts hproof (trusts_of_internal hclass)
    unfold Port.Policy.trustsOrigin at htrusts
    split at htrusts
    · rename_i hstated
      unfold Connection.ofPort
      simp only [hclass, hstated, Option.some_or, Option.isSome_some]
    · exact absurd htrusts (by simp)
  | external tab origin =>
    rw [origin_of_external hkind]
    rfl
  | blocked => simp [Connection.isOpen, hkind, Port.Class.isOpen] at hopen
  | rejected => simp [Connection.isOpen, hkind, Port.Class.isOpen] at hopen

section Assembled

variable (cfg : Settings) (wallet : Wallet.Service β) (session : Session.Store σ)

/-- On a connection that has an origin no frame is answered by the error for want of one, unless the
wallet refuses in just these words. -/
theorem error_of_stamped {c : Connection} (horigin : c.origin ≠ none) {text : String}
    {s : State β σ} {reply : Port.Message}
    (hreply : ((assemble cfg wallet session).receive c text s).1 = some reply) (q : Request)
    (herror : reply.data.field? "error" = some (toJson q.originFault.object)) :
    ∃ call w, (wallet.serve call w).1 = .error (.controller q.originFault.message) := by
  cases hm : fromText Port.Message text with
  | error e =>
    simp only [receive, hm] at hreply
    exact absurd hreply (by simp)
  | ok m =>
    by_cases hname : m.name = some providerStream
    · rw [receive_of_provider _ c s hm hname] at hreply
      obtain rfl := Option.some.inj hreply
      rw [(Rpc.Response.field?_toJson _).2.2.2] at herror
      obtain ⟨object, hobject, hsame⟩ := Option.map_eq_some_iff.1 herror
      obtain ⟨fault, rfl, hfault⟩ :=
        answerPayload_fault cfg wallet session c m.data (note c m s) hobject
      obtain ⟨hcode, hmessage⟩ := Rpc.ErrorObject.eq_of_toJson_eq hsame
      -- The error is that of a fault, which is told by its code and its words.
      rcases hfault with ⟨message, rfl⟩ | ⟨q', hstamp, hown⟩
      · exact absurd hcode (by decide : (-32600 : Int64) ≠ -32603)
      · rw [← hstamp] at horigin
        exact hown.refused_of_originless horigin hcode hmessage
    · rw [receive_of_other _ c s hm hname] at hreply
      exact absurd hreply (by simp)

end Assembled

/-! ## The origin of requests -/

/-- What is read from a frame has no origin, and the request that is answered has the origin of the
connection. -/
theorem receive_of_request (h : Host β σ) (c : Connection) {text : String} {data : Json}
    {q : Request} (hhanded : handed? text = some (data, q)) (s : State β σ) :
    q.origin = none ∧
      let o := h.endpoint.answer h.wallet { q with origin := c.origin } s.wallet
      (h.receive c text s).1 = some ⟨some providerStream, toJson o.response⟩ ∧
        (h.receive c text s).2.wallet = o.state := by
  obtain ⟨m, hm, hdata, hread, hreceive⟩ := receive_of_handed? h c hhanded s
  rw [hreceive]
  refine ⟨?_, rfl, rfl⟩
  exact Request.origin_of_of? (Request.of?_of_ok hread)

/-- A frame that gives the endpoint no request never asks it. -/
theorem receive_of_not_handed (h : Host β σ) (c : Connection) {text : String}
    (hhanded : handed? text = none) (endpoint : Rpc.Endpoint) (s : State β σ) :
    ({ h with endpoint } : Host β σ).receive c text s = h.receive c text s := by
  unfold handed? at hhanded
  unfold receive
  cases hm : fromText Port.Message text with
  | error e => rfl
  | ok m =>
    rw [hm] at hhanded
    by_cases hname : m.name = some providerStream
    · simp only [hname, if_true, Option.map_eq_none_iff] at hhanded
      cases hread : fromJson Request m.data with
      | ok q => simp [hread, Except.toOption] at hhanded
      | error e => simp only [answerMessage, answerPayload, hread]
    · simp only [answerMessage, if_neg hname]

/-- No frame chooses an origin. The request that a frame gives the endpoint has the origin of the
connection, and nothing that was read from the frame in its place; a frame that gives it no request
never asks it. Frames whose payloads are objects that have the same under the keys of a request do
the same to the host and are answered alike, whatever they have under other keys. A payload of more
than four items is refused. On the assembled host every open connection has an origin, no handler
fails its requests for want of one, and no frame is answered by that error unless the wallet itself
refuses in just these words. -/
theorem receive_stamps (h : Host β σ) (c : Connection) (s : State β σ) (cfg : Settings)
    (wallet : Wallet.Service β) (session : Session.Store σ) :
    (∀ text data q, handed? text = some (data, q) →
      q.origin = none ∧
        let o := h.endpoint.answer h.wallet { q with origin := c.origin } s.wallet
        (h.receive c text s).1 = some ⟨some "metamask-provider", toJson o.response⟩ ∧
          (h.receive c text s).2.wallet = o.state) ∧
    (∀ text, handed? text = none → ∀ endpoint,
      ({ h with endpoint } : Host β σ).receive c text s = h.receive c text s) ∧
    (∀ text text' m m' fields fields', fromText Port.Message text = .ok m →
      fromText Port.Message text' = .ok m' →
      (m.name = some "metamask-provider" ↔ m'.name = some "metamask-provider") →
      m.data = .object fields → m'.data = .object fields' →
      (∀ key ∈ ["jsonrpc", "id", "method", "params"],
        m.data.field? key = m'.data.field? key) →
      h.receive c text s = h.receive c text' s) ∧
    (∀ text m items, fromText Port.Message text = .ok m → m.name = some "metamask-provider" →
      m.data = .array items → 4 < items.length →
      handed? text = none ∧ ∃ reply,
        h.receive c text s = (some ⟨some "metamask-provider", reply⟩, s) ∧
        (reply.field? "error").bind (·.field? "code") = some (.int (-32600))) ∧
    (∀ now port t,
      let opened := ((assemble cfg wallet session).accept now port t).1.connection
      opened.isOpen = true →
        opened.origin.isSome = true ∧
        (∀ handler ∈ Rpc.ownHandlers, ∀ (q : Request) given granted r w, q.origin = opened.origin →
          ((handler.program q given).run wallet granted r w).1 ≠ .failed q.originFault) ∧
        ∀ text t' reply, ((assemble cfg wallet session).receive opened text t').1 = some reply →
          ∀ q : Request, reply.data.field? "error" = some (toJson q.originFault.object) →
            ∃ call w, (wallet.serve call w).1 = .error (.controller q.originFault.message)) := by
  refine ⟨fun text data q hhanded => receive_of_request h c hhanded s,
    fun text hhanded endpoint => receive_of_not_handed h c hhanded endpoint s,
    fun text text' m m' fields fields' hm hm' hname hdata hdata' hsame =>
      receive_congr h c hm hm' hname hdata hdata' hsame s, ?_, ?_⟩
  · intro text m items hm hname hdata hlong
    obtain ⟨hhanded, message, hreceive⟩ := receive_long_array h c hm hname hdata hlong s
    refine ⟨hhanded, _, hreceive, ?_⟩
    rw [Rpc.Response.errorCode_toJson_iff]
    rfl
  · intro now port t opened hopen
    have hstamped : opened.origin.isSome = true := by
      have hconnection : opened = Connection.ofPort (policyOf cfg) port := accept_connection _ _ _ _
      rw [hconnection] at hopen ⊢
      -- Every port of the assembled host needs a proof, so an open connection has an origin.
      exact origin_isSome_of_open rfl hopen
    have horigin : opened.origin ≠ none := Option.isSome_iff_ne_none.1 hstamped
    refine ⟨hstamped, ?_, ?_⟩
    · intro handler hown q given granted r w hq
      rw [← hq] at horigin
      exact Rpc.exit_own_ne wallet hown horigin given granted r w
    · intro text t' reply hreply q herror
      exact error_of_stamped cfg wallet session horigin hreply q herror

/-- A text that is read and answered, and that names an origin of its own: what is noted is noted of
the page that sent it. -/
example :
    let out := (assemble {} Wallet.service Session.memory).receive
      ⟨⟨"page", none⟩, .external 3 "https://dapp.example", some "https://dapp.example"⟩
      ("\x7b\"name\":\"metamask-provider\",\"data\":\x7b\"id\":7,\"origin\":\"https://ipfs.io\"," ++
        "\"method\":\"metamask_logWeb3ShimUsage\"\x7d\x7d")
      (State.start {} .empty ∅)
    (out.1.isSome, out.2.wallet.shims.keys) = (true, ["https://dapp.example"]) := by decide +kernel

end WalletGate.Host
