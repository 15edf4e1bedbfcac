import WalletGate.Proofs.Frames
import WalletGate.Proofs.Requests
/-!
# The listener for account requests

A frame is read twice: the listener looks for a method in the payload, and the request is decoded
from it. The two agree on objects, in whatever order their fields were written and whatever other
fields they have. A request may also be given as an array, where the listener finds no method.

* `method?_eq_of_object`: an object that is a request has for the listener the method of the
  request;
* `receive_accountsRequest`: which binding a request for accounts makes, by the form of its payload.
-/

namespace WalletGate

/-! ## The method of a request -/

namespace Rpc.Request

/-- A request is read from an object or from an array. -/
theorem object_or_array {data : Json} {q : Request} (h : fromJson Request data = .ok q) :
    (∃ fields, data = .object fields) ∨ ∃ items, data = .array items := by
  cases data with
  | object fields => exact .inl ⟨fields, rfl⟩
  | array items => exact .inr ⟨items, rfl⟩
  | _ => exact absurd h (by simp [fromJson, Wire.decoder, Decoder.record, Decoder.Layout.ofJson])

end Rpc.Request

namespace Port.Message

/-- The listener finds in an object that is a request the method of the request. -/
theorem method?_eq_of_object {m : Message} {fields : List (String × Json)}
    (hdata : m.data = .object fields) {q : Rpc.Request} (hq : fromJson Rpc.Request m.data = .ok q) :
    m.method? = some q.method := by
  have hread := Rpc.Request.of?_of_ok hq
  rw [hdata] at hread
  unfold method?
  rw [hdata, (Rpc.Request.eq_of_ofParts hread).2.1]
  rfl

theorem method?_eq_none_of_array {m : Message} {items : List Json} (hdata : m.data = .array items) :
    m.method? = none := by
  simp [method?, hdata, Json.field?]

end Port.Message

/-! ## Frames that ask for accounts -/

namespace Host

variable {β σ : Type}

/-- The payload and the request that a frame gives the endpoint, before the origin is stamped. -/
def handed? (text : String) : Option (Json × Rpc.Request) :=
  match fromText Port.Message text with
  | .ok m =>
    if m.name = some providerStream then
      (fromJson Rpc.Request m.data).toOption.map fun q => (m.data, q)
    else none
  | .error _ => none

theorem message_of_handed? {text : String} {data : Json} {q : Rpc.Request}
    (h : handed? text = some (data, q)) :
    ∃ m, fromText Port.Message text = .ok m ∧ m.name = some providerStream ∧ m.data = data ∧
      fromJson Rpc.Request data = .ok q := by
  -- A frame is handed on at one point only: it is a message, of that substream, and its payload is
  -- read.
  unfold handed? at h
  split at h
  · rename_i m hm
    split at h
    · rename_i hname
      obtain ⟨q', hq', hpair⟩ := Option.map_eq_some_iff.1 h
      obtain ⟨rfl, rfl⟩ := Prod.mk.inj hpair
      refine ⟨m, hm, hname, rfl, ?_⟩
      cases hread : fromJson Rpc.Request m.data with
      | error e => simp [hread, Except.toOption] at hq'
      | ok q'' =>
        simp only [hread, Except.toOption, Option.some.injEq] at hq'
        rw [hq']
    · exact absurd h (by simp)
  · exact absurd h (by simp)

/-- The reply to such a frame is the answer of the endpoint, and the bindings are those that the
listener made. -/
theorem receive_of_handed? (h : Host β σ) (c : Connection) {text : String} {data : Json}
    {q : Rpc.Request} (hhanded : handed? text = some (data, q)) (s : State β σ) :
    ∃ m, fromText Port.Message text = .ok m ∧ m.data = data ∧ fromJson Rpc.Request data = .ok q ∧
      h.receive c text s =
        let o := h.endpoint.answer h.wallet { q with origin := c.origin } s.wallet
        (some ⟨some providerStream, toJson o.response⟩, { note c m s with wallet := o.state }) := by
  obtain ⟨m, hm, hname, hdata, hq⟩ := message_of_handed? hhanded
  refine ⟨m, hm, hdata, hq, ?_⟩
  unfold receive
  rw [hm]
  simp only [answerMessage, hname, if_true, answerPayload, hdata, hq, note_wallet]

/-- The listener binds a page that it finds asking for accounts. -/
theorem note_bindings_of_page {c : Connection} {tab : Int64} {origin : String}
    (hkind : c.kind = .external tab origin) (m : Port.Message) (s : State β σ) :
    (note c m s).bindings =
      if m.method? = some accountsRequest then s.bindings.record origin tab else s.bindings := by
  rw [note_bindings]
  unfold binding?
  rw [hkind]
  by_cases hmethod : m.method? = some accountsRequest
  · simp only [hmethod, if_true]
    rfl
  · simp only [hmethod, if_false]
    rfl

/-- A page that asks for accounts in an object is bound to its tab, whatever was bound before. One
that asks in an array leaves all bindings as they were. So a page that asked is bound to its tab
exactly if it asked in an object or was bound to the tab before. -/
theorem receive_accountsRequest (h : Host β σ) {c : Connection} {tab : Int64} {origin : String}
    (hkind : c.kind = .external tab origin) {text : String} {data : Json} {q : Rpc.Request}
    (hhanded : handed? text = some (data, q)) (hmethod : q.method = accountsRequest)
    (s : State β σ) :
    let bindings := (h.receive c text s).2.bindings
    ((∃ fields, data = .object fields) → bindings = s.bindings.record origin tab) ∧
      ((∃ items, data = .array items) → bindings = s.bindings) ∧
      (bindings.tab? origin = some tab ↔
        (∃ fields, data = .object fields) ∨ s.bindings.tab? origin = some tab) := by
  intro bindings
  obtain ⟨m, hm, hdata, hq, hreceive⟩ := receive_of_handed? h c hhanded s
  have hnote : bindings = (note c m s).bindings := congrArg (fun out => out.2.bindings) hreceive
  rw [note_bindings_of_page hkind] at hnote
  have hobject : (∃ fields, data = .object fields) → bindings = s.bindings.record origin tab := by
    rintro ⟨fields, hfields⟩
    have hread := Port.Message.method?_eq_of_object (hdata.trans hfields) (by rw [hdata]; exact hq)
    rw [hnote, if_pos (by rw [hread, hmethod])]
  have harray : (∃ items, data = .array items) → bindings = s.bindings := by
    rintro ⟨items, hitems⟩
    have hread := Port.Message.method?_eq_none_of_array (hdata.trans hitems)
    rw [hnote, if_neg (by simp [hread])]
  refine ⟨hobject, harray, ?_⟩
  -- A request has no other form, so the two cases decide whether the page is bound afterwards.
  rcases Rpc.Request.object_or_array hq with hfields | hitems
  · rw [hobject hfields]
    simp [hfields, Port.Bindings.tab?_record_self]
  · rw [harray hitems]
    have hnot : ¬∃ fields, data = .object fields := by
      rintro ⟨fields, hfields⟩
      obtain ⟨items, hitems⟩ := hitems
      exact absurd (hfields.symm.trans hitems) (by simp)
    simp [hnot]

/-! ## One request in two forms -/

/-- The settings of a deployment for Chrome. -/
def chromeSettings : Settings := { extensionId := "nkbihfbeogaeaoehlefnkodbefgpgknn" }

def chromeHost : Host Wallet (Dict Json) := assemble chromeSettings Wallet.service Session.memory

/-- The connection of a page in the tab 3. -/
def pageConnection : Connection :=
  .ofPort chromeHost.policy
    ⟨"contentscript", some ⟨some "https://dapp.example", some 3, some "https://dapp.example/a"⟩⟩

def objectFrame : String :=
  "\x7b\"name\":\"metamask-provider\",\"data\":" ++
    "\x7b\"id\":1,\"method\":\"eth_requestAccounts\"\x7d\x7d"

def arrayFrame : String :=
  "\x7b\"name\":\"metamask-provider\",\"data\":[\"2.0\",1,\"eth_requestAccounts\"]\x7d"

/-- The request in an object binds the page. -/
theorem tab?_receive_objectFrame :
    (chromeHost.receive pageConnection objectFrame (.start chromeSettings .empty ∅)).2.bindings.tab?
      "https://dapp.example" = some 3 := by
  have hread : (handed? objectFrame).map (fun r => ((r.1.field? "method").isSome, r.2.method)) =
      some (true, accountsRequest) := by
    decide +kernel
  obtain ⟨⟨data, q⟩, hhanded, hpair⟩ := Option.map_eq_some_iff.1 hread
  obtain ⟨hfield, hmethod⟩ := Prod.mk.inj hpair
  have hobject : ∃ fields, data = .object fields := by
    cases data with
    | object fields => exact ⟨fields, rfl⟩
    | _ => simp [Json.field?] at hfield
  have hkind : pageConnection.kind = .external 3 "https://dapp.example" := by decide +kernel
  exact (receive_accountsRequest chromeHost hkind hhanded hmethod _).2.2.2 (.inl hobject)

/-- The same request in an array reaches the endpoint and binds nothing. -/
theorem tab?_receive_arrayFrame :
    pageConnection.kind = .external 3 "https://dapp.example" ∧
      (handed? arrayFrame).map (·.2.method) = some accountsRequest ∧
      (chromeHost.receive pageConnection arrayFrame
        (.start chromeSettings .empty ∅)).2.bindings.tab? "https://dapp.example" = none := by
  decide +kernel

end Host

end WalletGate
