import WalletGate.Host.Frame
import WalletGate.Proofs.Footprint
import WalletGate.Proofs.Recency
/-!
# What a frame does

A frame touches three things apart from each other: the listener may record a binding, the endpoint
may ask the wallet, and nothing writes to the session.

* `bindings_receive`: the bindings after a frame, by what the listener finds in it;
* `session_receive`: the session after a frame is the session before it;
* `receive_of_answers`, `receive_related`: a relation between wallets that the answers to requests
  keep, or that the questions of a frame keep, is kept by the frame, and the replies are the same;
* `receive_invariant`: the same for a property of one wallet.
-/

namespace WalletGate.Host

variable {β σ : Type}

/-! ## Bindings and session -/

@[simp] theorem note_wallet (c : Connection) (m : Port.Message) (s : State β σ) :
    (note c m s).wallet = s.wallet := by
  unfold note
  split
  · rfl
  · rfl

@[simp] theorem note_session (c : Connection) (m : Port.Message) (s : State β σ) :
    (note c m s).session = s.session := by
  unfold note
  split
  · rfl
  · rfl

theorem note_bindings (c : Connection) (m : Port.Message) (s : State β σ) :
    (note c m s).bindings = s.bindings.recordAll (binding? c m).toList := by
  unfold note
  cases binding? c m with
  | none => rfl
  | some r => rfl

@[simp] theorem answerPayload_bindings (h : Host β σ) (c : Connection) (data : Json)
    (s : State β σ) : (h.answerPayload c data s).2.bindings = s.bindings := by
  unfold answerPayload
  split
  · rfl
  · rfl

@[simp] theorem answerPayload_session (h : Host β σ) (c : Connection) (data : Json)
    (s : State β σ) : (h.answerPayload c data s).2.session = s.session := by
  unfold answerPayload
  split
  · rfl
  · rfl

/-- A binding is made for the origin and the tab of the page. -/
theorem binding?_eq_some {c : Connection} {m : Port.Message} {r : String × Int64}
    (h : binding? c m = some r) : c.kind = .external r.2 r.1 := by
  unfold binding? at h
  split at h
  · rename_i tab origin hkind
    split at h
    · rw [← Option.some.inj h]
      exact hkind
    · exact absurd h (by simp)
  · exact absurd h (by simp)

/-- The binding that a frame makes. -/
def frameBinding? (c : Connection) (text : String) : Option (String × Int64) :=
  (fromText Port.Message text).toOption.bind (binding? c)

theorem frameBinding?_eq_some {c : Connection} {text : String} {r : String × Int64}
    (h : frameBinding? c text = some r) : c.kind = .external r.2 r.1 := by
  obtain ⟨m, _, hbinding⟩ := Option.bind_eq_some_iff.1 h
  exact binding?_eq_some hbinding

theorem bindings_receive (h : Host β σ) (c : Connection) (text : String) (s : State β σ) :
    (h.receive c text s).2.bindings = s.bindings.recordAll (frameBinding? c text).toList := by
  unfold receive frameBinding?
  cases fromText Port.Message text with
  | error e => rfl
  | ok m =>
    simp only [answerMessage, Except.toOption, Option.bind_some]
    split
    · rw [answerPayload_bindings, note_bindings]
    · exact note_bindings c m s

theorem session_receive (h : Host β σ) (c : Connection) (text : String) (s : State β σ) :
    (h.receive c text s).2.session = s.session := by
  unfold receive
  cases fromText Port.Message text with
  | error e => rfl
  | ok m =>
    simp only [answerMessage]
    split
    · rw [answerPayload_session, note_session]
    · exact note_session c m s

/-! ## The wallet -/

section Related

variable {P : Wallet.Call → Prop} {h : Host β σ} {c : Connection}

/-- Two wallets in a relation that the answers to requests keep give one reply to a frame, and stay
in it. -/
theorem receive_of_answers {R : β → β → Prop}
    (hanswer : ∀ (q : Rpc.Request) (v w : β), q.origin = c.origin → R v w →
      (h.endpoint.answer h.wallet q v).response = (h.endpoint.answer h.wallet q w).response ∧
        R (h.endpoint.answer h.wallet q v).state (h.endpoint.answer h.wallet q w).state)
    (text : String) {s t : State β σ} (hR : R s.wallet t.wallet) :
    (h.receive c text s).1 = (h.receive c text t).1 ∧
      R (h.receive c text s).2.wallet (h.receive c text t).2.wallet := by
  -- The wallet is reached in one branch only: a message, on the provider's substream, whose payload
  -- is a request.
  unfold receive
  cases fromText Port.Message text with
  | error e => exact ⟨rfl, hR⟩
  | ok m =>
    simp only [answerMessage]
    split
    · unfold answerPayload
      cases fromJson Rpc.Request m.data with
      | error e =>
        -- What is no request is refused without asking the wallet.
        exact ⟨rfl, by simpa using hR⟩
      | ok q =>
        simp only [note_wallet]
        obtain ⟨hresponse, hafter⟩ := hanswer { q with origin := c.origin } _ _ rfl hR
        exact ⟨by rw [hresponse], hafter⟩
    · exact ⟨rfl, by simpa using hR⟩

/-- Two wallets in a relation that the questions keep give one reply to a frame, and stay in it. -/
theorem receive_related {R : β → β → Prop}
    (hserve : ∀ call s t, P call → R s t →
      (h.wallet.serve call s).1 = (h.wallet.serve call t).1 ∧
        R (h.wallet.serve call s).2 (h.wallet.serve call t).2)
    (hconfined : ∀ q : Rpc.Request, q.origin = c.origin → h.endpoint.dispatcher.Confined P q)
    (text : String) {s t : State β σ} (hR : R s.wallet t.wallet) :
    (h.receive c text s).1 = (h.receive c text t).1 ∧
      R (h.receive c text s).2.wallet (h.receive c text t).2.wallet :=
  receive_of_answers
    (fun q _ _ horigin hR => Rpc.Endpoint.answer_related hserve (hconfined q horigin) hR) text hR

/-- A property of the wallet that the questions keep is kept by a frame. -/
theorem receive_invariant {I : β → Prop}
    (hserve : ∀ call s, P call → I s → I (h.wallet.serve call s).2)
    (hconfined : ∀ q : Rpc.Request, q.origin = c.origin → h.endpoint.dispatcher.Confined P q)
    (text : String) {s : State β σ} (hI : I s.wallet) : I (h.receive c text s).2.wallet := by
  -- A property of one state is the relation of being equal and having it.
  have hboth : ∀ call s t, P call → (s = t ∧ I s) →
      (h.wallet.serve call s).1 = (h.wallet.serve call t).1 ∧
        ((h.wallet.serve call s).2 = (h.wallet.serve call t).2 ∧ I (h.wallet.serve call s).2) := by
    rintro call s _ hcall ⟨rfl, hI⟩
    exact ⟨rfl, rfl, hserve call s hcall hI⟩
  exact (receive_related hboth hconfined text ⟨rfl, hI⟩).2.2

end Related

end WalletGate.Host
