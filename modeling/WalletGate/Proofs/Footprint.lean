import WalletGate.Proofs.Authority
import WalletGate.Proofs.Registry
/-!
# What a request can ask

A program is confined to some questions if it asks no others, whatever it is answered. Two wallets
that cannot be told apart by such questions cannot be told apart by the program.

* `run_related`, `dispatch_related`, `answer_related`: a relation between wallets that the questions
  keep is kept by the program, by the dispatch, and by the whole answer to a request, and the
  responses are the same;
* `asks_own`: the host's own handlers ask about the origin of the request or about none.
-/

namespace WalletGate

/-- The origin that a question is about; none if it is about the wallet as a whole. -/
def Wallet.Call.origin? : Wallet.Call → Option String
  | accounts | identities => none
  | providerState origin | shimUsage origin | recordShimUsage origin => some origin
  | addSubject subject => some subject.origin

namespace Rpc

open Wallet (Hook Call Service)

variable {σ τ : Type}

/-! ## Confined programs -/

namespace Program

/-- Every question of the program satisfies `P`, whatever it is answered. -/
inductive Asks (P : Call → Prop) : Program → Prop where
  | call {c : Call} {next : Except Fault c.Answer → Program} (hc : P c)
      (hnext : ∀ a, Asks P (next a)) : Asks P (.call c next)
  | write {w : Write} {next : Program} (hnext : Asks P next) : Asks P (.write w next)
  | exit (e : Exit) : Asks P (.exit e)

variable {P : Call → Prop}

theorem Asks.ask {c : Call} {next : c.Answer → Program} (hc : P c)
    (hnext : ∀ a, (next a).Asks P) : (Program.ask c next).Asks P := by
  refine .call hc fun a => ?_
  cases a with
  | ok a => exact hnext a
  | error fault => exact .exit _

theorem Asks.reply (value : Json) : (Program.reply value).Asks P := .write (.exit _)

theorem Asks.fail (fault : Fault) : (Program.fail fault).Asks P := .exit _

/-- What a service makes of the questions in `P` is kept by a run of such questions. -/
theorem run_related {b : Service σ} {b' : Service τ} {R : σ → τ → Prop}
    (hserve : ∀ c s t, P c → R s t →
      (b.serve c s).1 = (b'.serve c t).1 ∧ R (b.serve c s).2 (b'.serve c t).2)
    {p : Program} (hasks : p.Asks P) (granted : HookSet) (r : Reply) {s : σ} {t : τ}
    (hR : R s t) :
    (p.run b granted r s).1 = (p.run b' granted r t).1 ∧
      (p.run b granted r s).2.1 = (p.run b' granted r t).2.1 ∧
      R (p.run b granted r s).2.2 (p.run b' granted r t).2.2 := by
  -- By induction on the program; both states are general, because each answer moves them.
  induction hasks generalizing r s t with
  | @call c next hc hnext ih =>
    unfold run
    by_cases hgranted : granted c.hook = true
    · -- Both services are asked and give one answer, so one program goes on with both.
      obtain ⟨hanswer, hafter⟩ := hserve c s t hc hR
      simp only [hgranted, if_true, hanswer]
      exact ih _ r hafter
    · -- Neither service is asked.
      simp only [hgranted, if_false, Bool.false_eq_true]
      exact ih _ r hR
  | write hnext ih => exact ih _ hR
  | exit e => exact ⟨rfl, rfl, hR⟩

end Program

/-! ## Confined requests -/

/-- Whichever handler answers the request asks only questions in `P`. -/
def Dispatcher.Confined (d : Dispatcher) (P : Call → Prop) (q : Request) : Prop :=
  ∀ h, d.methods.find? q.method = some h → (h.program q (d.grant h)).Asks P

variable {P : Call → Prop} {b : Service σ} {b' : Service τ} {R : σ → τ → Prop}

theorem Dispatcher.dispatch_related
    (hserve : ∀ c s t, P c → R s t →
      (b.serve c s).1 = (b'.serve c t).1 ∧ R (b.serve c s).2 (b'.serve c t).2)
    {d : Dispatcher} {q : Request} (hconfined : d.Confined P q) (r : Reply) {s : σ} {t : τ}
    (hR : R s t) :
    (d.dispatch b q r s).reply = (d.dispatch b' q r t).reply ∧
      (d.dispatch b q r s).goesOn = (d.dispatch b' q r t).goesOn ∧
      R (d.dispatch b q r s).state (d.dispatch b' q r t).state := by
  -- Without a handler neither service is asked, whatever the reason.
  rcases d.handler_cases q with hnone | ⟨hallowed, h, hfind⟩
  · obtain ⟨reply, goesOn, uses, hall⟩ := dispatch_of_no_handler hnone r
    rw [hall b s, hall b' t]
    exact ⟨rfl, rfl, hR⟩
  · rw [dispatch_eq_of_handler hallowed hfind, dispatch_eq_of_handler hallowed hfind]
    obtain ⟨hexit, hreply, hafter⟩ :=
      Program.run_related hserve (hconfined h hfind) (d.authority q.method) r hR
    refine ⟨?_, ?_, hafter⟩
    · simp only [hexit, hreply]
    · simp only [hexit, hreply]

namespace Endpoint

theorem answer_state (e : Endpoint) (b : Service σ) (q : Request) (s : σ) :
    (e.answer b q s).state = (e.dispatcher.dispatch b q (.answering q) s).state := by
  unfold answer
  simp only
  split
  · rfl
  · rfl

theorem answer_related
    (hserve : ∀ c s t, P c → R s t →
      (b.serve c s).1 = (b'.serve c t).1 ∧ R (b.serve c s).2 (b'.serve c t).2)
    {e : Endpoint} {q : Request} (hconfined : e.dispatcher.Confined P q) {s : σ} {t : τ}
    (hR : R s t) :
    (e.answer b q s).response = (e.answer b' q t).response ∧
      R (e.answer b q s).state (e.answer b' q t).state := by
  obtain ⟨hreply, hgoesOn, hafter⟩ :=
    Dispatcher.dispatch_related hserve hconfined (.answering q) hR
  rw [answer_state, answer_state]
  refine ⟨?_, hafter⟩
  -- Both dispatches go on or neither does, and the fallback is the same.
  cases hnext : (e.dispatcher.dispatch b' q (.answering q) t).goesOn with
  | true =>
    rw [answer_of_goesOn rfl hnext, answer_of_goesOn rfl (hgoesOn.trans hnext), hreply]
    rfl
  | false =>
    rw [answer_of_stops rfl hnext, answer_of_stops rfl (hgoesOn.trans hnext), hreply]
    rfl

end Endpoint

/-! ## The host's own handlers -/

theorem asks_withOrigin {q : Request} {next : String → Program}
    (hnext : ∀ origin, q.origin = some origin → (next origin).Asks P) :
    (withOrigin q next).Asks P := by
  unfold withOrigin
  split
  · rename_i origin horigin
    exact hnext origin horigin
  · exact .fail _

/-- The host's own handlers ask about the origin of the request, or about no origin. -/
theorem asks_own {h : Handler} (hown : h ∈ ownHandlers) (q : Request) (granted : Option HookSet) :
    (h.program q granted).Asks fun c => c.origin? = none ∨ c.origin? = q.origin := by
  simp only [ownHandlers, List.mem_cons, List.not_mem_nil, or_false] at hown
  rcases hown with rfl | rfl | rfl | rfl
  · -- The accounts: two questions about the wallet as a whole.
    refine .ask (.inl rfl) fun accounts => .ask (.inl rfl) fun identities => ?_
    cases Wallet.order accounts identities with
    | ok ordered => exact .reply _
    | error address => exact .fail _
  · -- The provider state, of the origin of the request.
    refine asks_withOrigin fun origin horigin => ?_
    exact .ask (.inr horigin.symm) fun state => .reply state
  · -- The site's report: whatever it says, it is kept under the origin of the request.
    refine asks_withOrigin fun origin horigin => ?_
    cases SiteReport.ofParams q.params with
    | ok report => exact .ask (.inr horigin.symm) fun _ => .reply _
    | error fault => exact .fail fault
  · -- The legacy interface: a question, and a note unless there is one.
    refine asks_withOrigin fun origin horigin => .ask (.inr horigin.symm) fun usage => ?_
    cases usage with
    | some _ => exact .reply _
    | none => exact .ask (.inr horigin.symm) fun _ => .reply _

theorem confined_own (available : HookSet) (q : Request) :
    Dispatcher.Confined ⟨.hosting [], available⟩ (fun c => c.origin? = none ∨ c.origin? = q.origin)
      q :=
  fun _ hfind => asks_own (Methods.mem_own_of_find? hfind) q _

end Rpc

end WalletGate
