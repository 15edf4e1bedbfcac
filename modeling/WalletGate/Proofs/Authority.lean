import WalletGate.Rpc.Dispatch
/-!
# Least authority

A handler is any program that acts through its arguments. Whatever it does, the wallet is asked only
under hooks that the handler declared and that the host has, and nothing else of the wallet can
matter to it:

* `exchanges`: the questions of a handler and what each was answered, and `Plays`: what a program
  makes of given answers, whoever gives them;
* `run_logged`: the wallet sees the questions under granted hooks, in order, and no others;
* `exchanges_eq_of_agreeOn`: two wallets that agree under the granted hooks have one conversation
  with a handler;
* `dispatch_eq_of_agreeOn`: so they answer a request alike;
* `dispatch_least_authority`: all of this for the dispatch of a request;
* `answer_of_goesOn`, `answer_of_stops`: what an endpoint makes of a dispatch.
-/

namespace WalletGate

/-! ## Services under a set of hooks -/

namespace Wallet.Service

variable {σ τ : Type}

/-- The service that also keeps the questions it was asked, in order. -/
def logged (b : Service σ) : Service (σ × List Call) where
  serve c s := ((b.serve c s.1).1, ((b.serve c s.1).2, s.2 ++ [c]))
  snapshot now s := ((b.snapshot now s.1).1, ((b.snapshot now s.1).2, s.2))

/-- The state after some questions. -/
def afterAll (b : Service σ) (asked : List Call) (s : σ) : σ :=
  asked.foldl (fun s c => (b.serve c s).2) s

/-- Two services answer every question under some hooks alike, now and after any questions under
these hooks. -/
def AgreeOn (hooks : Hook → Bool) (b : Service σ) (s : σ) (b' : Service τ) (t : τ) : Prop :=
  ∀ asked : List Call, (∀ c ∈ asked, hooks c.hook = true) → ∀ c : Call, hooks c.hook = true →
    (b.serve c (b.afterAll asked s)).1 = (b'.serve c (b'.afterAll asked t)).1

theorem AgreeOn.answer {hooks : Hook → Bool} {b : Service σ} {s : σ} {b' : Service τ} {t : τ}
    (h : AgreeOn hooks b s b' t) {c : Call} (hc : hooks c.hook = true) :
    (b.serve c s).1 = (b'.serve c t).1 :=
  h [] (by simp) c hc

theorem AgreeOn.after {hooks : Hook → Bool} {b : Service σ} {s : σ} {b' : Service τ} {t : τ}
    (h : AgreeOn hooks b s b' t) {c : Call} (hc : hooks c.hook = true) :
    AgreeOn hooks b (b.serve c s).2 b' (b'.serve c t).2 := by
  intro asked hasked c' hc'
  have hall : ∀ x ∈ c :: asked, hooks x.hook = true := by
    intro x hx
    rcases List.mem_cons.1 hx with rfl | hx
    · exact hc
    · exact hasked x hx
  exact h (c :: asked) hall c' hc'

end Wallet.Service

namespace Rpc

open Wallet (Hook Call Service)

variable {σ τ : Type}

/-! ## Conversations -/

/-- A question of a handler and what it was answered. -/
structure Exchange where
  call : Call
  answer : Except Fault call.Answer

namespace Program

/-- The program asks these questions and, given these answers, leaves this response and ends so. -/
inductive Plays : Program → Reply → List Exchange → Exit → Reply → Prop where
  | call {c : Call} {next : Except Fault c.Answer → Program} {a : Except Fault c.Answer}
      {r r' : Reply} {es : List Exchange} {e : Exit} :
      Plays (next a) r es e r' → Plays (.call c next) r (⟨c, a⟩ :: es) e r'
  | write {w : Write} {next : Program} {r r' : Reply} {es : List Exchange} {e : Exit} :
      Plays next (r.write w) es e r' → Plays (.write w next) r es e r'
  | exit {e : Exit} {r : Reply} : Plays (.exit e) r [] e r

/-- The answers leave a program no choice. -/
theorem Plays.unique {p : Program} {r r₁ r₂ : Reply} {es : List Exchange} {e₁ e₂ : Exit}
    (h₁ : p.Plays r es e₁ r₁) (h₂ : p.Plays r es e₂ r₂) : e₁ = e₂ ∧ r₁ = r₂ := by
  induction h₁ with
  | call _ ih =>
    cases h₂ with
    | call h => exact ih h
  | write _ ih =>
    cases h₂ with
    | write h => exact ih h
  | exit =>
    cases h₂ with
    | exit => exact ⟨rfl, rfl⟩

/-- The conversation of a program with a service, under the hooks that the program was granted. -/
def exchanges (b : Service σ) (granted : HookSet) : Program → σ → List Exchange
  | .call c next, s =>
    if granted c.hook then
      ⟨c, (b.serve c s).1.mapError .refused⟩
        :: (next ((b.serve c s).1.mapError .refused)).exchanges b granted (b.serve c s).2
    else ⟨c, .error (.notGranted c.hook)⟩
      :: (next (.error (.notGranted c.hook))).exchanges b granted s
  | .write _ next, s => next.exchanges b granted s
  | .exit _, _ => []

/-- A run is the program at play with the answers of its conversation. -/
theorem plays_exchanges (b : Service σ) (granted : HookSet) (p : Program) (r : Reply) (s : σ) :
    p.Plays r (p.exchanges b granted s) (p.run b granted r s).1 (p.run b granted r s).2.1 := by
  induction p generalizing r s with
  | call c next ih =>
    unfold exchanges run
    split
    · exact .call (ih _ _ _)
    · exact .call (ih _ _ _)
  | write w next ih => exact .write (ih _ _)
  | exit e => exact .exit

/-- A question under a hook that was not granted is answered by a fault that names the hook. -/
theorem answer_eq_of_not_granted (b : Service σ) (granted : HookSet) (p : Program) (s : σ) :
    ∀ x ∈ p.exchanges b granted s, granted x.call.hook = false →
      x.answer = .error (.notGranted x.call.hook) := by
  -- By induction on the program: only a question adds an exchange, and what follows it runs from
  -- whatever state the answer left.
  induction p generalizing s with
  | call c next ih =>
    intro x hx hdenied
    unfold exchanges at hx
    -- A granted question is not the one at issue, and a denied one is answered at once.
    split at hx
    · rename_i hgranted
      rcases List.mem_cons.1 hx with rfl | hx
      · exact absurd (hgranted.symm.trans hdenied) (by simp)
      · exact ih _ _ x hx hdenied
    · rcases List.mem_cons.1 hx with rfl | hx
      · rfl
      · exact ih _ _ x hx hdenied
  | write w next ih => exact ih s
  | exit e => simp [exchanges]

/-- The service is asked the granted questions of the conversation, in order, and no others; that
it keeps them changes nothing. -/
theorem run_logged (b : Service σ) (granted : HookSet) (p : Program) (r : Reply) (s : σ)
    (log : List Call) :
    p.run b.logged granted r (s, log) =
      ((p.run b granted r s).1, (p.run b granted r s).2.1, ((p.run b granted r s).2.2,
        log ++ ((p.exchanges b granted s).filter fun x => granted x.call.hook).map (·.call))) := by
  -- The log is general in the induction, because each question is put behind those that came
  -- before.
  induction p generalizing r s log with
  | call c next ih =>
    unfold run exchanges
    by_cases hgranted : granted c.hook = true
    · simp only [hgranted, if_true, Service.logged, List.filter_cons_of_pos, List.map_cons]
      exact (ih _ _ _ _).trans (by simp)
    · simp only [hgranted, if_false, Bool.false_eq_true, List.filter_cons_of_neg, not_false_eq_true]
      exact ih _ _ _ _
  | write w next ih => exact ih _ _ _
  | exit e => simp [run, exchanges]

theorem exchanges_eq_of_agreeOn {granted : HookSet} {b : Service σ} {s : σ} {b' : Service τ} {t : τ}
    (h : Service.AgreeOn granted b s b' t) (p : Program) :
    p.exchanges b granted s = p.exchanges b' granted t := by
  induction p generalizing s t with
  | call c next ih =>
    unfold exchanges
    by_cases hgranted : granted c.hook = true
    · rw [if_pos hgranted, if_pos hgranted, h.answer hgranted, ih _ (h.after hgranted)]
    · rw [if_neg hgranted, if_neg hgranted, ih _ h]
  | write w next ih => exact ih h
  | exit e => rfl

/-- Two services with one conversation leave one response and one way to end. -/
theorem run_eq_of_agreeOn {granted : HookSet} {b : Service σ} {s : σ} {b' : Service τ} {t : τ}
    (h : Service.AgreeOn granted b s b' t) (p : Program) (r : Reply) :
    (p.run b granted r s).1 = (p.run b' granted r t).1 ∧
      (p.run b granted r s).2.1 = (p.run b' granted r t).2.1 := by
  have hplays := p.plays_exchanges b granted r s
  rw [exchanges_eq_of_agreeOn h p] at hplays
  exact hplays.unique (p.plays_exchanges b' granted r t)

end Program

/-! ## Dispatch -/

namespace Dispatcher

/-- The hooks that the handler of a method declares; none if there is no handler or it declares
none. -/
def declared (d : Dispatcher) (method : String) : HookSet :=
  fun hook => (d.methods.find? method).any fun h => h.hooks.any fun hooks => hooks hook

/-- The hooks under which a request for a method may reach the wallet. -/
def authority (d : Dispatcher) (method : String) : HookSet :=
  HookSet.inter d.available (d.declared method)

theorem grant_getD_eq_authority {d : Dispatcher} {method : String} {h : Handler}
    (hfind : d.methods.find? method = some h) :
    ((d.grant h).getD fun _ => false) = d.authority method := by
  funext hook
  unfold grant authority declared HookSet.inter
  rw [hfind]
  cases hhooks : h.hooks with
  | none => simp [hhooks]
  | some hooks => simp [hhooks]

theorem authority_of_no_hooks {d : Dispatcher} {method : String} {h : Handler}
    (hfind : d.methods.find? method = some h) (hhooks : h.hooks = none) :
    d.grant h = none ∧ d.authority method = fun _ => false := by
  have hgrant : d.grant h = none := by simp [grant, hhooks]
  refine ⟨hgrant, ?_⟩
  rw [← grant_getD_eq_authority hfind, hgrant]
  rfl

/-- A request that is refused to everyone is not looked up. -/
theorem dispatch_of_forbidden (d : Dispatcher) {q : Request}
    (hforbidden : q.method ∈ forbiddenMethods) (b : Service σ) (r : Reply) (s : σ) :
    d.dispatch b q r s = ⟨r.setError (Fault.unsupported q.method).object, s, false, 0, 0⟩ :=
  if_pos hforbidden

/-- A request that has no handler is left to the fallback. -/
theorem dispatch_of_unknown {d : Dispatcher} {q : Request} (hallowed : q.method ∉ forbiddenMethods)
    (hfind : d.methods.find? q.method = none) (b : Service σ) (r : Reply) (s : σ) :
    d.dispatch b q r s = ⟨r, s, true, 1, 0⟩ := by
  unfold dispatch Methods.lookUp
  rw [if_neg hallowed, hfind]

/-- A request that is not refused and has a handler becomes what the handler's run makes of it. -/
theorem dispatch_eq_of_handler {d : Dispatcher} {q : Request} {h : Handler}
    (hallowed : q.method ∉ forbiddenMethods) (hfind : d.methods.find? q.method = some h)
    (b : Service σ) (r : Reply) (s : σ) :
    d.dispatch b q r s =
      let run := (h.program q (d.grant h)).run b (d.authority q.method) r s
      ⟨(settle q.method run.2.1 run.1).2, run.2.2, (settle q.method run.2.1 run.1).1, 1, 0⟩ := by
  unfold dispatch Methods.lookUp
  rw [if_neg hallowed, hfind, ← grant_getD_eq_authority hfind]

/-- A request that is refused or has no handler never reaches the wallet. -/
theorem dispatch_of_no_handler {d : Dispatcher} {q : Request}
    (hnone : q.method ∈ forbiddenMethods ∨ d.methods.find? q.method = none) (r : Reply) :
    ∃ reply goesOn uses, ∀ {σ : Type} (b : Service σ) (s : σ),
      d.dispatch b q r s = ⟨reply, s, goesOn, uses⟩ := by
  by_cases hforbidden : q.method ∈ forbiddenMethods
  · exact ⟨_, _, _, fun b s => d.dispatch_of_forbidden hforbidden b r s⟩
  · have hfind := hnone.resolve_left hforbidden
    exact ⟨_, _, _, fun b s => dispatch_of_unknown hforbidden hfind b r s⟩

/-- Either a handler answers a request, or the wallet has no part in the answer. -/
theorem handler_cases (d : Dispatcher) (q : Request) :
    (q.method ∈ forbiddenMethods ∨ d.methods.find? q.method = none) ∨
      (q.method ∉ forbiddenMethods ∧ ∃ h, d.methods.find? q.method = some h) := by
  by_cases hforbidden : q.method ∈ forbiddenMethods
  · exact .inl (.inl hforbidden)
  · cases hfind : d.methods.find? q.method with
    | none => exact .inl (.inr rfl)
    | some h => exact .inr ⟨hforbidden, h, rfl⟩

/-- The questions under granted hooks, of those that a handler asks when it plays a request. -/
theorem dispatch_logged {d : Dispatcher} {q : Request} {h : Handler}
    (hallowed : q.method ∉ forbiddenMethods) (hfind : d.methods.find? q.method = some h)
    (b : Service σ) (r : Reply) (s : σ) :
    (d.dispatch b.logged q r (s, [])).state.2 =
      (((h.program q (d.grant h)).exchanges b (d.authority q.method) s).filter
        fun x => d.authority q.method x.call.hook).map (·.call) := by
  rw [dispatch_eq_of_handler hallowed hfind, Program.run_logged]
  simp

/-- Wallets that agree under the hooks of a method answer a request for it alike. -/
theorem dispatch_eq_of_agreeOn {d : Dispatcher} {q : Request} {b : Service σ} {s : σ}
    {b' : Service τ} {t : τ} (hagree : Service.AgreeOn (d.authority q.method) b s b' t)
    (r : Reply) :
    (d.dispatch b q r s).response = (d.dispatch b' q r t).response ∧
      (d.dispatch b q r s).goesOn = (d.dispatch b' q r t).goesOn ∧
      (d.dispatch b q r s).lookups = (d.dispatch b' q r t).lookups ∧
      (d.dispatch b q r s).forwards = (d.dispatch b' q r t).forwards := by
  rcases handler_cases d q with hnone | ⟨hallowed, h, hfind⟩
  · obtain ⟨reply, goesOn, uses, hall⟩ := dispatch_of_no_handler hnone r
    simp [hall]
  · obtain ⟨hexit, hreply⟩ := Program.run_eq_of_agreeOn hagree (h.program q (d.grant h)) r
    rw [dispatch_eq_of_handler hallowed hfind, dispatch_eq_of_handler hallowed hfind]
    simp [hexit, hreply]

/-- Whatever a handler does, the dispatch of a request asks the wallet only under hooks that the
handler declared and the host has. Any other question of the handler is answered by the fault that
names its hook and does not reach the wallet, and a handler without declared hooks is given none and
reaches nothing. So wallets that agree under those hooks cannot be told apart by the outcome. -/
theorem dispatch_least_authority (d : Dispatcher) (b : Service σ) (q : Request) (r : Reply)
    (s : σ) :
    let out := d.dispatch b.logged q r (s, [])
    let asked := out.state.2
    (out.response = (d.dispatch b q r s).response ∧ out.goesOn = (d.dispatch b q r s).goesOn ∧
      out.state.1 = (d.dispatch b q r s).state) ∧
    (∀ c ∈ asked, d.available c.hook = true ∧ d.declared q.method c.hook = true) ∧
    (∀ h, q.method ∉ forbiddenMethods → d.methods.find? q.method = some h →
      ∃ es e r', (h.program q (d.grant h)).Plays r es e r' ∧
        (out.goesOn, out.reply) = settle q.method r' e ∧
        (∀ x ∈ es, d.authority q.method x.call.hook = false →
          x.answer = .error (.notGranted x.call.hook)) ∧
        asked = (es.filter fun x => d.authority q.method x.call.hook).map (·.call)) ∧
    (∀ h, d.methods.find? q.method = some h → h.hooks = none → d.grant h = none ∧ asked = []) ∧
    (∀ (τ : Type) (b' : Service τ) (t : τ), Service.AgreeOn (d.authority q.method) b s b' t →
      (d.dispatch b q r s).response = (d.dispatch b' q r t).response ∧
      (d.dispatch b q r s).goesOn = (d.dispatch b' q r t).goesOn ∧
      (d.dispatch b q r s).lookups = (d.dispatch b' q r t).lookups ∧
      (d.dispatch b q r s).forwards = (d.dispatch b' q r t).forwards) := by
  intro out asked
  rcases handler_cases d q with hnone | ⟨hallowed, h, hfind⟩
  · -- Refused or unknown: the wallet is not asked at all, whichever it is.
    obtain ⟨reply, goesOn, uses, hall⟩ := dispatch_of_no_handler hnone r
    have hasked : asked = [] := congrArg (fun o => o.state.2) (hall b.logged (s, []))
    have hout : out = ⟨reply, (s, []), goesOn, uses⟩ := hall b.logged (s, [])
    refine ⟨by simp [hout, hall], by simp [hasked], fun h hallowed hfind => ?_,
      fun h hfind hhooks => ?_, fun τ b' t hagree => dispatch_eq_of_agreeOn hagree r⟩
    · rcases hnone with hforbidden | hunknown
      · exact absurd hforbidden hallowed
      · exact absurd (hunknown.symm.trans hfind) (by simp)
    · exact ⟨(authority_of_no_hooks hfind hhooks).1, hasked⟩
  · have hasked : asked = _ := dispatch_logged hallowed hfind b r s
    have hout : out = _ := dispatch_eq_of_handler hallowed hfind b.logged r (s, [])
    rw [Program.run_logged] at hout
    refine ⟨?_, fun c hc => ?_, fun h' _ hfind' => ?_, fun h' hfind' hhooks => ?_,
      fun τ b' t hagree => dispatch_eq_of_agreeOn hagree r⟩
    · rw [hout, dispatch_eq_of_handler hallowed hfind]
      simp
    · -- Only granted questions pass the filter.
      rw [hasked] at hc
      obtain ⟨x, hx, rfl⟩ := List.mem_map.1 hc
      simpa [authority, HookSet.inter] using (List.mem_filter.1 hx).2
    -- The handler that is named is the one that was found, so its exchanges are the ones to give.
    · obtain rfl : h = h' := Option.some.inj (hfind.symm.trans hfind')
      refine ⟨_, _, _, Program.plays_exchanges b (d.authority q.method) _ r s, ?_,
        Program.answer_eq_of_not_granted b (d.authority q.method) _ s, hasked⟩
      rw [hout]
    -- A handler without hooks has an empty authority, and the filter by it leaves nothing.
    · obtain ⟨hgrant, hauthority⟩ := authority_of_no_hooks hfind' hhooks
      refine ⟨hgrant, ?_⟩
      rw [hasked, hauthority]
      simp

end Dispatcher

/-! ## Answers -/

namespace Endpoint

variable {e : Endpoint} {b : Service σ} {q : Request} {s : σ} {o : Outcome σ}

/-- A request that is left to the fallback runs it once, on the reply of the dispatcher. -/
theorem answer_of_goesOn (ho : e.dispatcher.dispatch b q (.answering q) s = o)
    (hgoesOn : o.goesOn = true) :
    e.answer b q s =
      ⟨complete q ((e.fallback q).foldl Reply.write o.reply), o.state, true, o.lookups,
        o.forwards + 1⟩ := by
  unfold answer
  rw [ho, if_pos hgoesOn, ← hgoesOn]
  rfl

/-- A request that the dispatcher answered for good goes no further. -/
theorem answer_of_stops (ho : e.dispatcher.dispatch b q (.answering q) s = o)
    (hstops : o.goesOn = false) :
    e.answer b q s = ⟨complete q o.reply, o.state, false, o.lookups, o.forwards⟩ := by
  unfold answer
  rw [ho, if_neg (Bool.eq_false_iff.1 hstops), ← hstops]
  rfl

end Endpoint

end Rpc

end WalletGate
