import WalletGate.Proofs.Authority
import WalletGate.Proofs.Registry
/-!
# Contributed handlers

Groups of handlers may be contributed to the host. They stand behind the host's own handlers in the
method table, so what the host answers itself and what it refuses to everyone stays as it is,
whatever is contributed. Every other method belongs to the first contributed handler that claims it.

* `handlerFor` and `Handler.handle`: the handler that a request is handed to, and what comes of it;
  `dispatch_eq_handle` ties both to the dispatch;
* `handlerFor_hosting_held`, `handlerFor_hosting_first`, `handlerFor_hosting_none`: whose handler
  that is in the table of a host with contributed groups;
* `answer_hosting`: what contributed groups can and cannot change in the answer to a request.
-/

namespace WalletGate.Rpc

open Wallet (Service)

variable {σ : Type}

/-! ## The handler of a request -/

/-- The methods that the host answers itself. -/
def ownMethods : List String := ownHandlers.flatMap (·.methods)

example : ownMethods =
    ["eth_accounts", "metamask_getProviderState", "metamask_sendDomainMetadata",
      "metamask_logWeb3ShimUsage"] := rfl

/-- What comes of a request that is handed to a handler, on a host with the given hooks. -/
def Handler.handle (h : Handler) (available : HookSet) (b : Service σ) (q : Request) (s : σ) :
    Outcome σ :=
  let granted := h.hooks.map (HookSet.inter available)
  let run := (h.program q granted).run b (granted.getD fun _ => false) (.answering q) s
  let settled := Dispatcher.settle q.method run.2.1 run.1
  ⟨settled.2, run.2.2, settled.1, 1, 0⟩

namespace Dispatcher

/-- The handler that a request is handed to. -/
def handlerFor (d : Dispatcher) (q : Request) : Option Handler :=
  if q.method ∈ forbiddenMethods then none else d.methods.find? q.method

theorem handlerFor_of_forbidden (d : Dispatcher) {q : Request}
    (hforbidden : q.method ∈ forbiddenMethods) : d.handlerFor q = none := if_pos hforbidden

theorem handlerFor_of_allowed (d : Dispatcher) {q : Request}
    (hallowed : q.method ∉ forbiddenMethods) :
    d.handlerFor q = d.methods.find? q.method := if_neg hallowed

/-- A request is handed to the handler for it and to no other. -/
theorem dispatch_eq_handle {d : Dispatcher} {q : Request} {h : Handler}
    (hfor : d.handlerFor q = some h) (b : Service σ) (s : σ) :
    d.dispatch b q (.answering q) s = h.handle d.available b q s := by
  have hallowed : q.method ∉ forbiddenMethods := by
    intro hforbidden
    rw [handlerFor_of_forbidden d hforbidden] at hfor
    cases hfor
  rw [handlerFor_of_allowed d hallowed] at hfor
  rw [dispatch_eq_of_handler hallowed hfor, ← grant_getD_eq_authority hfor]
  rfl

/-- Without a handler, a request is refused or left to the fallback, and the wallet is not asked. -/
theorem dispatch_of_handlerFor_none {d : Dispatcher} {q : Request} (hfor : d.handlerFor q = none)
    (b : Service σ) (s : σ) :
    d.dispatch b q (.answering q) s =
      if q.method ∈ forbiddenMethods then
        ⟨(Reply.answering q).setError (Fault.unsupported q.method).object, s, false, 0, 0⟩
      else ⟨.answering q, s, true, 1, 0⟩ := by
  by_cases hforbidden : q.method ∈ forbiddenMethods
  · rw [if_pos hforbidden, d.dispatch_of_forbidden hforbidden]
  · rw [handlerFor_of_allowed d hforbidden] at hfor
    rw [if_neg hforbidden, dispatch_of_unknown hforbidden hfor]

/-- Two dispatchers with one handler for a request, and the same hooks, dispatch it alike. -/
theorem dispatch_congr {d d' : Dispatcher} {q : Request} (hsame : d.handlerFor q = d'.handlerFor q)
    (havailable : d.available = d'.available) (b : Service σ) (s : σ) :
    d.dispatch b q (.answering q) s = d'.dispatch b q (.answering q) s := by
  cases hfor : d.handlerFor q with
  | none =>
    rw [dispatch_of_handlerFor_none hfor, dispatch_of_handlerFor_none (hsame.symm.trans hfor)]
  | some h =>
    rw [dispatch_eq_handle hfor, dispatch_eq_handle (hsame.symm.trans hfor), havailable]

end Dispatcher

/-- The answer to a request depends on the dispatcher through the dispatch of the request alone. -/
theorem Endpoint.answer_congr {e e' : Endpoint} {b : Service σ} {q : Request} {s : σ}
    (hdispatch : e.dispatcher.dispatch b q (.answering q) s =
      e'.dispatcher.dispatch b q (.answering q) s)
    (hfallback : e.fallback = e'.fallback) : e.answer b q s = e'.answer b q s := by
  unfold answer
  rw [hdispatch, hfallback]

/-- The answer to a request that is handed to a handler: what the handler made of it, unless it left
the request to the fallback, which is then run once. -/
theorem Endpoint.answer_of_handler {e : Endpoint} {q : Request} {h : Handler}
    (hfor : e.dispatcher.handlerFor q = some h) (b : Service σ) (s : σ) :
    e.answer b q s =
      let o := h.handle e.dispatcher.available b q s
      if o.goesOn then
        ⟨complete q ((e.fallback q).foldl Reply.write o.reply), o.state, true, 1, 1⟩
      else ⟨complete q o.reply, o.state, false, 1, 0⟩ := by
  have hdispatch := Dispatcher.dispatch_eq_handle hfor b s
  -- Whether the pipeline goes on is what the handler came to, and each answer has its own lemma.
  cases hgoesOn : (h.handle e.dispatcher.available b q s).goesOn with
  | true =>
    rw [answer_of_goesOn hdispatch hgoesOn]
    simp only [hgoesOn, if_true]
    rfl
  | false =>
    rw [answer_of_stops hdispatch hgoesOn]
    simp only [hgoesOn, Bool.false_eq_true, if_false]
    rfl

/-! ## Tables with contributed groups -/

section Hosting

variable (contributed : List (List Handler)) (available : HookSet) {q : Request}

/-- The host's own handlers come first. -/
theorem Methods.find?_hosting (method : String) :
    (hosting contributed).find? method =
      (ownHandlers.find? fun h => method ∈ h.methods).or
        (contributed.flatten.find? fun h => method ∈ h.methods) := by
  unfold hosting
  rw [find?_ofGroups, List.flatten_cons, List.find?_append]

/-- A request that is not refused belongs to an own handler, or else to a contributed one. -/
theorem handlerFor_hosting (hallowed : q.method ∉ forbiddenMethods) :
    (⟨.hosting contributed, available⟩ : Dispatcher).handlerFor q =
      (ownHandlers.find? fun h => q.method ∈ h.methods).or
        (contributed.flatten.find? fun h => q.method ∈ h.methods) := by
  rw [Dispatcher.handlerFor_of_allowed _ hallowed, ← Methods.find?_hosting]

theorem exists_own_of_mem {method : String} (hown : method ∈ ownMethods) :
    ∃ h ∈ ownHandlers, ownHandlers.find? (fun h => method ∈ h.methods) = some h := by
  obtain ⟨h, hmem, hmethod⟩ := List.mem_flatMap.1 hown
  have hsome : (ownHandlers.find? fun h => method ∈ h.methods).isSome = true :=
    List.find?_isSome.2 ⟨h, hmem, by simpa using hmethod⟩
  obtain ⟨first, hfirst⟩ := Option.isSome_iff_exists.1 hsome
  exact ⟨first, List.mem_of_find?_eq_some hfirst, hfirst⟩

theorem find?_own_of_not_mem {method : String} (hother : method ∉ ownMethods) :
    ownHandlers.find? (fun h => method ∈ h.methods) = none := by
  rw [List.find?_eq_none]
  intro h hmem hmethod
  exact hother (List.mem_flatMap.2 ⟨h, hmem, by simpa using hmethod⟩)

/-- What the host answers itself or refuses is handed to the same handler, if to any, whatever is
contributed. -/
theorem handlerFor_hosting_held
    (hheld : q.method ∈ ownMethods ∨ q.method ∈ forbiddenMethods) :
    (⟨.hosting contributed, available⟩ : Dispatcher).handlerFor q =
      (⟨.hosting [], available⟩ : Dispatcher).handlerFor q := by
  by_cases hforbidden : q.method ∈ forbiddenMethods
  · rw [Dispatcher.handlerFor_of_forbidden _ hforbidden,
      Dispatcher.handlerFor_of_forbidden _ hforbidden]
  · obtain ⟨h, _, hfind⟩ := exists_own_of_mem (hheld.resolve_right hforbidden)
    rw [handlerFor_hosting contributed available hforbidden,
      handlerFor_hosting [] available hforbidden, hfind, Option.some_or, Option.some_or]

/-- No handler but one of the host's own is ever handed what the host answers itself or refuses. -/
theorem mem_own_of_handlerFor (hheld : q.method ∈ ownMethods ∨ q.method ∈ forbiddenMethods)
    {h : Handler} (hfor : (⟨.hosting contributed, available⟩ : Dispatcher).handlerFor q = some h) :
    h ∈ ownHandlers := by
  by_cases hforbidden : q.method ∈ forbiddenMethods
  · rw [Dispatcher.handlerFor_of_forbidden _ hforbidden] at hfor
    cases hfor
  · obtain ⟨own, hmem, hfind⟩ := exists_own_of_mem (hheld.resolve_right hforbidden)
    rw [handlerFor_hosting contributed available hforbidden, hfind, Option.some_or] at hfor
    rw [← Option.some.inj hfor]
    exact hmem

/-- Any other request is handed to the first contributed handler that claims its method. -/
theorem handlerFor_hosting_first (hother : q.method ∉ ownMethods)
    (hallowed : q.method ∉ forbiddenMethods) {before after : List Handler} {h : Handler}
    (hsplit : contributed.flatten = before ++ h :: after) (hclaims : q.method ∈ h.methods)
    (hfirst : ∀ h' ∈ before, q.method ∉ h'.methods) :
    (⟨.hosting contributed, available⟩ : Dispatcher).handlerFor q = some h := by
  have hbefore : before.find? (fun h => q.method ∈ h.methods) = none := by
    rw [List.find?_eq_none]
    intro h' hmem hmethod
    exact hfirst h' hmem (by simpa using hmethod)
  rw [handlerFor_hosting contributed available hallowed, find?_own_of_not_mem hother,
    Option.none_or, hsplit, List.find?_append, hbefore, Option.none_or,
    List.find?_cons_of_pos (by simpa using hclaims)]

theorem handlerFor_hosting_none (hother : q.method ∉ ownMethods)
    (hallowed : q.method ∉ forbiddenMethods)
    (hunclaimed : ∀ h ∈ contributed.flatten, q.method ∉ h.methods) :
    (⟨.hosting contributed, available⟩ : Dispatcher).handlerFor q = none := by
  have hnone : contributed.flatten.find? (fun h => q.method ∈ h.methods) = none := by
    rw [List.find?_eq_none]
    intro h hmem hmethod
    exact hunclaimed h hmem (by simpa using hmethod)
  rw [handlerFor_hosting contributed available hallowed, find?_own_of_not_mem hother,
    Option.none_or, hnone]

end Hosting

/-! ## Answers -/

/-- What contributed groups can change in the answer to a request, whatever methods they claim,
hooks they ask for and programs they have. If the host answers the method itself or refuses it to
everyone, the answer is the one without any group: one response, the same questions to the wallet
in the same order, as many look-ups and as many calls of the fallback; and no handler is handed the
request but one of the host's own. A request for any other method is handed to the first handler,
in the order of the groups, that claims the method, and is answered as this handler leaves it, after
the fallback if the handler goes on; if no handler claims it, the fallback gets the request as it
came, with an empty reply, and the wallet is not asked. -/
theorem answer_hosting (contributed : List (List Handler)) (available : HookSet)
    (fallback : Fallback) (b : Service σ) (q : Request) (s : σ) :
    let full : Endpoint := ⟨⟨.hosting contributed, available⟩, fallback⟩
    let own : Endpoint := ⟨⟨.hosting [], available⟩, fallback⟩
    (q.method ∈ ownMethods ∨ q.method ∈ forbiddenMethods →
      full.answer b.logged q (s, []) = own.answer b.logged q (s, []) ∧
        ∀ h, full.dispatcher.handlerFor q = some h → h ∈ ownHandlers) ∧
    (q.method ∉ ownMethods → q.method ∉ forbiddenMethods →
      (∀ before h after, contributed.flatten = before ++ h :: after → q.method ∈ h.methods →
        (∀ h' ∈ before, q.method ∉ h'.methods) →
        let handled := h.handle available b.logged q (s, [])
        full.dispatcher.handlerFor q = some h ∧
          full.dispatcher.dispatch b.logged q (.answering q) (s, []) = handled ∧
          full.answer b.logged q (s, []) =
            if handled.goesOn then
              ⟨Endpoint.complete q ((fallback q).foldl Reply.write handled.reply),
                handled.state, true, 1, 1⟩
            else ⟨Endpoint.complete q handled.reply, handled.state, false, 1, 0⟩) ∧
      ((∀ h ∈ contributed.flatten, q.method ∉ h.methods) →
        full.answer b.logged q (s, []) =
          ⟨Endpoint.complete q ((fallback q).foldl Reply.write (.answering q)), (s, []), true, 1,
            1⟩)) := by
  intro full own
  refine ⟨fun hheld => ⟨?_, fun h hfor => ?_⟩, fun hother hallowed => ⟨?_, fun hunclaimed => ?_⟩⟩
  -- Held methods are looked up in the same way whatever is contributed, and the answer depends on
  -- nothing else.
  · have hsame : full.dispatcher.handlerFor q = own.dispatcher.handlerFor q :=
      handlerFor_hosting_held contributed available hheld
    exact Endpoint.answer_congr (Dispatcher.dispatch_congr hsame rfl _ _) rfl
  · exact mem_own_of_handlerFor contributed available hheld hfor
  -- The first claimant's handler is found, so the dispatch is its run and the answer follows from
  -- that.
  · intro before h after hsplit hclaims hfirst
    have hfor : full.dispatcher.handlerFor q = some h :=
      handlerFor_hosting_first contributed available hother hallowed hsplit hclaims hfirst
    exact ⟨hfor, Dispatcher.dispatch_eq_handle hfor _ _, Endpoint.answer_of_handler hfor _ _⟩
  -- No handler is found, so the dispatch passes the request on without asking the wallet.
  · have hfor : full.dispatcher.handlerFor q = none :=
      handlerFor_hosting_none contributed available hother hallowed hunclaimed
    have hdispatch := Dispatcher.dispatch_of_handlerFor_none hfor b.logged (s, [])
    rw [if_neg hallowed] at hdispatch
    exact Endpoint.answer_of_goesOn hdispatch rfl

end WalletGate.Rpc
