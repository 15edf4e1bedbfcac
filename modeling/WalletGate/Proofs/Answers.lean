import WalletGate.Proofs.Atomicity
import WalletGate.Host.Basic
/-!
# What the host's own methods answer

The hooks, the programs and the stages that a request passes come to nothing for an assembled host
over a wallet in memory: every hook is there, and the wallet never refuses. What is left is a
verdict on each request, which is a result or a fault, and what the wallet is afterwards.

* `Program.Gives`: what a run comes to that replies or fails, over any wallet;
* `Endpoint.answer_cases`: what becomes of a request at the assembled endpoint, over any wallet;
* `verdict`: the result or the fault of a request, method by method;
* `Endpoint.answer_eq_verdict`: the assembled endpoint answers every request by its verdict;
* `noted_verdict`: a verdict leaves no more than a note in the wallet.
-/

namespace WalletGate.Rpc

open Wallet (Hook Call Service Refusal)

variable {σ : Type}

/-! ## The endpoint -/

/-- The endpoint of an assembled host: its own methods, all hooks, and nothing behind them. -/
def Endpoint.own : Endpoint := ⟨⟨.hosting [], .full⟩, refuseUnknown⟩

/-- The response that carries a result or a fault. -/
def Response.ofVerdict (q : Request) : Except Fault Json → Response
  | .ok value => ⟨version, q.id, some value, none⟩
  | .error fault => ⟨version, q.id, none, some fault.object⟩

/-- The reply that a result or a fault makes. -/
def Reply.ofVerdict (q : Request) : Except Fault Json → Reply
  | .ok value => (Reply.answering q).setResult value
  | .error fault => (Reply.answering q).setError fault.object

namespace Methods

/-- Each of the host's own handlers has the methods that it claims. -/
theorem find?_of_mem_own {h : Handler} (hown : h ∈ ownHandlers) {method : String}
    (hclaims : method ∈ h.methods) : (hosting []).find? method = some h := by
  unfold hosting
  rw [find?_ofGroups]
  simp only [ownHandlers, List.mem_cons, List.not_mem_nil, or_false] at hown
  -- Every handler claims one method, and no two handlers the same.
  rcases hown with rfl | rfl | rfl | rfl
  all_goals
    rw [List.mem_singleton.1 hclaims]
    rfl

/-- A method without a handler is none of the methods that the host's own handlers claim. -/
theorem not_mem_own_of_find? {method : String} (hfind : (hosting []).find? method = none)
    {h : Handler} (hown : h ∈ ownHandlers) : method ∉ h.methods := by
  intro hclaims
  rw [find?_of_mem_own hown hclaims] at hfind
  exact absurd hfind (by simp)

end Methods

/-! ## Runs that ask a wallet -/

/-- A granted question that the wallet answers goes on with the answer. -/
theorem run_ask_granted {b : Service σ} {granted : HookSet} {c : Call}
    (hgranted : granted c.hook = true) {a : c.Answer} {s s' : σ}
    (hserve : b.serve c s = (.ok a, s'))
    (next : c.Answer → Program) (r : Reply) :
    (Program.ask c next).run b granted r s = (next a).run b granted r s' := by
  rw [Program.ask, Program.run, if_pos hgranted, hserve]
  rfl

/-- How a run that replies or fails ends, given what it comes to. -/
def Program.Gives (b : Service σ) (granted : HookSet) (p : Program) (r : Reply) (s : σ)
    (out : Except Fault Json × σ) : Prop :=
  p.run b granted r s =
    match out.1 with
    | .ok value => (.ended, r.setResult value, out.2)
    | .error fault => (.failed fault, r, out.2)

namespace Program.Gives

theorem reply {b : Service σ} {granted : HookSet} {r : Reply} {s : σ} (value : Json) :
    (Program.reply value).Gives b granted r s (.ok value, s) := rfl

theorem fail {b : Service σ} {granted : HookSet} {r : Reply} {s : σ} (fault : Fault) :
    (Program.fail fault).Gives b granted r s (.error fault, s) := rfl

theorem answered {b : Service σ} {granted : HookSet} {r : Reply} {c : Call}
    {next : c.Answer → Program} {a : c.Answer} {s s' : σ} {out : Except Fault Json × σ}
    (hgranted : granted c.hook = true) (hserve : b.serve c s = (.ok a, s'))
    (hnext : (next a).Gives b granted r s' out) : (Program.ask c next).Gives b granted r s out := by
  unfold Gives
  rw [run_ask_granted hgranted hserve]
  exact hnext

/-- A question under a hook that was not granted fails the program. -/
theorem notGranted {b : Service σ} {granted : HookSet} {r : Reply} {s : σ} {c : Call}
    {next : c.Answer → Program} (hhook : granted c.hook = false) :
    (Program.ask c next).Gives b granted r s (.error (.notGranted c.hook), s) := by
  unfold Gives
  rw [Program.ask, Program.run, if_neg (by simp [hhook])]
  rfl

/-- A question that the wallet refuses fails the program. -/
theorem refused {b : Service σ} {granted : HookSet} {r : Reply} {s s' : σ} {c : Call}
    {next : c.Answer → Program} {cause : Refusal} (hhook : granted c.hook = true)
    (hserve : b.serve c s = (.error cause, s')) :
    (Program.ask c next).Gives b granted r s (.error (.refused cause), s') := by
  unfold Gives
  rw [Program.ask, Program.run, if_pos hhook, hserve]
  rfl

/-- A wallet in memory answers every granted question. -/
theorem ask {granted : HookSet} {r : Reply} {w : Wallet} {c : Call} {next : c.Answer → Program}
    {out : Except Fault Json × Wallet} (hgranted : granted c.hook = true)
    (hnext : (next (w.answer c)).Gives Wallet.service granted r (w.after c) out) :
    (Program.ask c next).Gives Wallet.service granted r w out :=
  answered hgranted rfl hnext

end Program.Gives

/-! ## What becomes of a request -/

namespace Endpoint

/-- A request at the assembled endpoint, over any wallet: its method is refused to everyone; or
nobody has it; or one of the host's own handlers runs, with all hooks that it asks for, and if it
replies or fails that is the answer. -/
theorem answer_cases (b : Service σ) (q : Request) (s : σ) :
    (q.method ∈ forbiddenMethods ∧
      own.answer b q s = ⟨.ofVerdict q (.error (.unsupported q.method)), s, false, 0, 0⟩) ∨
    (q.method ∉ forbiddenMethods ∧ (∀ h ∈ ownHandlers, q.method ∉ h.methods) ∧
      own.answer b q s = ⟨.ofVerdict q (.error (.unknownMethod q.method)), s, true, 1, 1⟩) ∨
    (q.method ∉ forbiddenMethods ∧ ∃ h ∈ ownHandlers, q.method ∈ h.methods ∧ ∃ granted given,
      (∀ hooks ∈ h.hooks, ∀ hook, hooks hook = true → granted hook = true) ∧
      ∀ out, (h.program q given).Gives b granted (.answering q) s out →
        (own.answer b q s).response = .ofVerdict q out.1 ∧ (own.answer b q s).state = out.2) := by
  by_cases hforbidden : q.method ∈ forbiddenMethods
  · exact .inl ⟨hforbidden,
      answer_of_stops (own.dispatcher.dispatch_of_forbidden hforbidden b (.answering q) s) rfl⟩
  · cases hfind : own.dispatcher.methods.find? q.method with
    | none =>
      refine .inr (.inl ⟨hforbidden, fun h hown => Methods.not_mem_own_of_find? hfind hown, ?_⟩)
      exact answer_of_goesOn
        (Dispatcher.dispatch_of_unknown hforbidden hfind b (.answering q) s) rfl
    | some h =>
      refine .inr (.inr ⟨hforbidden, h, Methods.mem_own_of_find? hfind,
        Methods.mem_methods_of_find? hfind, own.dispatcher.authority q.method,
        -- A hook that the handler has declared is granted, for the full host has every hook.
        own.dispatcher.grant h, fun hooks hhooks hook hhook => ?_, fun out hgives => ?_⟩)
      · have hhooks : h.hooks = some hooks := hhooks
        simp only [Dispatcher.authority, Dispatcher.declared, HookSet.inter, hfind, hhooks,
          Option.any_some, hhook, Bool.and_true]
        rfl
      · have hdispatch := Dispatcher.dispatch_eq_of_handler hforbidden hfind b (.answering q) s
        unfold Program.Gives at hgives
        rw [hgives] at hdispatch
        obtain ⟨out, s'⟩ := out
        -- A handler that replies and one that fails are both done with the request.
        cases out with
        | ok value =>
          rw [answer_of_stops hdispatch rfl]
          exact ⟨rfl, rfl⟩
        | error fault =>
          rw [answer_of_stops hdispatch rfl]
          exact ⟨rfl, rfl⟩

end Endpoint

/-! ## Verdicts -/

/-- The fault of a request that needs an origin and has none. -/
def Request.originFault (q : Request) : Fault :=
  .internal ("Request for \"" ++ q.method ++ "\" has no origin")

/-- Decides by the origin of the request. -/
def decideFor (q : Request) (w : Wallet) (next : String → Except Fault Json × Wallet) :
    Except Fault Json × Wallet :=
  match q.origin with
  | some origin => next origin
  | none => (.error q.originFault, w)

/-- The accounts that a wallet in memory shows, in order, or the fault of the first one that nothing
is known of. -/
def shownAccounts (w : Wallet) : Except Fault Json :=
  match Wallet.order w.usable w.identities with
  | .ok ordered => .ok (.array (ordered.map .text))
  | .error address => .error (.missingIdentity address)

/-- What a wallet in memory makes of a request: a result or a fault, and the wallet afterwards. -/
def verdict (q : Request) (w : Wallet) : Except Fault Json × Wallet :=
  if q.method ∈ forbiddenMethods then (.error (.unsupported q.method), w)
  else match q.method with
    | "eth_accounts" => (shownAccounts w, w)
    | "metamask_getProviderState" => decideFor q w fun origin => (.ok (w.providerState origin), w)
    | "metamask_sendDomainMetadata" => decideFor q w fun origin =>
      match SiteReport.ofParams q.params with
      | .error fault => (.error fault, w)
      | .ok (name, icon) => (.ok (.bool true), w.after (.addSubject ⟨origin, name, icon⟩))
    | "metamask_logWeb3ShimUsage" => decideFor q w fun origin =>
      (.ok (.bool true),
        if w.shims.find? origin = none then w.after (.recordShimUsage origin) else w)
    | method => (.error (.unknownMethod method), w)

theorem Program.Gives.withOrigin {granted : HookSet} {r : Reply} {w : Wallet} {q : Request}
    {next : String → Program} {out : String → Except Fault Json × Wallet}
    (hnext : ∀ origin, (next origin).Gives Wallet.service granted r w (out origin)) :
    (Rpc.withOrigin q next).Gives Wallet.service granted r w (decideFor q w out) := by
  unfold Rpc.withOrigin decideFor
  cases q.origin with
  | none => exact .fail _
  | some origin => exact hnext origin

/-- The host's own handlers come to the verdict on the request, if they are granted the hooks that
they ask for. -/
theorem gives_verdict {q : Request} (hallowed : q.method ∉ forbiddenMethods) {h : Handler}
    (hown : h ∈ ownHandlers) (hclaims : q.method ∈ h.methods) {granted : HookSet}
    (hgranted : ∀ hooks ∈ h.hooks, ∀ hook, hooks hook = true → granted hook = true)
    (given : Option HookSet) (r : Reply) (w : Wallet) :
    (h.program q given).Gives Wallet.service granted r w (verdict q w) := by
  unfold verdict
  rw [if_neg hallowed]
  -- By the handler; each has one method, so the verdict on the method is the handler's program run
  -- step by step.
  simp only [ownHandlers, List.mem_cons, List.not_mem_nil, or_false] at hown
  rcases hown with rfl | rfl | rfl | rfl
  · -- The accounts, then what the user sees of them, and then their order.
    have hmethod : q.method = "eth_accounts" := List.mem_singleton.1 hclaims
    simp only [hmethod]
    refine .ask (hgranted _ rfl _ rfl) (.ask (hgranted _ rfl _ rfl) ?_)
    have horder : Wallet.order (w.answer .accounts) ((w.after .accounts).answer .identities) =
        Wallet.order w.usable w.identities := rfl
    unfold shownAccounts
    rw [horder]
    cases Wallet.order w.usable w.identities with
    | ok ordered => exact .reply _
    | error address => exact .fail _
  · -- The provider state of the origin.
    have hmethod : q.method = "metamask_getProviderState" := List.mem_singleton.1 hclaims
    simp only [hmethod]
    exact .withOrigin fun origin => .ask (hgranted _ rfl _ rfl) (.reply _)
  · -- The site's report is read before the wallet is asked to keep it.
    have hmethod : q.method = "metamask_sendDomainMetadata" := List.mem_singleton.1 hclaims
    simp only [hmethod]
    refine .withOrigin fun origin => ?_
    cases SiteReport.ofParams q.params with
    | error fault => exact .fail fault
    | ok report => exact .ask (hgranted _ rfl _ rfl) (.reply _)
  · -- The legacy interface: the wallet is asked to keep the note only if it has none.
    have hmethod : q.method = "metamask_logWeb3ShimUsage" := List.mem_singleton.1 hclaims
    simp only [hmethod]
    refine .withOrigin fun origin => .ask (hgranted _ rfl _ rfl) ?_
    have hanswer : w.answer (.shimUsage origin) = w.shims.find? origin := rfl
    rw [hanswer]
    cases w.shims.find? origin with
    | some usage => exact .reply _
    | none => exact .ask (hgranted _ rfl _ rfl) (.reply _)

namespace Endpoint

/-- The assembled endpoint answers every request by its verdict. -/
theorem answer_eq_verdict (q : Request) (w : Wallet) :
    (own.answer Wallet.service q w).response = .ofVerdict q (verdict q w).1 ∧
      (own.answer Wallet.service q w).state = (verdict q w).2 := by
  -- The three ways of an answer; the first two never ask the wallet.
  rcases answer_cases Wallet.service q w with
    ⟨hforbidden, hanswer⟩ | ⟨hallowed, hother, hanswer⟩ |
    ⟨hallowed, h, hown, hclaims, granted, given, hgranted, hanswer⟩
  · have hverdict : verdict q w = (.error (.unsupported q.method), w) := if_pos hforbidden
    rw [hanswer, hverdict]
    exact ⟨rfl, rfl⟩
  · have hverdict : verdict q w = (.error (.unknownMethod q.method), w) := by
      unfold verdict
      rw [if_neg hallowed]
      -- A method that a verdict knows is one that an own handler claims.
      split
      · rename_i hmethod
        exact absurd (List.mem_singleton.2 hmethod) (hother accounts (by simp [ownHandlers]))
      · rename_i hmethod
        exact absurd (List.mem_singleton.2 hmethod) (hother providerState (by simp [ownHandlers]))
      · rename_i hmethod
        exact absurd (List.mem_singleton.2 hmethod) (hother siteMetadata (by simp [ownHandlers]))
      · rename_i hmethod
        exact absurd (List.mem_singleton.2 hmethod) (hother shimUsage (by simp [ownHandlers]))
      · rfl
    rw [hanswer, hverdict]
    exact ⟨rfl, rfl⟩
  · exact hanswer _ (gives_verdict hallowed hown hclaims hgranted given (.answering q) w)

end Endpoint

/-- A verdict leaves no more than a note in the wallet. -/
theorem noted_verdict (q : Request) (w : Wallet) : Noted q w (verdict q w).2 := by
  have hservice : Wallet.service.failing (fun _ => none) none = Wallet.service := rfl
  rw [← (Endpoint.answer_eq_verdict q w).2, ← hservice]
  rcases Endpoint.answer_own_cases .full (fun _ => none) none q w with
    ⟨_, _, hstate⟩ | ⟨_, _, hnoted⟩
  · have hsame :
        (Endpoint.own.answer (Wallet.service.failing (fun _ => none) none) q w).state = w :=
      hstate
    rw [hsame]
    exact .nothing
  · exact hnoted

end WalletGate.Rpc
