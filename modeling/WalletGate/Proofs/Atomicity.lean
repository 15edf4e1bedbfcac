import WalletGate.Proofs.Footprint
import WalletGate.Wallet.Basic
/-!
# Atomic requests

Each of the host's own handlers changes the wallet in its last question or not at all, so a request
that fails, at whichever step, has changed nothing. A wallet may refuse what is asked under any
hooks, and any hooks may be missing.

* `run_ask`: a question fails and leaves the wallet alone, or the wallet answers it;
* `Noted`: what a request can leave in a wallet, and `settles_own`: a run of an own handler leaves
  nothing when it fails and at most a note when it does not;
* `Endpoint.answer_atomic`: errors leave the wallet as it was, and results change it at the origin
  of the request alone.
-/

namespace WalletGate.Rpc

open Wallet (Hook Call Refusal SubjectMetadata ShimUsage)

/-! ## Notes -/

/-- What a request can leave in a wallet, under its own origin: nothing, what the site reports about
itself, or the first note that the site uses the legacy interface. -/
inductive Noted (q : Request) (w : Wallet) : Wallet → Prop where
  | nothing : Noted q w w
  | report {origin name : String} {icon : Option String}
      (hmethod : q.method = "metamask_sendDomainMetadata") (horigin : q.origin = some origin)
      (hreport : SiteReport.ofParams q.params = .ok (name, icon)) :
      Noted q w { w with subjects := w.subjects.put origin ⟨origin, name, icon⟩ }
  | usage {origin : String} (hmethod : q.method = "metamask_logWeb3ShimUsage")
      (horigin : q.origin = some origin) (hunset : w.shims.find? origin = none) :
      Noted q w { w with shims := w.shims.put origin .recorded }

namespace Noted

variable {q : Request} {w w' : Wallet}

/-- Notes have no part in the accounts, nor in whether the wallet is locked. -/
theorem accounts_eq (h : Noted q w w') :
    w'.unlocked = w.unlocked ∧ w'.accounts = w.accounts ∧ w'.identities = w.identities ∧
      w'.permitted = w.permitted := by
  cases h with
  | nothing => exact ⟨rfl, rfl, rfl, rfl⟩
  | report => exact ⟨rfl, rfl, rfl, rfl⟩
  | usage => exact ⟨rfl, rfl, rfl, rfl⟩

/-- Notes of a request stay away from other origins. -/
theorem find?_of_ne (h : Noted q w w') {origin : String} (hother : q.origin ≠ some origin) :
    w'.subjects.find? origin = w.subjects.find? origin ∧
      w'.shims.find? origin = w.shims.find? origin := by
  cases h with
  | nothing => exact ⟨rfl, rfl⟩
  | report hmethod horigin hreport =>
    refine ⟨(Dict.find?_put ..).trans (if_neg ?_), rfl⟩
    rintro rfl
    exact hother horigin
  | usage hmethod horigin hunset =>
    refine ⟨rfl, (Dict.find?_put ..).trans (if_neg ?_)⟩
    rintro rfl
    exact hother horigin

/-- What has been noted about the legacy interface stays. -/
theorem find?_shims_of_some (h : Noted q w w') {origin : String} {usage : ShimUsage}
    (hset : w.shims.find? origin = some usage) : w'.shims.find? origin = some usage := by
  cases h with
  | nothing => exact hset
  | report hmethod horigin hreport => exact hset
  | usage hmethod horigin hunset =>
    refine (Dict.find?_put ..).trans ((if_neg ?_).trans hset)
    rintro rfl
    exact Option.some_ne_none usage (hset.symm.trans hunset)

end Noted

/-! ## Runs -/

/-- A question that is not granted or is refused ends the program before anything has happened;
otherwise the wallet answers it. -/
theorem run_ask (calls : Hook → Option Refusal) (snapshot : Option Refusal) (granted : HookSet)
    (c : Call) (next : c.Answer → Program) (r : Reply) (w : Wallet) :
    let b := Wallet.service.failing calls snapshot
    (∃ fault, (Program.ask c next).run b granted r w = (.failed fault, r, w)) ∨
      (Program.ask c next).run b granted r w =
        (next (w.answer c)).run b granted r (w.after c) := by
  intro b
  rw [Program.ask, Program.run]
  -- A question can fail for want of the hook or be refused, and the wallet is asked in the second
  -- case only.
  by_cases hgranted : granted c.hook = true
  · rw [if_pos hgranted]
    cases hcalls : calls c.hook with
    | some refusal =>
      have hserve : b.serve c w = (.error refusal, w) := by
        simp only [b, Wallet.Service.failing, hcalls]
      rw [hserve]
      exact .inl ⟨_, rfl⟩
    | none =>
      have hserve : b.serve c w = (.ok (w.answer c), w.after c) := by
        simp only [b, Wallet.Service.failing, hcalls, Wallet.service]
      rw [hserve]
      exact .inr rfl
  · rw [if_neg hgranted]
    exact .inl ⟨_, rfl⟩

/-- How a run that began with a response and a wallet may come out: it fails and leaves both as they
were, or it replies and leaves no more than a note. -/
inductive Settles (q : Request) (r : Reply) (w : Wallet) : Exit × Reply × Wallet → Prop where
  | failed (fault : Fault) : Settles q r w (.failed fault, r, w)
  | replied (value : Json) {w' : Wallet} (hnoted : Noted q w w') :
      Settles q r w (.ended, r.setResult value, w')

section Settles

variable {calls : Hook → Option Refusal} {snapshot : Option Refusal} {granted : HookSet}
  {q : Request} {r : Reply} {w : Wallet}

/-- A question may be asked first if the rest settles with the answer. -/
theorem Settles.ask {c : Call} {next : c.Answer → Program}
    (hnext : Settles q r w
      ((next (w.answer c)).run (Wallet.service.failing calls snapshot) granted r (w.after c))) :
    Settles q r w
      ((Program.ask c next).run (Wallet.service.failing calls snapshot) granted r w) := by
  rcases run_ask calls snapshot granted c next r w with ⟨fault, hfailed⟩ | hanswered
  · rw [hfailed]
    exact .failed fault
  · rw [hanswered]
    exact hnext

theorem Settles.withOrigin {next : String → Program}
    (hnext : ∀ origin, q.origin = some origin →
      Settles q r w ((next origin).run (Wallet.service.failing calls snapshot) granted r w)) :
    Settles q r w
      ((Rpc.withOrigin q next).run (Wallet.service.failing calls snapshot) granted r w) := by
  unfold Rpc.withOrigin
  split
  · rename_i origin horigin
    exact hnext origin horigin
  · exact .failed _

end Settles

/-- Every step of the host's own handlers may fail, and none of them after a change. -/
theorem settles_own (calls : Hook → Option Refusal) (snapshot : Option Refusal) (granted : HookSet)
    {q : Request} (r : Reply) (w : Wallet) {h : Handler} (hown : h ∈ ownHandlers)
    (hclaims : q.method ∈ h.methods) (given : Option HookSet) :
    Settles q r w
      ((h.program q given).run (Wallet.service.failing calls snapshot) granted r w) := by
  -- By the handler: each changes the wallet by its last question, if by any, so nothing can fail
  -- after the change.
  simp only [ownHandlers, List.mem_cons, List.not_mem_nil, or_false] at hown
  rcases hown with rfl | rfl | rfl | rfl
  · -- The accounts: two questions that change nothing, then the order may fail.
    refine .ask (.ask ?_)
    split
    · exact .replied _ .nothing
    · exact .failed _
  · -- The provider state: one question that changes nothing.
    exact .withOrigin fun origin horigin => .ask (.replied _ .nothing)
  · -- The site's report: read first, then kept.
    refine .withOrigin fun origin horigin => ?_
    cases hreport : SiteReport.ofParams q.params with
    | error fault => exact .failed fault
    | ok report =>
      exact .ask (.replied _ (.report (List.mem_singleton.mp hclaims) horigin hreport))
  · -- The legacy interface: noted only if it is not.
    refine .withOrigin fun origin horigin => .ask ?_
    cases hunset : w.answer (.shimUsage origin) with
    | some usage => exact .replied _ .nothing
    | none => exact .ask (.replied _ (.usage (List.mem_singleton.mp hclaims) horigin hunset))

/-! ## Answers -/

namespace Endpoint

/-- A request is answered by an error alone and changes nothing, or by a result alone and leaves at
most a note. -/
theorem answer_own_cases (available : HookSet) (calls : Hook → Option Refusal)
    (snapshot : Option Refusal) (q : Request) (w : Wallet) :
    let e : Endpoint := ⟨⟨.hosting [], available⟩, refuseUnknown⟩
    let o := e.answer (Wallet.service.failing calls snapshot) q w
    (∃ object, o.response = ⟨version, q.id, none, some object⟩ ∧ o.state = w) ∨
      ∃ value, o.response = ⟨version, q.id, some value, none⟩ ∧ Noted q w o.state := by
  intro e o
  let b := Wallet.service.failing calls snapshot
  by_cases hforbidden : q.method ∈ forbiddenMethods
  · left
    have ho : o = _ := answer_of_stops
      (e.dispatcher.dispatch_of_forbidden hforbidden b (.answering q) w) rfl
    rw [ho]
    exact ⟨_, rfl, rfl⟩
  -- An unknown method is refused by the fallback, which does not ask the wallet either.
  · cases hfind : e.dispatcher.methods.find? q.method with
    | none =>
      left
      have ho : o = _ := answer_of_goesOn
        (Dispatcher.dispatch_of_unknown hforbidden hfind b (.answering q) w) rfl
      rw [ho]
      exact ⟨_, rfl, rfl⟩
    | some h =>
      have hsettles := settles_own calls snapshot (e.dispatcher.authority q.method) (.answering q) w
        (Methods.mem_own_of_find? hfind) (Methods.mem_methods_of_find? hfind)
        (e.dispatcher.grant h)
      have hdispatch := Dispatcher.dispatch_eq_of_handler hforbidden hfind b (.answering q) w
      -- The run fails or replies; the rest of the answer is computed from that.
      generalize Program.run _ _ _ _ _ = out at hsettles hdispatch
      cases hsettles with
      | failed fault =>
        left
        have ho : o = _ := answer_of_stops hdispatch rfl
        rw [ho]
        exact ⟨_, rfl, rfl⟩
      | @replied value w' hnoted =>
        right
        have ho : o = _ := answer_of_stops hdispatch rfl
        rw [ho]
        exact ⟨value, rfl, hnoted⟩

/-- Whatever the wallet refuses and whichever hooks are missing, a request that is answered by an
error has left the wallet as it was. One that is answered by a result has left at most a note under
its own origin: what the site reports, in the place of what was reported before, or that the site
uses the legacy interface, where nothing was noted. The lock, the accounts, what the user sees of
them, the permissions and what is kept of other origins stay as they were, and no note on the legacy
interface is ever replaced. -/
theorem answer_atomic (available : HookSet) (calls : Hook → Option Refusal)
    (snapshot : Option Refusal) (q : Request) (w : Wallet) :
    let e : Endpoint := ⟨⟨.hosting [], available⟩, refuseUnknown⟩
    let o := e.answer (Wallet.service.failing calls snapshot) q w
    (o.response.error.isSome = true → o.state = w) ∧
    (o.response.result.isSome = true → Noted q w o.state) ∧
    (o.state.unlocked = w.unlocked ∧ o.state.accounts = w.accounts ∧
      o.state.identities = w.identities ∧ o.state.permitted = w.permitted) ∧
    (∀ origin, q.origin ≠ some origin →
      o.state.subjects.find? origin = w.subjects.find? origin ∧
      o.state.shims.find? origin = w.shims.find? origin) ∧
    (∀ origin usage, w.shims.find? origin = some usage →
      o.state.shims.find? origin = some usage) := by
  intro e o
  have hnoted : Noted q w o.state := by
    rcases answer_own_cases available calls snapshot q w with ⟨_, _, hstate⟩ | ⟨_, _, hnoted⟩
    · exact hstate.symm ▸ .nothing
    · exact hnoted
  refine ⟨fun herror => ?_, fun _ => hnoted, hnoted.accounts_eq,
    fun origin hother => hnoted.find?_of_ne hother,
    fun origin usage hset => hnoted.find?_shims_of_some hset⟩
  rcases answer_own_cases available calls snapshot q w with
    ⟨_, _, hstate⟩ | ⟨value, hresponse, _⟩
  · exact hstate
  · rw [hresponse] at herror
    cases herror

end Endpoint

end WalletGate.Rpc
