import WalletGate.Proofs.Answers
import WalletGate.Proofs.Basic
/-!
# Why requests fail

The host's own handlers ask, reply and fail, and nothing else: none of them breaks down, leaves its
request to the fallback, or writes an error itself. So a request fails for one of a few causes,
whichever wallet is asked and whatever it answers.

* `Plain`: programs of questions, replies and failures, and `Plain.gives`: what they come to;
* `OwnFault`: the causes for which a request of the assembled host fails, over any wallet;
* `answer_own`: it answers every request with a result or with the object of such a fault.
-/

namespace WalletGate.Rpc

open Wallet (Hook Call Service Refusal)

variable {σ : Type}

/-! ## Programs that ask, reply and fail -/

namespace Program

/-- The program asks, and ends in a reply or fails for a cause in `P`. -/
inductive Plain (P : Fault → Prop) : Program → Prop where
  | ask {c : Call} {next : c.Answer → Program} (hnext : ∀ a, Plain P (next a)) :
      Plain P (.ask c next)
  | reply (value : Json) : Plain P (.reply value)
  | fail {fault : Fault} (hfault : P fault) : Plain P (.fail fault)

/-- A run of such a program replies, or fails: for a cause of the program's own, for want of a hook,
or because the wallet refused. -/
theorem Plain.gives {P : Fault → Prop} {b : Service σ}
    (hhooks : ∀ hook, P (.notGranted hook))
    (hrefused : ∀ c s cause, (b.serve c s).1 = .error cause → P (.refused cause))
    {p : Program} (hp : p.Plain P) (granted : HookSet) (r : Reply) (s : σ) :
    ∃ out, p.Gives b granted r s out ∧ ∀ fault, out.1 = .error fault → P fault := by
  -- By induction on how the program is made; the state is general, for a question may move it.
  induction hp generalizing s with
  | @ask c next hnext ih =>
    by_cases hgranted : granted c.hook = true
    · -- The wallet is asked, and the program goes on only with an answer.
      cases hserve : b.serve c s with
      | mk answer s' =>
        cases answer with
        | error cause =>
          have hcause : (b.serve c s).1 = .error cause := by rw [hserve]
          refine ⟨(.error (.refused cause), s'), .refused hgranted hserve, ?_⟩
          rintro _ ⟨⟩
          exact hrefused c s cause hcause
        | ok a =>
          obtain ⟨out, hgives, hfault⟩ := ih a s'
          exact ⟨out, .answered hgranted hserve hgives, hfault⟩
    · refine ⟨(.error (.notGranted c.hook), s), .notGranted (Bool.eq_false_iff.2 hgranted), ?_⟩
      rintro _ ⟨⟩
      exact hhooks c.hook
  | reply value => exact ⟨(.ok value, s), .reply value, by simp⟩
  | @fail fault hfault =>
    refine ⟨(.error fault, s), .fail fault, ?_⟩
    rintro _ ⟨⟩
    exact hfault

end Program

/-! ## The host's own handlers -/

/-- Why a request fails in the assembled host, over a given wallet. -/
inductive OwnFault (b : Service σ) (q : Request) : Fault → Prop where
  | unsupported : OwnFault b q (.unsupported q.method)
  | unknownMethod : OwnFault b q (.unknownMethod q.method)
  | invalidParams (message : String) : OwnFault b q (.invalidParams message)
  | missingIdentity (address : String) : OwnFault b q (.missingIdentity address)
  | notGranted (hook : Hook) : OwnFault b q (.notGranted hook)
  | refused {c : Call} {s : σ} {cause : Refusal} (hserve : (b.serve c s).1 = .error cause) :
      OwnFault b q (.refused cause)
  | noOrigin (horigin : q.origin = none) : OwnFault b q q.originFault

/-- The code of a refused payload stands for nothing else. -/
theorem Fault.code_eq_iff (fault : Fault) :
    fault.code = -32600 ↔ ∃ message, fault = .invalidRequest message := by
  cases fault with
  | invalidRequest message => simp [code]
  | _ => simp [code]

theorem OwnFault.code_ne {b : Service σ} {q : Request} {fault : Fault} (h : OwnFault b q fault) :
    fault.code ≠ -32600 := by
  intro hcode
  obtain ⟨message, rfl⟩ := (Fault.code_eq_iff fault).1 hcode
  cases h

theorem OwnFault.ne_originFault {b : Service σ} {q q' : Request} {fault : Fault}
    (h : OwnFault b q fault) (horigin : q.origin ≠ none) : fault ≠ q'.originFault := by
  intro hsame
  cases h with
  | noOrigin hnone => exact horigin hnone
  | _ => exact absurd hsame (by simp [Request.originFault])

/-- The words for a request without an origin begin with their own letter. -/
theorem head_of_eq_originFault {q : Request} {words : String} (h : words = q.originFault.message) :
    words.toList.head? = some 'R' := by
  have hwords : q.originFault.message = "Request for \"" ++ q.method ++ "\" has no origin" := rfl
  rw [h, hwords]
  simp

/-- A request that has an origin fails as one that has none only in the words of the wallet itself:
no other fault with that code begins with that letter. -/
theorem OwnFault.refused_of_originless {b : Service σ} {q q' : Request} {fault : Fault}
    (h : OwnFault b q fault) (horigin : q.origin ≠ none) (hcode : fault.code = q'.originFault.code)
    (hmessage : fault.message = q'.originFault.message) :
    ∃ c s, (b.serve c s).1 = .error (.controller q'.originFault.message) := by
  cases h with
  -- Three causes have codes of their own.
  | unsupported => exact absurd hcode (by decide : (-32004 : Int64) ≠ -32603)
  | unknownMethod => exact absurd hcode (by decide : (-32601 : Int64) ≠ -32603)
  | invalidParams message => exact absurd hcode (by decide : (-32602 : Int64) ≠ -32603)
  -- The words for the others begin with other letters, unless they are the wallet's.
  | missingIdentity address =>
    have hwords : "Missing identity for address: \"" ++ address ++ "\"." =
        q'.originFault.message := hmessage
    exact absurd (head_of_eq_originFault hwords) (by simp)
  | notGranted hook =>
    have hwords : "Hook \"" ++ hook.name ++ "\" was not granted to this handler" =
        q'.originFault.message := hmessage
    exact absurd (head_of_eq_originFault hwords) (by simp)
  | @refused c s cause hserve =>
    cases cause with
    | locked =>
      have hwords : "Wallet is locked" = q'.originFault.message := hmessage
      exact absurd (head_of_eq_originFault hwords) (by simp)
    | controller message =>
      have hsame : message = q'.originFault.message := hmessage
      exact ⟨c, s, hsame ▸ hserve⟩
  | noOrigin hnone => exact absurd hnone horigin

theorem SiteReport.fault_of_ofParams {params : Option Json} {fault : Fault}
    (h : ofParams params = .error fault) : ∃ message, fault = .invalidParams message := by
  cases params with
  | none => exact ⟨_, (Except.error.inj h).symm⟩
  | some v =>
    simp only [ofParams] at h
    rcases Except.bind_error_iff.1 h with hread | ⟨report, _, hname⟩
    · cases hv : (Decoder.record layout).ofJson v with
      | error e =>
        rw [hv] at hread
        exact ⟨_, (Except.error.inj hread).symm⟩
      | ok report =>
        rw [hv] at hread
        injection hread
    · -- The report is read, and its name may be none.
      split at hname
      · exact absurd hname (by simp)
      · exact ⟨_, (Except.error.inj hname).symm⟩

theorem plain_withOrigin {b : Service σ} {q : Request} {next : String → Program}
    (hnext : ∀ origin, (next origin).Plain (OwnFault b q)) :
    (withOrigin q next).Plain (OwnFault b q) := by
  unfold withOrigin
  cases horigin : q.origin with
  | some origin => exact hnext origin
  | none => exact .fail (.noOrigin horigin)

theorem plain_own (b : Service σ) {h : Handler} (hown : h ∈ ownHandlers) (q : Request)
    (given : Option HookSet) : (h.program q given).Plain (OwnFault b q) := by
  simp only [ownHandlers, List.mem_cons, List.not_mem_nil, or_false] at hown
  rcases hown with rfl | rfl | rfl | rfl
  · -- The accounts: two questions, and an account may be unknown.
    refine .ask fun accounts => .ask fun identities => ?_
    cases Wallet.order accounts identities with
    | ok ordered => exact .reply _
    | error address => exact .fail (.missingIdentity address)
  · -- The provider state: one question.
    exact plain_withOrigin fun origin => .ask fun state => .reply state
  · -- The site's report: it may not be one.
    refine plain_withOrigin fun origin => ?_
    cases hreport : SiteReport.ofParams q.params with
    | ok report => exact .ask fun _ => .reply _
    | error fault =>
      obtain ⟨message, rfl⟩ := SiteReport.fault_of_ofParams hreport
      exact .fail (.invalidParams message)
  · -- The legacy interface: a question, and perhaps a note.
    refine plain_withOrigin fun origin => .ask fun usage => ?_
    cases usage with
    | some usage => exact .reply _
    | none => exact .ask fun _ => .reply _

/-- A run of an own handler replies, or fails for one of these causes. -/
theorem gives_own (b : Service σ) {h : Handler} (hown : h ∈ ownHandlers) (q : Request)
    (given : Option HookSet) (granted : HookSet) (r : Reply) (s : σ) :
    ∃ out, (h.program q given).Gives b granted r s out ∧
      ∀ fault, out.1 = .error fault → OwnFault b q fault :=
  (plain_own b hown q given).gives .notGranted (fun _ _ _ hserve => .refused hserve) granted r s

/-- No own handler fails a request that has an origin for want of one. -/
theorem exit_own_ne (b : Service σ) {h : Handler} (hown : h ∈ ownHandlers) {q : Request}
    (horigin : q.origin ≠ none) (given : Option HookSet) (granted : HookSet) (r : Reply)
    (s : σ) : ((h.program q given).run b granted r s).1 ≠ .failed q.originFault := by
  intro hexit
  obtain ⟨⟨out, s'⟩, hgives, hfault⟩ := gives_own b hown q given granted r s
  rw [hgives] at hexit
  cases out with
  | ok value => exact absurd hexit (by simp)
  | error fault =>
    injection hexit with hsame
    exact (hfault fault rfl).ne_originFault horigin hsame

/-- The assembled host answers a request with a result, or with the object of a fault. -/
theorem answer_own (b : Service σ) (q : Request) (s : σ) :
    ∃ out, (Endpoint.own.answer b q s).response = .ofVerdict q out ∧
      ∀ fault, out = .error fault → OwnFault b q fault := by
  rcases Endpoint.answer_cases b q s with
    ⟨_, hanswer⟩ | ⟨_, _, hanswer⟩ | ⟨_, h, hown, _, granted, given, _, hanswer⟩
  · refine ⟨.error (.unsupported q.method), congrArg Outcome.response hanswer, ?_⟩
    rintro _ ⟨⟩
    exact .unsupported
  · refine ⟨.error (.unknownMethod q.method), congrArg Outcome.response hanswer, ?_⟩
    rintro _ ⟨⟩
    exact .unknownMethod
  · obtain ⟨out, hgives, hfault⟩ := gives_own b hown q given granted (.answering q) s
    exact ⟨out.1, (hanswer out hgives).1, hfault⟩

end WalletGate.Rpc
