import Mathlib.Data.List.Induction
import WalletGate.Proofs.Authority
/-!
# Completion of requests

Every request is completed once: by a result or by an error, never by both and never by neither.
What a response ends up with is what was written to it last, by whomever, so a handler that fails or
breaks down cannot leave anything of what it wrote before.

* `foldl_write`: the last of some writes decides the response, and `Program.run_reply`: a handler's
  run writes its writes;
* `Dispatcher.course`: what becomes of a request before the fallback, and `Course.writes`:
  everything that is written to its response, in order;
* `Endpoint.answer_follows_course`: the response holds the last of these writes, or the error of a
  request that nobody answered;
* `Endpoint.answer_completes`: the shape of the response, who had a part in it, and how often.
-/

namespace WalletGate.Rpc

open Wallet (Service)

variable {σ : Type}

/-! ## Writes -/

/-- The reply that holds what was written last, if anything was. -/
def Reply.ofLast (q : Request) : Option Write → Reply
  | none => .answering q
  | some w => (Reply.answering q).write w

/-- The response that holds what was written last, if anything was. -/
def Response.ofLast (q : Request) (last : Option Write) : Response :=
  (Reply.ofLast q last).toResponse

/-- A write leaves nothing of what was written before. -/
theorem Reply.write_ofLast (q : Request) (last : Option Write) (w : Write) :
    (Reply.ofLast q last).write w = .ofLast q (some w) := by
  cases last with
  | none => rfl
  | some old =>
    cases old with
    | result value =>
      cases w with
      | result value' => rfl
      | error object => rfl
    | error object =>
      cases w with
      | result value => rfl
      | error object' => rfl

/-- The last of some writes decides the reply. -/
theorem foldl_write (q : Request) (ws : List Write) :
    ws.foldl Reply.write (.answering q) = .ofLast q ws.getLast? := by
  induction ws using List.reverseRecOn with
  | nil => rfl
  | append_singleton ws w ih =>
    rw [List.foldl_append, ih, List.foldl_cons, List.foldl_nil, Reply.write_ofLast,
      List.getLast?_concat]

/-- What a program writes in a conversation with a service, in order. -/
def Program.writes (b : Service σ) (granted : HookSet) : Program → σ → List Write
  | .call c next, s =>
    if granted c.hook then
      (next ((b.serve c s).1.mapError .refused)).writes b granted (b.serve c s).2
    else (next (.error (.notGranted c.hook))).writes b granted s
  | .write w next, s => w :: next.writes b granted s
  | .exit _, _ => []

/-- A run leaves the reply that its writes make. -/
theorem Program.run_reply (b : Service σ) (granted : HookSet) (p : Program) (r : Reply) (s : σ) :
    (p.run b granted r s).2.1 = (p.writes b granted s).foldl Reply.write r := by
  induction p generalizing r s with
  | call c next ih =>
    unfold run writes
    by_cases hgranted : granted c.hook = true
    · simp only [hgranted, if_true]
      exact ih _ r _
    · simp only [hgranted, if_false, Bool.false_eq_true]
      exact ih _ r s
  | write w next ih => exact ih (r.write w) s
  | exit e => rfl

/-! ## The course of a request -/

/-- What becomes of a request before the fallback. -/
inductive Course where
  /-- Its method is refused to everyone. -/
  | forbidden
  /-- Its method has no handler. -/
  | unknown
  /-- A handler wrote something and ended. -/
  | handled (written : List Write) (exit : Exit)

namespace Course

/-- Whether the fallback takes over. -/
def goesOn : Course → Bool
  | unknown | handled _ .next => true
  | _ => false

theorem goesOn_handled_iff (written : List Write) (exit : Exit) :
    (handled written exit).goesOn = true ↔ exit = .next := by
  cases exit with
  | next => simp [goesOn]
  | ended => simp [goesOn]
  | failed fault => simp [goesOn]
  | broken message => simp [goesOn]

/-- How often the method table is looked up. -/
def lookups : Course → Nat
  | forbidden => 0
  | unknown | handled .. => 1

/-- What is written to the response before the fallback, in order. -/
def written (method : String) : Course → List Write
  | forbidden => [.error (Fault.unsupported method).object]
  | unknown => []
  | handled written .next | handled written .ended => written
  | handled written (.failed fault) => written ++ [.error fault.object]
  | handled written (.broken message) =>
    written ++ [.error (Fault.handlerFailed method (message.getD Dispatcher.brokenText)).object]

/-- All that is written to the response, in order, given what the fallback would write. -/
def writes (method : String) (fallback : List Write) (course : Course) : List Write :=
  course.written method ++ if course.goesOn then fallback else []

theorem writes_handled (method : String) (fallback written : List Write) (exit : Exit) :
    (handled written exit).writes method fallback =
      match exit with
      | .next => written ++ fallback
      | .ended => written
      | .failed fault => written ++ [.error fault.object]
      | .broken message =>
        written ++
          [.error (Fault.handlerFailed method (message.getD Dispatcher.brokenText)).object] := by
  cases exit with
  | next => rfl
  | ended => exact List.append_nil written
  | failed fault => exact List.append_nil _
  | broken message => exact List.append_nil _

end Course

namespace Dispatcher

/-- What becomes of a request before the fallback, given the service and its state. -/
def course (d : Dispatcher) (b : Service σ) (q : Request) (s : σ) : Course :=
  if q.method ∈ forbiddenMethods then .forbidden
  else match d.methods.find? q.method with
    | none => .unknown
    | some h =>
      let p := h.program q (d.grant h)
      .handled (p.writes b (d.authority q.method) s)
        (p.run b (d.authority q.method) (.answering q) s).1

variable {d : Dispatcher} {q : Request}

theorem course_of_forbidden (hforbidden : q.method ∈ forbiddenMethods) (b : Service σ) (s : σ) :
    d.course b q s = .forbidden := by
  rw [course, if_pos hforbidden]

theorem course_of_unknown (hallowed : q.method ∉ forbiddenMethods)
    (hfind : d.methods.find? q.method = none) (b : Service σ) (s : σ) :
    d.course b q s = .unknown := by
  rw [course, if_neg hallowed, hfind]

theorem course_of_handler (hallowed : q.method ∉ forbiddenMethods) {h : Handler}
    (hfind : d.methods.find? q.method = some h) (b : Service σ) (s : σ) :
    d.course b q s =
      .handled ((h.program q (d.grant h)).writes b (d.authority q.method) s)
        ((h.program q (d.grant h)).run b (d.authority q.method) (.answering q) s).1 := by
  rw [course, if_neg hallowed, hfind]

theorem lookups_course (d : Dispatcher) (b : Service σ) (q : Request) (s : σ) :
    (d.course b q s).lookups = if q.method ∈ forbiddenMethods then 0 else 1 := by
  by_cases hforbidden : q.method ∈ forbiddenMethods
  · rw [course_of_forbidden hforbidden, if_pos hforbidden]
    rfl
  · rw [if_neg hforbidden]
    cases hfind : d.methods.find? q.method with
    | none =>
      rw [course_of_unknown hforbidden hfind]
      rfl
    | some h =>
      rw [course_of_handler hforbidden hfind]
      rfl

/-- The fallback takes over what has no handler, and what its handler leaves to it. -/
theorem goesOn_course_iff (d : Dispatcher) (b : Service σ) (q : Request) (s : σ) :
    (d.course b q s).goesOn = true ↔ q.method ∉ forbiddenMethods ∧
      ∀ h, d.methods.find? q.method = some h →
        ((h.program q (d.grant h)).run b (d.authority q.method) (.answering q) s).1 = .next := by
  -- A refused method never goes on; an unknown one always does, for it has no handler to say
  -- otherwise.
  by_cases hforbidden : q.method ∈ forbiddenMethods
  · rw [course_of_forbidden hforbidden]
    simp [Course.goesOn, hforbidden]
  · cases hfind : d.methods.find? q.method with
    | none =>
      rw [course_of_unknown hforbidden hfind]
      simp [Course.goesOn, hforbidden]
    | some h =>
      rw [course_of_handler hforbidden hfind]
      rw [Course.goesOn_handled_iff]
      constructor
      · intro hnext
        refine ⟨hforbidden, fun h' hsame => ?_⟩
        obtain rfl : h = h' := Option.some.inj hsame
        exact hnext
      · rintro ⟨_, hnext⟩
        exact hnext h rfl

/-- Settling how a handler ended adds what the course of its request says. -/
theorem settle_foldl_write (q : Request) (written : List Write) (exit : Exit) :
    settle q.method (written.foldl Reply.write (.answering q)) exit =
      ((Course.handled written exit).goesOn,
        ((Course.handled written exit).written q.method).foldl Reply.write (.answering q)) := by
  cases exit with
  | next => rfl
  | ended => rfl
  | failed fault => simp [settle, Course.goesOn, Course.written, Reply.write]
  | broken message => simp [settle, Course.goesOn, Course.written, Reply.write]

/-- The dispatch of a request follows its course. -/
theorem dispatch_follows_course (d : Dispatcher) (b : Service σ) (q : Request) (s : σ) :
    let o := d.dispatch b q (.answering q) s
    let course := d.course b q s
    o.reply = (course.written q.method).foldl Reply.write (.answering q) ∧
      o.goesOn = course.goesOn ∧ o.lookups = course.lookups ∧ o.forwards = 0 := by
  intro o course
  -- The three courses, as they are decided: by the list of refused methods, by the look-up, and by
  -- how the handler ended.
  by_cases hforbidden : q.method ∈ forbiddenMethods
  · have hcourse : course = .forbidden := course_of_forbidden hforbidden b s
    have hdispatch : o = _ := d.dispatch_of_forbidden hforbidden b (.answering q) s
    rw [hcourse, hdispatch]
    exact ⟨rfl, rfl, rfl, rfl⟩
  · cases hfind : d.methods.find? q.method with
    | none =>
      have hcourse : course = .unknown := course_of_unknown hforbidden hfind b s
      have hdispatch : o = _ := dispatch_of_unknown hforbidden hfind b (.answering q) s
      rw [hcourse, hdispatch]
      exact ⟨rfl, rfl, rfl, rfl⟩
    | some h =>
      have hcourse : course = .handled _ _ := course_of_handler hforbidden hfind b s
      have hdispatch : o = _ := dispatch_eq_of_handler hforbidden hfind b (.answering q) s
      have hsettle := settle_foldl_write q
        ((h.program q (d.grant h)).writes b (d.authority q.method) s)
        ((h.program q (d.grant h)).run b (d.authority q.method) (.answering q) s).1
      rw [← Program.run_reply] at hsettle
      rw [hcourse, hdispatch]
      exact ⟨congrArg Prod.snd hsettle, congrArg Prod.fst hsettle, rfl, rfl⟩

end Dispatcher

namespace Endpoint

/-- What is written to a response that nobody wrote to. -/
def unanswered (q : Request) : Write :=
  .error ⟨-32603, "Response has no error or result for request: " ++ q.method, none⟩

theorem complete_ofLast (q : Request) (last : Option Write) :
    complete q (.ofLast q last) = .ofLast q (some (last.getD (unanswered q))) := by
  cases last with
  | none => rfl
  | some w =>
    cases w with
    | result value => rfl
    | error object => rfl

/-- The response to a request holds the last of all that is written to it, or the error of a request
that nobody answered; the counts are those of its course. -/
theorem answer_follows_course (e : Endpoint) (b : Service σ) (q : Request) (s : σ) :
    let o := e.answer b q s
    let course := e.dispatcher.course b q s
    o.reply = .ofLast q
        (some ((course.writes q.method (e.fallback q)).getLast?.getD (unanswered q))) ∧
      o.lookups = course.lookups ∧ o.forwards = if course.goesOn then 1 else 0 := by
  intro o course
  obtain ⟨hreply, hgoesOn, hlookups, hforwards⟩ := e.dispatcher.dispatch_follows_course b q s
  -- What the fallback writes comes behind what the dispatch wrote, and one more write completes the
  -- reply if none was made.
  cases hcourse : course.goesOn with
  | true =>
    have ho : o = _ := answer_of_goesOn rfl (hgoesOn.trans hcourse)
    have hwrites : course.writes q.method (e.fallback q) =
        course.written q.method ++ e.fallback q := by
      rw [Course.writes, hcourse, if_pos rfl]
    rw [ho, hwrites, ← complete_ofLast, ← foldl_write, List.foldl_append, hreply]
    exact ⟨rfl, hlookups, congrArg (· + 1) hforwards⟩
  | false =>
    have ho : o = _ := answer_of_stops rfl (hgoesOn.trans hcourse)
    have hwrites : course.writes q.method (e.fallback q) = course.written q.method := by
      rw [Course.writes, hcourse, if_neg Bool.false_ne_true, List.append_nil]
    rw [ho, hwrites, ← complete_ofLast, ← foldl_write, hreply]
    exact ⟨rfl, hlookups, hforwards⟩

/-- A fallback that does not run has no part in the answer. -/
theorem answer_eq_of_not_forwarded {e : Endpoint} {b : Service σ} {q : Request} {s : σ}
    (hforwards : (e.answer b q s).forwards = 0) (fallback : Fallback) :
    (⟨e.dispatcher, fallback⟩ : Endpoint).answer b q s = e.answer b q s := by
  cases hgoesOn : (e.dispatcher.dispatch b q (.answering q) s).goesOn with
  | true =>
    rw [answer_of_goesOn rfl hgoesOn] at hforwards
    exact absurd hforwards (Nat.succ_ne_zero _)
  | false =>
    rw [answer_of_stops rfl hgoesOn]
    exact answer_of_stops rfl hgoesOn

/-- A method table that is not looked up has no part in the answer, nor has the fallback. -/
theorem answer_eq_of_not_lookedUp {e : Endpoint} {b : Service σ} {q : Request} {s : σ}
    (hlookups : (e.answer b q s).lookups = 0) (methods : Methods) (fallback : Fallback) :
    (⟨⟨methods, e.dispatcher.available⟩, fallback⟩ : Endpoint).answer b q s = e.answer b q s := by
  have hforbidden : q.method ∈ forbiddenMethods := by
    by_contra hallowed
    have hcounts := (e.answer_follows_course b q s).2.1
    rw [Dispatcher.lookups_course, if_neg hallowed, hlookups] at hcounts
    exact absurd hcounts Nat.zero_ne_one
  have hrefused (d : Dispatcher) := d.dispatch_of_forbidden hforbidden b (.answering q) s
  rw [answer_of_stops (hrefused _) rfl, answer_of_stops (hrefused _) rfl]

theorem ofLast_some_complete (q : Request) (w : Write) :
    let r := Response.ofLast q (some w)
    r.jsonrpc = version ∧ r.id = q.id ∧ r.result.isSome = !r.error.isSome := by
  cases w with
  | result value => exact ⟨rfl, rfl, rfl⟩
  | error object => exact ⟨rfl, rfl, rfl⟩

/-- Every request is answered by a response of its own id that has a result or an error and not
both. The method table is looked up once, or not at all for a method that is refused to everyone.
The fallback runs at most once: if the method is not refused, and it has no handler or its handler
left the request to the fallback. What is not looked up or does not run has no part in the answer. A
handler that fails or breaks down is answered by its fault alone, whatever it wrote before.
Otherwise the last thing that the handler and, if it runs, the fallback wrote stands; if they wrote
nothing, the response says so by an error. -/
theorem answer_completes (e : Endpoint) (b : Service σ) (q : Request) (s : σ) :
    let o := e.answer b q s
    let d := e.dispatcher
    let written (h : Handler) := (h.program q (d.grant h)).writes b (d.authority q.method) s
    let exit (h : Handler) :=
      ((h.program q (d.grant h)).run b (d.authority q.method) (.answering q) s).1
    (o.response.jsonrpc = version ∧ o.response.id = q.id ∧
      o.response.result.isSome = !o.response.error.isSome) ∧
    o.lookups = (if q.method ∈ forbiddenMethods then 0 else 1) ∧
    (o.forwards ≤ 1 ∧ (o.forwards = 1 ↔ q.method ∉ forbiddenMethods ∧
      ∀ h, d.methods.find? q.method = some h → exit h = .next)) ∧
    (o.lookups = 0 → ∀ methods fallback,
      (⟨⟨methods, d.available⟩, fallback⟩ : Endpoint).answer b q s = o) ∧
    (o.forwards = 0 → ∀ fallback, (⟨d, fallback⟩ : Endpoint).answer b q s = o) ∧
    (q.method ∈ forbiddenMethods →
      o.response = ⟨version, q.id, none, some (Fault.unsupported q.method).object⟩) ∧
    (q.method ∉ forbiddenMethods → d.methods.find? q.method = none →
      o.response = .ofLast q (some ((e.fallback q).getLast?.getD (unanswered q)))) ∧
    (∀ h, q.method ∉ forbiddenMethods → d.methods.find? q.method = some h →
      match exit h with
      | .failed fault => o.response = ⟨version, q.id, none, some fault.object⟩
      | .broken message =>
        o.response = ⟨version, q.id, none, some (Fault.handlerFailed q.method
          (message.getD Dispatcher.brokenText)).object⟩
      | .ended => o.response = .ofLast q (some ((written h).getLast?.getD (unanswered q)))
      | .next =>
        o.response =
          .ofLast q (some ((written h ++ e.fallback q).getLast?.getD (unanswered q)))) := by
  intro o d written exit
  obtain ⟨hreply, hlookups, hforwards⟩ := e.answer_follows_course b q s
  -- All is read off the course: the counts directly, the response from the last of the writes.
  have hresponse : o.response = .ofLast q _ := congrArg Reply.toResponse hreply
  refine ⟨?_, ?_, ⟨?_, ?_⟩, fun hnone => answer_eq_of_not_lookedUp hnone,
    fun hnone => answer_eq_of_not_forwarded hnone, fun hforbidden => ?_, fun hallowed hfind => ?_,
    fun h hallowed hfind => ?_⟩
  · rw [hresponse]
    exact ofLast_some_complete q _
  · rw [hlookups]
    exact d.lookups_course b q s
  · rw [hforwards]
    split
    · exact Nat.le_refl 1
    · exact Nat.zero_le 1
  · rw [hforwards, ← d.goesOn_course_iff b q s]
    simp [d]
  · rw [hresponse, Dispatcher.course_of_forbidden hforbidden]
    rfl
  · rw [hresponse, Dispatcher.course_of_unknown hallowed hfind]
    rfl
  · have hcourse : d.course b q s = .handled (written h) (exit h) :=
      Dispatcher.course_of_handler hallowed hfind b s
    rw [hresponse, hcourse, Course.writes_handled]
    -- How the handler ended decides what is written after it.
    cases exit h with
    | next => rfl
    | ended => rfl
    | failed fault =>
      simp only [List.getLast?_concat]
      rfl
    | broken message =>
      simp only [List.getLast?_concat]
      rfl

end Endpoint

end WalletGate.Rpc
