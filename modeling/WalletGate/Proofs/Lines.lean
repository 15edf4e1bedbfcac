import WalletGate.Host.Line
/-!
# Lines and the frames that they take

A line does no more and no less than take the frames that arrive before it ends, one after the
other, and send what each is answered. Nothing is skipped, sent twice or sent out of order,
whichever way the line ends.

* `Event.frames`: the frames before the first event that ends a line; `receiveAll` and `replies`:
  the state after some frames, and the messages that answer them;
* `Line.Serves`: what a line has sent, and in which state it leaves the host, for any events;
* `Line.serves_foldl`: the steps of a line serve its events;
* `Line.run_serves`: the same for a whole line, with the connection, the greeting and the shutdown.
-/

namespace WalletGate.Host

variable {β σ : Type}

/-! ## Frames and replies -/

namespace Event

/-- Whether a line takes nothing more after the event. -/
def isLast : Event → Bool
  | text _ | other => false
  | close | failed | shutdown => true

/-- The text of a frame; nothing for any other event. -/
def text? : Event → Option String
  | text s => some s
  | _ => none

/-- The frames before the first event that ends the line. -/
def frames (events : List Event) : List String :=
  (events.takeWhile (!·.isLast)).filterMap text?

/-- Whether it is the shutdown of the host that ends the line. -/
def endByShutdown (events : List Event) : Bool := events.find? isLast = some shutdown

@[simp] theorem frames_nil : frames [] = [] := rfl

@[simp] theorem frames_text (s : String) (rest : List Event) :
    frames (text s :: rest) = s :: frames rest := rfl

theorem frames_of_isLast {e : Event} (he : e.isLast = true) (rest : List Event) :
    frames (e :: rest) = [] := by
  simp [frames, he]

@[simp] theorem endByShutdown_nil : endByShutdown [] = false := rfl

@[simp] theorem endByShutdown_text (s : String) (rest : List Event) :
    endByShutdown (text s :: rest) = endByShutdown rest := rfl

theorem endByShutdown_of_isLast {e : Event} (he : e.isLast = true) (rest : List Event) :
    endByShutdown (e :: rest) = decide (e = shutdown) := by
  simp [endByShutdown, he]

end Event

/-- The state after some frames on a connection. -/
def receiveAll (h : Host β σ) (c : Connection) (texts : List String) (s : State β σ) : State β σ :=
  texts.foldl (fun s text => (h.receive c text s).2) s

/-- The messages that answer some frames on a connection, in order. -/
def replies (h : Host β σ) (c : Connection) : List String → State β σ → List Port.Message
  | [], _ => []
  | text :: rest, s => (h.receive c text s).1.toList ++ replies h c rest (h.receive c text s).2

theorem receiveAll_cons {h : Host β σ} {c : Connection} {text : String} {s state : State β σ}
    {reply : Option Port.Message} (hreceive : h.receive c text s = (reply, state))
    (rest : List String) : h.receiveAll c (text :: rest) s = h.receiveAll c rest state := by
  simp [receiveAll, hreceive]

theorem replies_cons {h : Host β σ} {c : Connection} {text : String} {s state : State β σ}
    {reply : Option Port.Message} (hreceive : h.receive c text s = (reply, state))
    (rest : List String) :
    h.replies c (text :: rest) s = reply.toList ++ h.replies c rest state := by
  simp [replies, hreceive]

/-- What an opening and the frames after it are answered, in order. -/
def offered (h : Host β σ) (w : Opening) (texts : List String) (s : State β σ) :
    List Port.Message :=
  w.greeting.toList ++ h.replies w.connection texts s

namespace Line

/-! ## Room -/

/-- A message as it is sent. -/
def sentText (m : Port.Message) : Sent := .text (Wire.written m)

/-- What the other end takes of what it is sent. -/
def taken (room : Option Nat) (sent : List Sent) : List Sent :=
  match room with
  | none => sent
  | some n => sent.take n

/-- The other end takes as many messages as these. -/
def Fits (room : Option Nat) (messages : List Port.Message) : Prop :=
  ∀ n ∈ room, messages.length ≤ n

@[simp] theorem taken_nil (room : Option Nat) : taken room [] = [] := by
  cases room with
  | none => rfl
  | some n => simp [taken]

@[simp] theorem taken_full (sent : List Sent) : taken (some 0) sent = [] := by
  simp [taken]

theorem taken_cons {room : Option Nat} (hroom : room ≠ some 0) (x : Sent) (rest : List Sent) :
    taken room (x :: rest) = x :: taken (room.map (· - 1)) rest := by
  match room with
  | none => rfl
  | some 0 => exact absurd rfl hroom
  | some (n + 1) => simp [taken]

@[simp] theorem fits_nil (room : Option Nat) : Fits room [] := by
  intro n _
  exact Nat.zero_le n

theorem not_fits_full (m : Port.Message) (rest : List Port.Message) :
    ¬Fits (some 0) (m :: rest) := by
  intro hfits
  have hle : (m :: rest).length ≤ 0 := hfits 0 rfl
  simp at hle

theorem fits_cons_iff {room : Option Nat} (hroom : room ≠ some 0) (m : Port.Message)
    (rest : List Port.Message) : Fits room (m :: rest) ↔ Fits (room.map (· - 1)) rest := by
  match room with
  | none => simp [Fits]
  | some 0 => exact absurd rfl hroom
  | some (n + 1) => simp [Fits]

/-! ## Sending -/

theorem send_refused (line : Line β σ) (hroom : line.room = some 0) (m : Port.Message) :
    line.send m = { line with isOpen := false } := by
  simp [send, hroom]

theorem send_taken (line : Line β σ) (hroom : line.room ≠ some 0) (m : Port.Message) :
    line.send m =
      { line with sent := line.sent ++ [sentText m], room := line.room.map (· - 1) } := by
  unfold send
  split
  · rename_i hnone
    simp [hnone, sentText]
  · rename_i hfull
    exact absurd hfull hroom
  · rename_i n hsome
    simp [hsome, sentText]

theorem finish_eq (line : Line β σ) :
    line.finish = { line with sent := line.sent ++ taken line.room [.close], isOpen := false } := by
  unfold finish
  by_cases hroom : line.room = some 0
  · simp [hroom]
  · rw [if_neg hroom, taken_cons hroom, taken_nil]

/-- A line that has ended takes nothing more. -/
theorem foldl_step_closed (h : Host β σ) (c : Connection) {line : Line β σ}
    (hclosed : line.isOpen = false) (events : List Event) :
    events.foldl (step h c) line = line := by
  induction events with
  | nil => rfl
  | cons e rest ih =>
    have hstep : step h c line e = line := by
      simp [step, hclosed]
    rw [List.foldl_cons, hstep, ih]

/-! ## Serving events -/

/-- The state in which events leave a host whose frames have all been taken. -/
def stateAfter (h : Host β σ) (c : Connection) (events : List Event) (s : State β σ) : State β σ :=
  let s := h.receiveAll c (Event.frames events) s
  if Event.endByShutdown events then { s with stopping := true } else s

/-- What the end of a line sends: a close if the host shuts down. -/
def closing (events : List Event) : List Sent :=
  if Event.endByShutdown events then [.close] else []

/-- These are the frames up to the first whose answer is not taken. -/
structure FirstRefused (room : Option Nat) (answers : List String → List Port.Message)
    (texts done : List String) : Prop where
  part : done <+: texts
  refused : ¬Fits room (answers done)
  least : ∀ few, few <+: done → few ≠ done → Fits room (answers few)

/-- A first frame whose answer is taken only leaves less room for the answers to the others. -/
theorem FirstRefused.cons {room room' : Option Nat}
    {answers answers' : List String → List Port.Message} {text : String}
    (hnil : Fits room (answers []))
    (hcons : ∀ texts, Fits room (answers (text :: texts)) ↔ Fits room' (answers' texts))
    {texts done : List String} (hrest : FirstRefused room' answers' texts done) :
    FirstRefused room answers (text :: texts) (text :: done) := by
  refine ⟨List.cons_prefix_cons.2 ⟨rfl, hrest.part⟩, fun hfits => ?_, fun few hfew hne => ?_⟩
  · exact hrest.refused ((hcons done).1 hfits)
  · cases few with
    | nil => exact hnil
    | cons first few =>
      obtain ⟨hfirst, hpart⟩ := List.cons_prefix_cons.1 hfew
      subst hfirst
      have hshort : few ≠ done := fun heq => hne (by rw [heq])
      exact (hcons few).2 (hrest.least few hpart hshort)

/-- A line has served some events: it has sent what the frames before the end are answered, as far
as that was taken, and it has received these frames, up to the first whose answer was not taken. -/
structure Serves (h : Host β σ) (c : Connection) (events : List Event) (line after : Line β σ) :
    Prop where
  sent : after.sent = line.sent ++
    taken line.room ((h.replies c (Event.frames events) line.state).map sentText ++ closing events)
  state : Fits line.room (h.replies c (Event.frames events) line.state) →
    after.state = stateAfter h c events line.state
  refused : ¬Fits line.room (h.replies c (Event.frames events) line.state) →
    ∃ done, FirstRefused line.room (h.replies c · line.state) (Event.frames events) done ∧
      after.state = h.receiveAll c done line.state

section Serves

variable (h : Host β σ) (c : Connection)

theorem serves_nil (line : Line β σ) : Serves h c [] line line where
  sent := by simp [replies, closing]
  state _ := rfl
  refused hnot := absurd (fits_nil _) hnot

/-- An event that ends the line ends it for all that would come. -/
theorem serves_last {e : Event} (he : e.isLast = true) {line : Line β σ}
    (hopen : line.isOpen = true) (rest : List Event) :
    Serves h c (e :: rest) line (step h c line e) := by
  -- Behind the last event no frame counts, so nothing is received and every reply fits.
  have hframes : Event.frames (e :: rest) = [] := Event.frames_of_isLast he rest
  have hshutdown := Event.endByShutdown_of_isLast he rest
  refine ⟨?_, fun _ => ?_, fun hnot => ?_⟩
  -- The three clauses in turn; an event that is not the last contradicts the assumption.
  · cases e with
    | text s => exact absurd he (by simp [Event.isLast])
    | other => exact absurd he (by simp [Event.isLast])
    | close => simp [step, hopen, hframes, replies, closing, hshutdown]
    | failed => simp [step, hopen, hframes, replies, closing, hshutdown]
    | shutdown => simp [step, hopen, hframes, replies, closing, hshutdown, finish_eq]
  · cases e with
    | text s => exact absurd he (by simp [Event.isLast])
    | other => exact absurd he (by simp [Event.isLast])
    | close => simp [step, hopen, stateAfter, hframes, receiveAll, hshutdown]
    | failed => simp [step, hopen, stateAfter, hframes, receiveAll, hshutdown]
    | shutdown => simp [step, hopen, stateAfter, hframes, receiveAll, hshutdown, finish_eq]
  · rw [hframes] at hnot
    exact absurd (fits_nil _) hnot

variable {h c} {text : String} {rest : List Event} {line after : Line β σ} {state : State β σ}

/-- A frame that is not answered moves the host and sends nothing. -/
theorem serves_silent (hreceive : h.receive c text line.state = (none, state))
    (hrest : Serves h c rest { line with state } after) :
    Serves h c (.text text :: rest) line after := by
  -- A frame without a reply adds nothing to what is to be sent, so all three clauses pass to the
  -- rest.
  have hreplies (texts : List String) :
      h.replies c (text :: texts) line.state = h.replies c texts state :=
    replies_cons hreceive texts
  refine ⟨?_, fun hfits => ?_, fun hnot => ?_⟩
  · rw [hrest.sent, Event.frames_text, hreplies]
    rfl
  · rw [Event.frames_text, hreplies] at hfits
    rw [hrest.state hfits]
    simp only [stateAfter, Event.frames_text, receiveAll_cons hreceive, Event.endByShutdown_text]
  · rw [Event.frames_text, hreplies] at hnot
    obtain ⟨done, hdone, hstate⟩ := hrest.refused hnot
    refine ⟨text :: done, hdone.cons (fits_nil _) fun texts => ?_, ?_⟩
    · rw [hreplies]
    · rw [receiveAll_cons hreceive, hstate]

/-- A frame whose answer is taken moves the host and sends the answer. -/
theorem serves_taken {m : Port.Message} (hreceive : h.receive c text line.state = (some m, state))
    (hroom : line.room ≠ some 0) (hrest : Serves h c rest ({ line with state }.send m) after) :
    Serves h c (.text text :: rest) line after := by
  rw [send_taken { line with state } hroom m] at hrest
  have hreplies (texts : List String) :
      h.replies c (text :: texts) line.state = m :: h.replies c texts state :=
    replies_cons hreceive texts
  refine ⟨?_, fun hfits => ?_, fun hnot => ?_⟩
  · rw [hrest.sent, Event.frames_text, hreplies, List.map_cons, List.cons_append,
      taken_cons hroom, List.append_assoc]
    rfl
  · rw [Event.frames_text, hreplies, fits_cons_iff hroom] at hfits
    rw [hrest.state hfits]
    simp only [stateAfter, Event.frames_text, receiveAll_cons hreceive, Event.endByShutdown_text]
  · rw [Event.frames_text, hreplies, fits_cons_iff hroom] at hnot
    -- Where the rest is refused, this frame stands in front of the part that was handled.
    obtain ⟨done, hdone, hstate⟩ := hrest.refused hnot
    refine ⟨text :: done, hdone.cons (fits_nil _) fun texts => ?_, ?_⟩
    · rw [hreplies, fits_cons_iff hroom]
    · rw [receiveAll_cons hreceive, hstate]

/-- A frame whose answer is not taken moves the host and ends the line. -/
theorem serves_refused {m : Port.Message} (hreceive : h.receive c text line.state = (some m, state))
    (hroom : line.room = some 0) :
    Serves h c (.text text :: rest) line ({ line with state }.send m) := by
  rw [send_refused { line with state } hroom m]
  -- There is no room at all, so the first reply is refused and the handled part is this one frame.
  have hreplies (texts : List String) :
      h.replies c (text :: texts) line.state = m :: h.replies c texts state :=
    replies_cons hreceive texts
  refine ⟨?_, fun hfits => ?_, fun _ => ⟨[text], ⟨?_, ?_, fun few hfew hne => ?_⟩, ?_⟩⟩
  · rw [hroom, taken_full, List.append_nil]
  · rw [Event.frames_text, hreplies, hroom] at hfits
    exact absurd hfits (not_fits_full m _)
  · rw [Event.frames_text]
    exact List.cons_prefix_cons.2 ⟨rfl, List.nil_prefix⟩
  · rw [hreplies, hroom]
    exact not_fits_full m _
  · -- The only shorter part is the empty one.
    have hnil : few = [] := by
      cases few with
      | nil => rfl
      | cons first few =>
        obtain ⟨hfirst, hpart⟩ := List.cons_prefix_cons.1 hfew
        exact absurd (by rw [hfirst, List.prefix_nil.1 hpart]) hne
    rw [hnil]
    exact fits_nil _
  · rw [receiveAll_cons hreceive]
    rfl

end Serves

theorem step_text (h : Host β σ) (c : Connection) {line : Line β σ} (hopen : line.isOpen = true)
    (text : String) :
    step h c line (.text text) =
      match h.receive c text line.state with
      | (some m, state) => { line with state }.send m
      | (none, state) => { line with state } := by
  simp only [step, hopen, Bool.not_true, Bool.false_eq_true, if_false]
  cases h.receive c text line.state with
  | mk reply state =>
    cases reply with
    | none => rfl
    | some m => rfl

theorem step_last_closed (h : Host β σ) (c : Connection) {e : Event} (he : e.isLast = true)
    {line : Line β σ} (hopen : line.isOpen = true) : (step h c line e).isOpen = false := by
  cases e with
  | text s => exact absurd he (by simp [Event.isLast])
  | other => exact absurd he (by simp [Event.isLast])
  | close => simp [step, hopen]
  | failed => simp [step, hopen]
  | shutdown => simp [step, hopen, finish_eq]

/-- The steps of an open line serve the events, whatever they are. -/
theorem serves_foldl (h : Host β σ) (c : Connection) (line : Line β σ) (hopen : line.isOpen = true)
    (events : List Event) : Serves h c events line (events.foldl (step h c) line) := by
  -- Induction on the events, for any line that is still open.
  induction events generalizing line with
  | nil => exact serves_nil h c line
  | cons e rest ih =>
    rw [List.foldl_cons]
    by_cases hlast : e.isLast = true
    -- What comes behind the last event finds the line closed.
    · rw [foldl_step_closed h c (step_last_closed h c hlast hopen)]
      exact serves_last h c hlast hopen rest
    · cases e with
      | text text =>
        rw [step_text h c hopen]
        cases hreceive : h.receive c text line.state with
        | mk reply state =>
          cases reply with
          | none => exact serves_silent hreceive (ih _ hopen)
          | some m =>
            by_cases hroom : line.room = some 0
            · have hclosed : ({ line with state }.send m).isOpen = false := by
                rw [send_refused { line with state } hroom]
              simp only [foldl_step_closed h c hclosed]
              exact serves_refused hreceive hroom
            · have hstill : ({ line with state }.send m).isOpen = true := by
                rw [send_taken { line with state } hroom]
                exact hopen
              exact serves_taken hreceive hroom (ih _ hstill)
      | other =>
        -- A frame that is no text does nothing, and counts neither among the frames nor among the
        -- replies.
        have hstep : step h c line .other = line := by simp [step, hopen]
        rw [hstep]
        obtain ⟨hsent, hstate, hrefused⟩ := ih line hopen
        exact ⟨hsent, hstate, hrefused⟩
      | close => exact absurd rfl hlast
      | failed => exact absurd rfl hlast
      | shutdown => exact absurd rfl hlast

/-! ## Whole lines -/

/-- A line that has sent nothing. -/
def fresh (room : Option Nat) (s : State β σ) : Line β σ := ⟨s, [], room, true⟩

/-- The line of an open connection when it has been greeted. -/
def greeted (w : Opening) (room : Option Nat) (s : State β σ) : Line β σ :=
  match w.greeting with
  | some m => (fresh room s).send m
  | none => fresh room s

theorem fresh_send_refused (s : State β σ) (m : Port.Message) :
    (fresh (some 0) s).send m = ⟨s, [], some 0, false⟩ :=
  send_refused (fresh (some 0) s) rfl m

theorem fresh_send_taken {room : Option Nat} (hroom : room ≠ some 0) (s : State β σ)
    (m : Port.Message) :
    (fresh room s).send m = ⟨s, [sentText m], room.map (· - 1), true⟩ :=
  send_taken (fresh room s) hroom m

theorem greeted_state (w : Opening) (room : Option Nat) (s : State β σ) :
    (greeted w room s).state = s := by
  unfold greeted
  split
  · by_cases hroom : room = some 0
    · rw [hroom, fresh_send_refused]
    · rw [fresh_send_taken hroom]
  · rfl

theorem start_of_closed {w : Opening} (hclosed : w.connection.isOpen = false) (room : Option Nat)
    (s : State β σ) : start w room s = (fresh room s).finish := by
  unfold start
  simp only [hclosed, Bool.not_false, if_true]
  rfl

theorem start_of_open {w : Opening} (hopen : w.connection.isOpen = true) (room : Option Nat)
    (s : State β σ) :
    start w room s =
      if (greeted w room s).isOpen && s.stopping then (greeted w room s).finish
      else greeted w room s := by
  unfold start
  simp only [hopen, Bool.not_true, Bool.false_eq_true, if_false]
  rfl

/-- The line of a connection that is not open is closed, whatever arrives on it. -/
theorem run_of_closed (h : Host β σ) {w : Opening} (hclosed : w.connection.isOpen = false)
    (room : Option Nat) (events : List Event) (s : State β σ) :
    run h w room events s = (fresh room s).finish := by
  have hended : (start w room s).isOpen = false := by
    rw [start_of_closed hclosed, finish_eq]
  rw [run, foldl_step_closed h w.connection hended, start_of_closed hclosed]

/-- Stopping a host that is stopping changes nothing, and a line that has ended is not closed. -/
theorem step_shutdown_of_stopping (h : Host β σ) (c : Connection) {line : Line β σ}
    (hstopping : line.state.stopping = true) :
    step h c line .shutdown = if line.isOpen then line.finish else line := by
  obtain ⟨⟨wallet, bindings, session, stopping⟩, sent, room, isOpen⟩ := line
  obtain rfl : stopping = true := hstopping
  cases isOpen with
  | false => rfl
  | true => rfl

/-- A host that is shutting down when a connection opens ends the line as a shutdown at once does.
-/
theorem run_of_open (h : Host β σ) {w : Opening} (hopen : w.connection.isOpen = true)
    (room : Option Nat) (events : List Event) (s : State β σ) :
    run h w room events s =
      (if s.stopping then .shutdown :: events else events).foldl (step h w.connection)
        (greeted w room s) := by
  rw [run, start_of_open hopen]
  cases hstopping : s.stopping with
  | false => simp
  | true =>
    have hstate : (greeted w room s).state.stopping = true := by
      rw [greeted_state, hstopping]
    rw [if_pos rfl, List.foldl_cons, step_shutdown_of_stopping h w.connection hstate, Bool.and_true]

/-- What a greeted line makes of events, in terms of all messages that the connection is offered. -/
theorem serves_greeted (h : Host β σ) (w : Opening) (room : Option Nat) (s : State β σ)
    (events : List Event) :
    let line := events.foldl (step h w.connection) (greeted w room s)
    let frames := Event.frames events
    line.sent = taken room ((h.offered w frames s).map sentText ++ closing events) ∧
      (Fits room (h.offered w frames s) → line.state = stateAfter h w.connection events s) ∧
      (¬Fits room (h.offered w frames s) →
        ∃ done, FirstRefused room (h.offered w · s) frames done ∧
          line.state = h.receiveAll w.connection done s) := by
  unfold greeted offered
  cases w.greeting with
  | none =>
    -- Nothing but the replies is to be sent.
    have hserves := serves_foldl h w.connection (fresh room s) rfl events
    exact ⟨hserves.sent, hserves.state, hserves.refused⟩
  | some m =>
    by_cases hroom : room = some 0
    · -- The greeting is not taken, and the line ends before any frame.
      subst hroom
      simp only [Option.toList_some, List.singleton_append, fresh_send_refused]
      rw [foldl_step_closed h w.connection rfl events]
      refine ⟨(taken_full _).symm, fun hfits => absurd hfits (not_fits_full m _), fun _ => ?_⟩
      refine ⟨[], ⟨List.nil_prefix, not_fits_full m _, fun few hfew hne => ?_⟩, rfl⟩
      exact absurd (List.prefix_nil.1 hfew) hne
    · -- The greeting is sent, and leaves less room for the replies.
      have hserves := serves_foldl h w.connection ⟨s, [sentText m], room.map (· - 1), true⟩ rfl
        events
      simp only [Option.toList_some, List.singleton_append, fresh_send_taken hroom,
        fits_cons_iff hroom]
      refine ⟨?_, hserves.state, fun hnot => ?_⟩
      · rw [List.map_cons, List.cons_append, taken_cons hroom, hserves.sent]
        rfl
      · obtain ⟨done, hdone, hafter⟩ := hserves.refused hnot
        refine ⟨done, ⟨hdone.part, ?_, fun few hfew hne => ?_⟩, hafter⟩
        · rw [fits_cons_iff hroom]
          exact hdone.refused
        · rw [fits_cons_iff hroom]
          exact hdone.least few hfew hne

/-- A connection that is not open gets a close and nothing else, and the host stays as it is. The
line of an open one sends its greeting and then what the frames before its end are answered, in
order, and receives exactly these frames; if the host shuts down, which it may do before the first
event, a close comes last. If the other end stops taking messages, it has what was sent before, and
the frames up to the first whose answer was not taken are the last that the host receives. -/
theorem run_serves (h : Host β σ) (w : Opening) (room : Option Nat) (s : State β σ) :
    let line (events : List Event) := events.foldl (step h w.connection) (greeted w room s)
    (w.connection.isOpen = false → ∀ events,
      (run h w room events s).sent = taken room [.close] ∧ (run h w room events s).state = s) ∧
    (w.connection.isOpen = true → ∀ events,
      run h w room events s = line (if s.stopping then .shutdown :: events else events) ∧
      (line events).sent =
        taken room ((h.offered w (Event.frames events) s).map sentText ++ closing events) ∧
      (Fits room (h.offered w (Event.frames events) s) →
        (line events).state = stateAfter h w.connection events s) ∧
      (¬Fits room (h.offered w (Event.frames events) s) →
        ∃ done, FirstRefused room (h.offered w · s) (Event.frames events) done ∧
          (line events).state = h.receiveAll w.connection done s)) := by
  intro line
  refine ⟨fun hclosed events => ?_, fun hopen events => ⟨?_, ?_⟩⟩
  · rw [run_of_closed h hclosed, finish_eq]
    exact ⟨rfl, rfl⟩
  · exact run_of_open h hopen room events s
  · exact serves_greeted h w room s events

end Line

end WalletGate.Host
