import WalletGate.Host.Frame
/-!
# Lines

The line of an open connection takes events one at a time and in order: frames, messages of other
kinds, the end of the line, and the shutdown of the host. A line that has ended takes nothing more.
The other end may stop taking messages; the first one that it does not take ends the line.
-/

namespace WalletGate.Host

variable {β σ : Type}

/-- What reaches a line. -/
inductive Event where
  /-- A frame. -/
  | text (s : String)
  /-- A message of a kind that is passed over. -/
  | other
  /-- The other end closes. -/
  | close
  /-- Nothing more can be read. -/
  | failed
  /-- The host is asked to shut down. -/
  | shutdown
deriving DecidableEq, Repr

/-- What a line sends. -/
inductive Sent where
  | text (s : String)
  | close
deriving DecidableEq, Repr

/-- A line at work. -/
structure Line (β σ : Type) where
  state : State β σ
  /-- What has been sent and taken, in order. -/
  sent : List Sent
  /-- How many more messages the other end takes, if there is a limit. -/
  room : Option Nat
  /-- Whether the line still takes events. -/
  isOpen : Bool

namespace Line

/-- Sends a message; a message that is not taken ends the line. -/
def send (line : Line β σ) (m : Port.Message) : Line β σ :=
  match line.room with
  | none => { line with sent := line.sent ++ [.text (Wire.written m)] }
  | some 0 => { line with isOpen := false }
  | some (n + 1) => { line with sent := line.sent ++ [.text (Wire.written m)], room := some n }

/-- Sends the close of the connection, if it is taken, and ends the line. -/
def finish (line : Line β σ) : Line β σ :=
  let sent := if line.room = some 0 then line.sent else line.sent ++ [.close]
  { line with sent, isOpen := false }

/-- Takes the next event. -/
def step (h : Host β σ) (c : Connection) (line : Line β σ) (e : Event) : Line β σ :=
  if !line.isOpen then line
  else match e with
    | .text s =>
      -- what the frame did stays done, whether or not its reply is taken
      let (reply, state) := h.receive c s line.state
      match reply with
      | some m => { line with state }.send m
      | none => { line with state }
    | .other => line
    | .close | .failed => { line with isOpen := false }
    | .shutdown => { line with state := { line.state with stopping := true } }.finish

/-- The line of a connection before its first event. A connection that is not open is closed at
once, and so is one that opens while the host is shutting down. -/
def start (w : Opening) (room : Option Nat) (state : State β σ) : Line β σ :=
  let line : Line β σ := ⟨state, [], room, true⟩
  if !w.connection.isOpen then line.finish
  else
    let line := match w.greeting with
      | some m => line.send m
      | none => line
    -- a greeting that was not taken has ended the line, and then no close is sent
    if line.isOpen && state.stopping then line.finish else line

/-- The line of a connection after some events. -/
def run (h : Host β σ) (w : Opening) (room : Option Nat) (events : List Event)
    (state : State β σ) : Line β σ :=
  events.foldl (step h w.connection) (start w room state)

end Line

end WalletGate.Host
