import WalletGate.Http.Form
import WalletGate.Port.Basic
import WalletGate.Text.Numeral
/-!
# Handshakes

A port is opened over the network by a handshake: the query says the name of the port and may name a
tab and a URL, and a header states the origin. The caller can choose the query; only the origin
comes from the browser. A tab and a URL count only together.
-/

namespace WalletGate.Host

/-- What the query of a handshake says. -/
structure Handshake where
  name : String
  tab : Option Int64
  url : Option String
deriving DecidableEq, Repr

namespace Handshake

/-- The number of a tab. -/
def tab? (s : String) : Option Int64 := (Text.signed? s.toList).bind Text.int64?

/-- Reads the query of a handshake. The name must be there, and no field twice. -/
def ofQuery? (query : List Char) : Option Handshake := do
  let fields := Http.formFields query
  let name ← Http.requiredField? "name" fields
  let tab ← Http.optionalField? "tab_id" fields
  let url ← Http.optionalField? "url" fields
  match tab with
  | none => some ⟨name, none, url⟩
  | some s => some ⟨name, some (← tab? s), url⟩

/-- The port that a handshake opens, given the stated origin. -/
def port (x : Handshake) (origin : Option String) : Port where
  name := x.name
  sender :=
    match x.tab, x.url with
    | some tab, some url => some ⟨origin, some tab, some url⟩
    | _, _ => origin.map fun origin => ⟨some origin, none, none⟩

end Handshake

/-- The origin that a header states: blanks around it do not count, and the words for no origin, or
characters that do not show, state none. -/
def statedOrigin? (header : String) : Option String :=
  let isSpace (c : Char) := c == ' ' || c == '\t'
  let cs := Text.strip isSpace header.toList
  if cs.all (fun c => c == '\t' || (32 ≤ c.toNat && c.toNat < 127)) && cs ≠ []
    && cs ≠ "null".toList then some (String.ofList cs)
  else none

end WalletGate.Host
