import WalletGate.Json.Record
/-!
# Port messages

The text frames of a port are messages with a substream name and a payload. Both may be absent; an
absent payload is null, and a null payload is not written.
-/

namespace WalletGate.Port

structure Message where
  /-- The substream. -/
  name : Option String
  data : Json

namespace Message

/-- The method of the payload, if it looks like a request. -/
def method? (m : Message) : Option String := (m.data.field? "method").bind Json.text?

def fields (m : Message) : List (String × Json) :=
  Json.fieldOf "name" .text m.name ++ if m.data.isNull then [] else [("data", m.data)]

structure Draft where
  name : Option (Option String) := none
  data : Option Json := none

def layout : Decoder.Layout Draft Message where
  name := "PortMessage"
  columns := [
    Decoder.column "name" (.optional .text) Draft.name fun v d => { d with name := some v },
    Decoder.column "data" .json Draft.data fun v d => { d with data := v }]
  start := {}
  finish d := .ok ⟨d.name.join, d.data.getD .null⟩

instance : Wire Message where
  toJson m := .ofFields m.fields
  written m := (Json.object m.fields).written
  decoder := .record layout

end Message

end WalletGate.Port
