import WalletGate.Json.Record
/-!
# Hosting documents

What a content script can note of the document that it runs in.
-/

namespace WalletGate.Page

structure Document where
  /-- The name of the document type, absent if the document has none. -/
  doctypeName : Option String
  /-- The tag of the root element, absent if there is none. -/
  rootElement : Option String
  /-- The full address of the page. -/
  url : String
deriving DecidableEq, Repr

namespace Document

/-- A plain HTML document. -/
def html (url : String) : Document := ⟨some "html", some "HTML", url⟩

/-- All three fields are written, absent ones as null. -/
def fields (x : Document) : List (String × Json) :=
  [("doctype_name", .ofOption .text x.doctypeName),
    ("document_element", .ofOption .text x.rootElement), ("url", .text x.url)]

structure Draft where
  doctypeName : Option (Option String) := none
  rootElement : Option (Option String) := none
  url : Option String := none

def layout : Decoder.Layout Draft Document where
  name := "DocumentContext"
  columns := [
    Decoder.column "doctype_name" (.optional .text) Draft.doctypeName
      fun v d => { d with doctypeName := some v },
    Decoder.column "document_element" (.optional .text) Draft.rootElement
      fun v d => { d with rootElement := some v },
    Decoder.column "url" .text Draft.url fun v d => { d with url := v }]
  start := {}
  finish
    | ⟨_, _, none⟩ => .error "url"
    | ⟨doctypeName, rootElement, some url⟩ => .ok ⟨doctypeName.join, rootElement.join, url⟩

instance : Wire Document where
  toJson x := .ofFields x.fields
  written x := (Json.object x.fields).written
  decoder := .record layout

end Document

end WalletGate.Page
