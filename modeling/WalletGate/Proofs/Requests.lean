import WalletGate.Proofs.Records
import WalletGate.Rpc.Message
/-!
# Which values are requests

A request is given as an object or as an array. Of an object four keys count, whatever else it has;
an array has three items or four. The version and the method are texts, the id and the parameters
any values; in an object all but the method may be absent. No form has a place for the origin.

* `Request.of?`: the request that a value is, said without decoding, and `isSome_of?`: which values
  are requests;
* `toOption_fromJson`: decoding comes to that;
* `fromJson_object_congr`: objects that have the same under the four keys are decoded alike, or
  refused alike.
-/

namespace WalletGate

/-! ## Parts of requests -/

namespace Json

/-- A value, unless it is null. -/
def unlessNull : Json → Option Json
  | null => none
  | v => some v

def isText (v : Json) : Bool := v.text?.isSome

theorem eq_text_of_text? {v : Json} {s : String} (h : v.text? = some s) : v = text s := by
  cases v with
  | text s' => exact congrArg text (Option.some.inj h)
  | _ => exact absurd h (by simp [text?])

end Json

namespace Decoder

theorem toOption_text (v : Json) : (text.ofJson v).toOption = v.text? := by
  cases v with
  | text s => rfl
  | _ => rfl

theorem optional_json_ofJson (v : Json) : (optional json).ofJson v = .ok v.unlessNull := by
  cases v with
  | null => rfl
  | _ => rfl

end Decoder

namespace Rpc.Request

open Decoder (Layout)

/-! ## The request that a value is -/

/-- The request of four parts, of which some may be absent. -/
def ofParts (id jsonrpc method params : Option Json) : Option Request := do
  let jsonrpc ← (jsonrpc.getD (.text version)).text?
  let method ← method.bind Json.text?
  some ⟨jsonrpc, id.getD .null, method, params.bind Json.unlessNull, none⟩

/-- The request that a value is, if it is one. -/
def of? : Json → Option Request
  | .object fields =>
    let data := Json.object fields
    ofParts (data.field? "id") (data.field? "jsonrpc") (data.field? "method") (data.field? "params")
  | .array [jsonrpc, id, method] => ofParts (some id) (some jsonrpc) (some method) none
  | .array [jsonrpc, id, method, params] =>
    ofParts (some id) (some jsonrpc) (some method) (some params)
  | _ => none

/-- Whether a value is a request: an object with a method that is a text and with no version or one
that is a text, or an array of three or four items whose first and third are texts. -/
def isRequest : Json → Bool
  | .object fields =>
    ((Json.object fields).field? "method").any Json.isText &&
      ((Json.object fields).field? "jsonrpc").all Json.isText
  | .array [jsonrpc, _, method] | .array [jsonrpc, _, method, _] =>
    jsonrpc.isText && method.isText
  | _ => false

theorem isSome_ofParts (id jsonrpc method params : Option Json) :
    (ofParts id jsonrpc method params).isSome =
      (method.any Json.isText && jsonrpc.all Json.isText) := by
  have hversion : (jsonrpc.getD (.text version)).text?.isSome = jsonrpc.all Json.isText := by
    cases jsonrpc with
    | none => rfl
    | some v => rfl
  have hmethod : (method.bind Json.text?).isSome = method.any Json.isText := by
    cases method with
    | none => rfl
    | some v => rfl
  -- Two of the parts decide, and an absent version stands for one that is a text.
  rw [← hversion, ← hmethod]
  unfold ofParts
  cases (jsonrpc.getD (.text version)).text? with
  | none => simp
  | some s =>
    cases method.bind Json.text? with
    | none => rfl
    | some m => rfl

/-- A request of four parts has the id and the method that are among them, and never an origin. -/
theorem eq_of_ofParts {id jsonrpc method params : Option Json} {q : Request}
    (h : ofParts id jsonrpc method params = some q) :
    q.id = id.getD .null ∧ method = some (.text q.method) ∧ q.origin = none := by
  obtain ⟨_, _, hrest⟩ := Option.bind_eq_some_iff.1 h
  obtain ⟨name, hname, hmade⟩ := Option.bind_eq_some_iff.1 hrest
  obtain ⟨v, hmethod, hv⟩ := Option.bind_eq_some_iff.1 hname
  have hq := Option.some.inj hmade
  rw [hmethod, Json.eq_text_of_text? hv, ← hq]
  exact ⟨rfl, rfl, rfl⟩

theorem isSome_of? (data : Json) : (of? data).isSome = isRequest data := by
  cases data with
  | object fields => exact isSome_ofParts _ _ _ _
  | array items =>
    -- By the number of items: three or four are the parts, and no other number is.
    rcases items with _ | ⟨jsonrpc, _ | ⟨id, _ | ⟨method, _ | ⟨params, _ | ⟨extra, rest⟩⟩⟩⟩⟩
    · rfl
    · rfl
    · rfl
    · exact (isSome_ofParts _ _ _ _).trans (Bool.and_comm _ _)
    · exact (isSome_ofParts _ _ _ _).trans (Bool.and_comm _ _)
    · rfl
  | _ => rfl

/-- The four parts of a request that is given as an array are its items. -/
theorem of?_array {items : List Json} {q : Request} (h : of? (.array items) = some q) :
    ∃ jsonrpc id rest, items = jsonrpc :: id :: rest ∧ rest.length ≤ 2 ∧ q.id = id := by
  rcases items with _ | ⟨jsonrpc, _ | ⟨id, _ | ⟨method, _ | ⟨params, _ | ⟨extra, rest⟩⟩⟩⟩⟩
  · exact absurd h (by simp [of?])
  · exact absurd h (by simp [of?])
  · exact absurd h (by simp [of?])
  · exact ⟨jsonrpc, id, _, rfl, by simp, (eq_of_ofParts h).1⟩
  · exact ⟨jsonrpc, id, _, rfl, by simp, (eq_of_ofParts h).1⟩
  · exact absurd h (by simp [of?])

/-- No array of more than four items is a request. -/
theorem isRequest_of_long {items : List Json} (hlong : 4 < items.length) :
    isRequest (.array items) = false := by
  rcases items with _ | ⟨_, _ | ⟨_, _ | ⟨_, _ | ⟨_, _ | ⟨_, _⟩⟩⟩⟩⟩
  · rfl
  · rfl
  · rfl
  · simp at hlong
  · simp at hlong
  · rfl

theorem origin_of_of? {data : Json} {q : Request} (h : of? data = some q) : q.origin = none := by
  unfold of? at h
  split at h
  · exact (eq_of_ofParts h).2.2
  · exact (eq_of_ofParts h).2.2
  · exact (eq_of_ofParts h).2.2
  · exact absurd h (by simp)

/-! ## Decoding -/

theorem find?_id : layout.columns.find? (·.key = "id") =
    some (Decoder.column "id" .json Draft.id fun v d => { d with id := v }) := rfl

theorem find?_jsonrpc : layout.columns.find? (·.key = "jsonrpc") =
    some (Decoder.column "jsonrpc" .text Draft.jsonrpc fun v d => { d with jsonrpc := v }) := rfl

theorem find?_method : layout.columns.find? (·.key = "method") =
    some (Decoder.column "method" .text Draft.method fun v d => { d with method := v }) := rfl

theorem find?_params : layout.columns.find? (·.key = "params") =
    some (Decoder.column "params" (.optional .json) Draft.params
      fun v d => { d with params := some v }) := rfl

/-- Objects that have the same under the four keys of a request are decoded alike, or refused alike,
whatever else they have. -/
theorem fromJson_object_congr {fields fields' : List (String × Json)}
    (hsame : ∀ key ∈ ["jsonrpc", "id", "method", "params"],
      (Json.object fields).field? key = (Json.object fields').field? key) :
    fromJson Request (.object fields) = fromJson Request (.object fields') := by
  refine Layout.ofJson_object_congr layout fun c hc => ?_
  have hkey : c.key ∈ layout.columns.map (·.key) := List.mem_map_of_mem hc
  exact hsame c.key hkey

theorem toOption_fromJson_parts (id jsonrpc method params : Option Json) :
    (fromJson Request (.object (Json.present
      [("id", id), ("jsonrpc", jsonrpc), ("method", method), ("params", params)]))).toOption =
      ofParts id jsonrpc method params := by
  have hkeys : ["id", "jsonrpc", "method", "params"].Pairwise (· < ·) := by decide
  refine (Layout.toOption_ofJson_parts layout
    [("id", id), ("jsonrpc", jsonrpc), ("method", method), ("params", params)] hkeys).trans ?_
  unfold ofParts
  simp only [Layout.toOption_fillFields_part find?_id,
    Layout.toOption_fillFields_part find?_jsonrpc,
    Layout.toOption_fillFields_part find?_method,
    Layout.toOption_fillFields_part find?_params, Decoder.toOption_column,
    Decoder.toOption_text, Decoder.optional_json_ofJson]
  -- What is left is to compare two computations on which parts there are and which are texts.
  rcases jsonrpc with _ | jsonrpc <;> rcases method with _ | method <;>
    simp only [Option.elim_none, Option.elim_some, Option.getD_some, Option.bind_some]
  · cases id <;> cases params <;> rfl
  · cases method.text? <;> cases id <;> cases params <;> rfl
  · cases jsonrpc.text? <;> cases id <;> cases params <;> rfl
  · cases jsonrpc.text? <;> cases method.text? <;> cases id <;> cases params <;> rfl

/-- Decoding an array comes to the request of its items. -/
theorem toOption_fromJson_array (items : List Json) :
    (fromJson Request (.array items)).toOption = of? (.array items) := by
  refine (Layout.toOption_ofJson_array layout items).trans ?_
  have hcolumns : layout.columns = [
      Decoder.column "jsonrpc" .text Draft.jsonrpc fun v d => { d with jsonrpc := v },
      Decoder.column "id" .json Draft.id fun v d => { d with id := v },
      Decoder.column "method" .text Draft.method fun v d => { d with method := v },
      Decoder.column "params" (.optional .json) Draft.params
        fun v d => { d with params := some v }] := rfl
  rw [hcolumns]
  -- By the number of items; columns beyond the last item and items beyond the last column are both
  -- faults, except that the parameters may be left out.
  rcases items with _ | ⟨jsonrpc, _ | ⟨id, _ | ⟨method, _ | ⟨params, _ | ⟨extra, rest⟩⟩⟩⟩⟩ <;>
    simp only [Layout.toOption_fillItems_cons, Decoder.toOption_column, Decoder.toOption_text,
      Decoder.optional_json_ofJson, of?, ofParts, Option.getD_some, Option.bind_some]
  · rfl
  · cases jsonrpc.text? <;> rfl
  · cases jsonrpc.text? <;> rfl
  · cases jsonrpc.text? <;> cases method.text? <;> rfl
  · cases jsonrpc.text? <;> cases method.text? <;> rfl
  · cases jsonrpc.text? <;> cases method.text? <;> rfl

/-- Decoding a value comes to the request that it is. -/
theorem toOption_fromJson (data : Json) : (fromJson Request data).toOption = of? data := by
  cases data with
  | object fields =>
    -- The object may be replaced by one that has nothing but the four parts.
    have hcolumns : ∀ c ∈ layout.columns, c.key ∈ ["id", "jsonrpc", "method", "params"] := by
      decide
    exact (congrArg Except.toOption (Layout.ofJson_object_eq_parts layout (by decide) hcolumns
      fields)).trans (toOption_fromJson_parts _ _ _ _)
  | array items => exact toOption_fromJson_array items
  | _ => rfl

theorem of?_of_ok {data : Json} {q : Request} (h : fromJson Request data = .ok q) :
    of? data = some q := by
  rw [← toOption_fromJson, h]
  rfl

/-- A value that is a request is decoded to it, and one that is none is refused. -/
theorem fromJson_cases (data : Json) :
    (isRequest data = true ∧ ∃ q, of? data = some q ∧ fromJson Request data = .ok q) ∨
      (isRequest data = false ∧ ∃ e, fromJson Request data = .error e) := by
  rw [← isSome_of?, ← toOption_fromJson]
  cases fromJson Request data with
  | ok q => exact .inl ⟨rfl, q, rfl, rfl⟩
  | error e => exact .inr ⟨rfl, e, rfl⟩

end Rpc.Request

end WalletGate
