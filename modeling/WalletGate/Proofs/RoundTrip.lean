import WalletGate.Page.Document
import WalletGate.Port.Message
import WalletGate.Proofs.Completion
import WalletGate.Proofs.Requests
import WalletGate.Wallet.Account
/-!
# What is read back

A record that is written as a JSON value and read again comes back as it was, except that no form
has a place for the origin of a request and that a null is read as an absent part. After one such
trip nothing is lost any more.

* `Json.ofFields_present`: the parts of a record are written in order of key, in whatever order they
  are declared;
* `Layout.Fills`: a draft is filled from parts, one after the other;
* `Decoder.Inverts`: a decoder reads what was written of every value;
* `Request.readBack`, `ErrorObject.readBack`, `Response.readBack`: what is left of a value;
* `ComesBack`: one trip leaves a normal form of every value, and `ComesBack.again`: a second trip
  changes nothing;
* `Response.isComplete_readBack_iff`, `Reply.isComplete_readBack_iff`: which responses and replies
  are complete after the trip;
* `wire_roundTrip`: the round trip of every record.
-/

namespace WalletGate

/-! ## Entries in any order -/

namespace Entries

variable {α : Type}

/-- A value that is written under a new key joins the entries. -/
theorem put_perm {key : String} {value : α} {entries : List (String × α)}
    (hnew : ∀ e ∈ entries, e.1 ≠ key) : (put key value entries).Perm ((key, value) :: entries) := by
  induction entries with
  | nil => exact List.Perm.refl _
  | cons e rest ih =>
    unfold put
    split
    · exact List.Perm.refl _
    · rw [if_neg (hnew e (by simp))]
      have hrest := ih fun x hx => hnew x (by simp [hx])
      exact (hrest.cons e).trans (List.Perm.swap _ _ _)

/-- Entries with distinct keys are all kept. -/
theorem ofList_perm {entries : List (String × α)}
    (hdistinct : entries.Pairwise fun a b => a.1 ≠ b.1) : (ofList entries).Perm entries := by
  unfold ofList
  -- The fold starts from nothing, but the induction needs it from any entries that share no key
  -- with the rest.
  suffices h : ∀ done : List (String × α), (∀ e ∈ entries, ∀ d ∈ done, d.1 ≠ e.1) →
      (entries.foldl (fun done entry => put entry.1 entry.2 done) done).Perm (entries ++ done) by
    have hall := h [] (by simp)
    rwa [List.append_nil] at hall
  induction entries with
  | nil =>
    intro done _
    exact List.Perm.refl _
  | cons e rest ih =>
    intro done hnew
    obtain ⟨hhead, hrest⟩ := List.pairwise_cons.1 hdistinct
    have hput : (put e.1 e.2 done).Perm (e :: done) := put_perm (hnew e (by simp))
    -- The head's key joins those that the rest must not have, and it does not have it by
    -- assumption.
    have hnew' : ∀ x ∈ rest, ∀ d ∈ put e.1 e.2 done, d.1 ≠ x.1 := by
      intro x hx d hd
      rcases List.mem_cons.1 (hput.mem_iff.1 hd) with rfl | hd
      · exact hhead x hx
      · exact hnew x (by simp [hx]) d hd
    exact (ih hrest _ hnew').trans ((hput.append_left rest).trans List.perm_middle)

/-- Entries come into order of key, in whatever order they are written. -/
theorem ofList_eq_of_perm {entries entries' : List (String × α)} (hperm : entries.Perm entries')
    (hsorted : Sorted entries') : ofList entries = entries' := by
  have hdistinct' : entries'.Pairwise fun a b => a.1 ≠ b.1 := by
    refine hsorted.imp ?_
    intro a b hlt heq
    rw [heq] at hlt
    exact String.lt_irrefl b.1 hlt
  have hdistinct : entries.Pairwise fun a b => a.1 ≠ b.1 :=
    hperm.symm.pairwise hdistinct' fun h => h.symm
  refine List.Perm.eq_of_pairwise ?_ (sorted_ofList entries) hsorted
    ((ofList_perm hdistinct).trans hperm)
  intro a b _ _ hab hba
  exact absurd (String.lt_trans hab hba) (String.lt_irrefl a.1)

end Entries

/-! ## Records by their parts -/

namespace Json

/-- Parts are written in order of key, in whatever order they are declared. -/
theorem ofFields_present {parts parts' : List (String × Option Json)} (hperm : parts.Perm parts')
    (hkeys : (parts'.map (·.1)).Pairwise (· < ·)) :
    ofFields (present parts) = .object (present parts') :=
  congrArg object (Entries.ofList_eq_of_perm (hperm.filterMap _) (sorted_present hkeys))

end Json

namespace Decoder

variable {α β σ : Type}

/-- The decoder reads `back b` from what is written of `b`. -/
def Inverts (d : Decoder α) (value : β → Json) (back : β → α) : Prop :=
  ∀ b, d.ofJson (value b) = .ok (back b)

theorem inverts_int64 : int64.Inverts Json.int fun i => i := by
  intro i
  have hsame : Text.int64? i.toInt = some i := by
    have hrange : Int64.minValue.toInt ≤ i.toInt ∧ i.toInt ≤ Int64.maxValue.toInt :=
      ⟨i.minValue_le_toInt, i.toInt_le⟩
    unfold Text.int64?
    rw [if_pos hrange, Int64.ofInt_toInt]
  simp only [int64, Json.int, Json.whole, hsame]

/-- A part that may be absent is read as its value, if that is never written as null. -/
theorem Inverts.optional {d : Decoder α} {value : β → Json} {back : β → α}
    (h : d.Inverts value back) (hnull : ∀ b, (value b).isNull = false) :
    (Decoder.optional d).Inverts value fun b => some (back b) := by
  intro b
  have hread := h b
  have hsome := hnull b
  unfold Decoder.optional
  simp only
  split
  · rename_i heq
    rw [heq] at hsome
    cases hsome
  · rw [hread]
    rfl

theorem inverts_text : text.Inverts Json.text fun s => s := fun _ => rfl

theorem inverts_json : json.Inverts (fun v => v) fun v => v := fun _ => rfl

theorem inverts_optionalText : (Decoder.optional text).Inverts Json.text some := fun _ => rfl

theorem inverts_optionalJson : (Decoder.optional json).Inverts (fun v => v) Json.unlessNull :=
  optional_json_ofJson

namespace Layout

variable {columns : List (Column σ)} {parts : List (String × Option Json)} {draft draft' : σ}

/-- The parts that are there fill the one draft up to the other. -/
def Fills (columns : List (Column σ)) (parts : List (String × Option Json))
    (draft draft' : σ) : Prop :=
  fillFields columns (Json.present parts) draft = .ok draft'

theorem Fills.nil : Fills columns [] draft draft := rfl

/-- A part that is there is read by its column. -/
theorem Fills.part {key : String} {d : Decoder α} {get : σ → Option α} {set : α → σ → σ}
    (hfind : columns.find? (·.key = key) = some (column key d get set)) {value : β → Json}
    {back : β → α} (hread : d.Inverts value back) (b : β)
    (hrest : Fills columns parts (set (back b) draft) draft') :
    Fills columns ((key, some (value b)) :: parts) draft draft' := by
  have hcolumn : (column key d get set).ofJson (value b) draft = .ok (set (back b) draft) :=
    congrArg (Except.map fun a => set a draft) (hread b)
  have hfields : Json.present ((key, some (value b)) :: parts) =
      (key, value b) :: Json.present parts := rfl
  unfold Fills
  rw [hfields, fillFields, hfind]
  simp only [hcolumn]
  exact hrest

/-- A part that may be absent leaves the draft as it is if it is. -/
theorem Fills.maybe {key : String} {d : Decoder α} {get : σ → Option α} {set : α → σ → σ}
    (hfind : columns.find? (·.key = key) = some (column key d get set)) {value : β → Json}
    {back : β → α} (hread : d.Inverts value back) (x : Option β)
    (hrest : Fills columns parts (x.elim draft fun b => set (back b) draft) draft') :
    Fills columns ((key, x.map value) :: parts) draft draft' := by
  cases x with
  | none => exact hrest
  | some b => exact .part hfind hread b hrest

/-- A part that may be any value or absent. -/
theorem Fills.free {key : String} {d : Decoder α} {get : σ → Option α} {set : α → σ → σ}
    (hfind : columns.find? (·.key = key) = some (column key d get set)) {back : Json → α}
    (hread : d.Inverts (fun v => v) back) (x : Option Json)
    (hrest : Fills columns parts (x.elim draft fun v => set (back v) draft) draft') :
    Fills columns ((key, x) :: parts) draft draft' := by
  cases x with
  | none => exact hrest
  | some v => exact .part hfind hread v hrest

/-- The record of fields that are written as the parts that fill a draft. -/
theorem ofJson_of_fills {l : Layout σ α} {fields : List (String × Json)}
    (hwritten : Json.ofFields fields = .object (Json.present parts))
    (hfills : Fills l.columns parts l.start draft) {a : α} (hfinish : l.finish draft = .ok a) :
    l.ofJson (.ofFields fields) = .ok a := by
  have hparts : Entries.ofList fields = Json.present parts := Json.object.inj hwritten
  have hsorted : Entries.Sorted (Json.present parts) := hparts ▸ Entries.sorted_ofList fields
  unfold Fills at hfills
  rw [hwritten]
  unfold ofJson
  simp only [hsorted.ofList_eq]
  rw [hfills]
  exact congrArg (Except.mapError Mismatch.missing) hfinish

end Layout

end Decoder

open Decoder.Layout (ofJson_of_fills)

/-! ## The records -/

namespace Port.Message

theorem toJson_eq (m : Message) : toJson m =
    .object (Json.present [("data", m.data.unlessNull), ("name", m.name.map .text)]) := by
  have hfields : m.fields =
      Json.present [("name", m.name.map .text), ("data", m.data.unlessNull)] := by
    obtain ⟨name, data⟩ := m
    cases name <;> cases data <;> rfl
  refine (congrArg Json.ofFields hfields).trans (Json.ofFields_present (.swap _ _ _) ?_)
  exact (by decide : ["data", "name"].Pairwise (· < ·))

/-- A message comes back as it was: a null payload is not written, and an absent one is null. -/
theorem fromJson_toJson (m : Message) : fromJson Message (toJson m) = .ok m := by
  refine ofJson_of_fills (l := layout) (toJson_eq _) (.free rfl Decoder.inverts_json _
    (.maybe rfl Decoder.inverts_optionalText _ .nil)) ?_
  obtain ⟨name, data⟩ := m
  cases name <;> cases data <;> rfl

end Port.Message

namespace Wallet

namespace Identity

theorem toJson_eq (x : Identity) : toJson x = .object (Json.present
    [("address", some (.text x.address)), ("lastSelected", x.lastSelected.map .int),
      ("name", some (.text x.name))]) := by
  have hfields : x.fields = Json.present [("address", some (.text x.address)),
      ("name", some (.text x.name)), ("lastSelected", x.lastSelected.map .int)] := by
    obtain ⟨address, name, lastSelected⟩ := x
    cases lastSelected <;> rfl
  refine (congrArg Json.ofFields hfields).trans
    (Json.ofFields_present (.cons _ (.swap _ _ _)) ?_)
  exact (by decide : ["address", "lastSelected", "name"].Pairwise (· < ·))

theorem fromJson_toJson (x : Identity) : fromJson Identity (toJson x) = .ok x := by
  refine ofJson_of_fills (l := layout) (toJson_eq _) (.part rfl Decoder.inverts_text _
    (.maybe rfl (Decoder.inverts_int64.optional fun _ => rfl) _
      (.part rfl Decoder.inverts_text _ .nil))) ?_
  obtain ⟨address, name, lastSelected⟩ := x
  cases lastSelected <;> rfl

end Identity

namespace SubjectMetadata

theorem toJson_eq (x : SubjectMetadata) : toJson x = .object (Json.present
    [("iconUrl", x.iconUrl.map .text), ("name", some (.text x.name)),
      ("origin", some (.text x.origin))]) := by
  have hfields : x.fields = Json.present [("origin", some (.text x.origin)),
      ("name", some (.text x.name)), ("iconUrl", x.iconUrl.map .text)] := by
    obtain ⟨origin, name, iconUrl⟩ := x
    cases iconUrl <;> rfl
  refine (congrArg Json.ofFields hfields).trans
    (Json.ofFields_present (List.reverse_perm _).symm ?_)
  exact (by decide : ["iconUrl", "name", "origin"].Pairwise (· < ·))

theorem fromJson_toJson (x : SubjectMetadata) : fromJson SubjectMetadata (toJson x) = .ok x := by
  refine ofJson_of_fills (l := layout) (toJson_eq _) (.maybe rfl Decoder.inverts_optionalText _
    (.part rfl Decoder.inverts_text _ (.part rfl Decoder.inverts_text _ .nil))) ?_
  obtain ⟨origin, name, iconUrl⟩ := x
  cases iconUrl <;> rfl

end SubjectMetadata

end Wallet

namespace Page.Document

/-- Of a document all parts are written, absent ones as null. -/
theorem toJson_eq (x : Document) : toJson x = .object (Json.present
    [("doctype_name", some (.ofOption .text x.doctypeName)),
      ("document_element", some (.ofOption .text x.rootElement)),
      ("url", some (.text x.url))]) := by
  have hfields : x.fields = Json.present [("doctype_name", some (.ofOption .text x.doctypeName)),
      ("document_element", some (.ofOption .text x.rootElement)),
      ("url", some (.text x.url))] := rfl
  refine (congrArg Json.ofFields hfields).trans (Json.ofFields_present (.refl _) ?_)
  exact (by decide : ["doctype_name", "document_element", "url"].Pairwise (· < ·))

theorem fromJson_toJson (x : Document) : fromJson Document (toJson x) = .ok x := by
  have hread : (Decoder.optional .text).Inverts (Json.ofOption .text) fun s => s := by
    intro s
    cases s <;> rfl
  refine ofJson_of_fills (l := layout) (toJson_eq _) (.part rfl hread _ (.part rfl hread _
    (.part rfl Decoder.inverts_text _ .nil))) ?_
  rfl

end Page.Document

namespace Rpc

namespace Request

/-- What is read back of a request. -/
def readBack (q : Request) : Request :=
  { q with params := q.params.bind Json.unlessNull, origin := none }

theorem toJson_eq (q : Request) : toJson q = .object (Json.present
    [("id", some q.id), ("jsonrpc", some (.text q.jsonrpc)), ("method", some (.text q.method)),
      ("params", q.params)]) := by
  have hfields : q.fields = Json.present [("jsonrpc", some (.text q.jsonrpc)), ("id", some q.id),
      ("method", some (.text q.method)), ("params", q.params)] := by
    obtain ⟨jsonrpc, id, method, params, origin⟩ := q
    cases params <;> rfl
  refine (congrArg Json.ofFields hfields).trans (Json.ofFields_present (.swap _ _ _) ?_)
  exact (by decide : ["id", "jsonrpc", "method", "params"].Pairwise (· < ·))

theorem fromJson_toJson (q : Request) : fromJson Request (toJson q) = .ok q.readBack := by
  refine ofJson_of_fills (l := layout) (toJson_eq _) (.part rfl Decoder.inverts_json _
    (.part rfl Decoder.inverts_text _ (.part rfl Decoder.inverts_text _
      (.free rfl Decoder.inverts_optionalJson _ .nil)))) ?_
  obtain ⟨jsonrpc, id, method, params, origin⟩ := q
  cases params <;> rfl

end Request

namespace ErrorObject

/-- What is read back of an error. -/
def readBack (e : ErrorObject) : ErrorObject := { e with data := e.data.bind Json.unlessNull }

theorem toJson_eq (e : ErrorObject) : toJson e = .object (Json.present
    [("code", some (.int e.code)), ("data", e.data), ("message", some (.text e.message))]) := by
  have hfields : e.fields = Json.present [("code", some (.int e.code)),
      ("message", some (.text e.message)), ("data", e.data)] := by
    obtain ⟨code, message, data⟩ := e
    cases data <;> rfl
  refine (congrArg Json.ofFields hfields).trans
    (Json.ofFields_present (.cons _ (.swap _ _ _)) ?_)
  exact (by decide : ["code", "data", "message"].Pairwise (· < ·))

theorem fromJson_toJson (e : ErrorObject) : fromJson ErrorObject (toJson e) = .ok e.readBack := by
  refine ofJson_of_fills (l := layout) (toJson_eq _) (.part rfl Decoder.inverts_int64 _
    (.free rfl Decoder.inverts_optionalJson _ (.part rfl Decoder.inverts_text _ .nil))) ?_
  obtain ⟨code, message, data⟩ := e
  cases data <;> rfl

end ErrorObject

namespace Response

/-- What is read back of a response. -/
def readBack (r : Response) : Response :=
  { r with result := r.result.bind Json.unlessNull, error := r.error.map ErrorObject.readBack }

theorem toJson_eq (r : Response) : toJson r = .object (Json.present
    [("error", r.error.map toJson), ("id", some r.id), ("jsonrpc", some (.text r.jsonrpc)),
      ("result", r.result)]) := by
  have hfields : r.fields toJson = Json.present [("jsonrpc", some (.text r.jsonrpc)),
      ("id", some r.id), ("result", r.result), ("error", r.error.map toJson)] := by
    obtain ⟨jsonrpc, id, result, error⟩ := r
    cases result <;> cases error <;> rfl
  refine (congrArg Json.ofFields hfields).trans (Json.ofFields_present ?_ ?_)
  · -- The error comes first and the result last; between them the id and the version.
    exact ((List.Perm.swap _ _ _).trans (.cons _ (.cons _ (.swap _ _ _)))).trans
      (@List.perm_middle _ _ [_, _] [_])
  · exact (by decide : ["error", "id", "jsonrpc", "result"].Pairwise (· < ·))

theorem fromJson_toJson (r : Response) : fromJson Response (toJson r) = .ok r.readBack := by
  have herror : (Decoder.optional (.record ErrorObject.layout)).Inverts toJson
      fun e => some (ErrorObject.readBack e) := by
    refine Decoder.Inverts.optional ErrorObject.fromJson_toJson ?_
    intro e
    rfl
  refine ofJson_of_fills (l := layout) (toJson_eq _) (.maybe rfl herror _
    (.part rfl Decoder.inverts_json _
      (.part rfl Decoder.inverts_text _ (.free rfl Decoder.inverts_optionalJson _ .nil)))) ?_
  obtain ⟨jsonrpc, id, result, error⟩ := r
  cases result <;> cases error <;> rfl

/-- What is complete stays so, unless a null result is all that it has. -/
theorem isComplete_readBack_iff {r : Response} (hcomplete : r.isComplete = true) :
    r.readBack.isComplete = true ↔ ¬(r.result = some .null ∧ r.error = none) := by
  obtain ⟨jsonrpc, id, result, error⟩ := r
  cases error with
  | some e => simp [isComplete, readBack]
  | none =>
    cases result with
    | none => simp [isComplete] at hcomplete
    | some v => cases v <;> simp [isComplete, readBack, Json.unlessNull]

end Response

namespace Reply

/-- What is read back of a reply is a reply. -/
def readBack (a : Reply) : Reply where
  toResponse := a.toResponse.readBack
  single := a.single.imp (fun hresult => by rw [Response.readBack, hresult]; rfl)
    fun herror => by rw [Response.readBack, herror]; rfl

/-- A complete reply stays so unless its result is null. -/
theorem isComplete_readBack_iff {a : Reply} (hcomplete : a.isComplete = true) :
    a.readBack.isComplete = true ↔ a.result ≠ some .null := by
  refine (Response.isComplete_readBack_iff hcomplete).trans (not_congr ?_)
  constructor
  · exact fun h => h.1
  · intro hnull
    refine ⟨hnull, a.single.resolve_left ?_⟩
    rw [hnull]
    exact Option.some_ne_none _

end Reply

end Rpc

/-! ## Round trips -/

/-- A null is lost and any other value is not. -/
theorem Json.bind_unlessNull_eq_self_iff (v : Option Json) :
    v.bind Json.unlessNull = v ↔ v ≠ some .null := by
  cases v with
  | none => simp
  | some v => cases v <;> simp [Json.unlessNull]

/-- What is left once is left again. -/
theorem Json.bind_unlessNull_idem (v : Option Json) :
    (v.bind Json.unlessNull).bind Json.unlessNull = v.bind Json.unlessNull := by
  cases v with
  | none => rfl
  | some v => cases v <;> rfl

/-- A second round trip changes neither the value that the first one left nor what is written of it.
-/
def SettlesAtOnce (α : Type) [Wire α] : Prop :=
  ∀ x y : α, fromJson α (toJson x) = .ok y →
    ∃ z, fromJson α (toJson y) = .ok z ∧ z = y ∧ toJson z = toJson y

/-- Every value that is written is read back as its normal form, which is read back as it is. -/
structure ComesBack (α : Type) [Wire α] (normal : α → α) : Prop where
  read : ∀ x, fromJson α (toJson x) = .ok (normal x)
  settled : ∀ x, normal (normal x) = normal x

namespace ComesBack

variable {α : Type} [Wire α] {normal : α → α}

/-- The values that come back as they were are those in normal form. -/
theorem self_iff (h : ComesBack α normal) (x : α) :
    fromJson α (toJson x) = .ok x ↔ normal x = x := by
  rw [h.read, Except.ok.injEq]

/-- What one round trip leaves is in normal form. -/
theorem again (h : ComesBack α normal) : SettlesAtOnce α := by
  intro x y hy
  rw [h.read, Except.ok.injEq] at hy
  have hz : fromJson α (toJson y) = .ok y := by
    rw [h.self_iff, ← hy]
    exact h.settled x
  exact ⟨y, hz, rfl, rfl⟩

end ComesBack

theorem Port.Message.comesBack : ComesBack Port.Message fun m => m :=
  ⟨fromJson_toJson, fun _ => rfl⟩

theorem Wallet.Identity.comesBack : ComesBack Wallet.Identity fun x => x :=
  ⟨fromJson_toJson, fun _ => rfl⟩

theorem Wallet.SubjectMetadata.comesBack : ComesBack Wallet.SubjectMetadata fun x => x :=
  ⟨fromJson_toJson, fun _ => rfl⟩

theorem Page.Document.comesBack : ComesBack Page.Document fun x => x :=
  ⟨fromJson_toJson, fun _ => rfl⟩

namespace Rpc

theorem Request.comesBack : ComesBack Request Request.readBack := by
  refine ⟨Request.fromJson_toJson, fun q => ?_⟩
  unfold Request.readBack
  rw [Json.bind_unlessNull_idem]

theorem ErrorObject.comesBack : ComesBack ErrorObject ErrorObject.readBack := by
  refine ⟨ErrorObject.fromJson_toJson, fun e => ?_⟩
  unfold ErrorObject.readBack
  rw [Json.bind_unlessNull_idem]

theorem Response.comesBack : ComesBack Response Response.readBack := by
  refine ⟨Response.fromJson_toJson, fun r => ?_⟩
  unfold Response.readBack
  rw [Json.bind_unlessNull_idem, Option.map_map]
  congr 2
  funext e
  exact ErrorObject.comesBack.settled e

theorem Request.readBack_eq_self_iff (q : Request) :
    q.readBack = q ↔ q.origin = none ∧ q.params ≠ some .null := by
  rw [← Json.bind_unlessNull_eq_self_iff]
  obtain ⟨jsonrpc, id, method, params, origin⟩ := q
  simp only [readBack, mk.injEq, true_and]
  constructor
  · rintro ⟨hparams, horigin⟩
    exact ⟨horigin.symm, hparams⟩
  · rintro ⟨horigin, hparams⟩
    exact ⟨hparams, horigin.symm⟩

theorem ErrorObject.readBack_eq_self_iff (e : ErrorObject) :
    e.readBack = e ↔ e.data ≠ some .null := by
  rw [← Json.bind_unlessNull_eq_self_iff]
  obtain ⟨code, message, data⟩ := e
  simp only [readBack, mk.injEq, true_and]

theorem Response.readBack_eq_self_iff (r : Response) :
    r.readBack = r ↔ r.result ≠ some .null ∧ ∀ e, r.error = some e → e.data ≠ some .null := by
  rw [← Json.bind_unlessNull_eq_self_iff]
  obtain ⟨jsonrpc, id, result, error⟩ := r
  simp only [readBack, mk.injEq, true_and]
  cases error with
  | none => simp
  | some e => simp [ErrorObject.readBack_eq_self_iff]

end Rpc

/-- Every message, identity, report, document, request, error and response can be written as a JSON
value and read back from it. The first four come back as they were. A request comes back without its
origin and without parameters that are null, an error without data that are null, and a response
without a result that is null and with its error as errors come back; all else is as it was, so
these three come back as they were exactly if they have nothing of the kind. A complete response
stays complete unless a null result is all that it carries; a reply, which carries a result or an
error and never both, comes back as a reply, and if it was complete it still is unless its result is
null. And a second round trip changes nothing more. -/
theorem wire_roundTrip :
    ((∀ m : Port.Message, fromJson Port.Message (toJson m) = .ok m) ∧
      (∀ x : Wallet.Identity, fromJson Wallet.Identity (toJson x) = .ok x) ∧
      (∀ x : Wallet.SubjectMetadata, fromJson Wallet.SubjectMetadata (toJson x) = .ok x) ∧
      ∀ x : Page.Document, fromJson Page.Document (toJson x) = .ok x) ∧
    (∀ q : Rpc.Request,
      fromJson Rpc.Request (toJson q) =
        .ok { q with params := q.params.bind Json.unlessNull, origin := none } ∧
      (fromJson Rpc.Request (toJson q) = .ok q ↔ q.origin = none ∧ q.params ≠ some .null)) ∧
    (∀ e : Rpc.ErrorObject,
      fromJson Rpc.ErrorObject (toJson e) = .ok { e with data := e.data.bind Json.unlessNull } ∧
      (fromJson Rpc.ErrorObject (toJson e) = .ok e ↔ e.data ≠ some .null)) ∧
    (∀ r : Rpc.Response,
      fromJson Rpc.Response (toJson r) =
        .ok { r with
          result := r.result.bind Json.unlessNull
          error := r.error.map fun e => { e with data := e.data.bind Json.unlessNull } } ∧
      (fromJson Rpc.Response (toJson r) = .ok r ↔
        r.result ≠ some .null ∧ ∀ e, r.error = some e → e.data ≠ some .null) ∧
      ∀ r', fromJson Rpc.Response (toJson r) = .ok r' → r.isComplete = true →
        (r'.isComplete = true ↔ ¬(r.result = some .null ∧ r.error = none))) ∧
    (∀ a : Rpc.Reply, ∃ a' : Rpc.Reply,
      fromJson Rpc.Response (toJson a.toResponse) = .ok a'.toResponse ∧
      (a.isComplete = true → (a'.isComplete = true ↔ a.result ≠ some .null))) ∧
    SettlesAtOnce Port.Message ∧ SettlesAtOnce Rpc.Request ∧ SettlesAtOnce Rpc.ErrorObject ∧
      SettlesAtOnce Rpc.Response ∧ SettlesAtOnce Wallet.Identity ∧
      SettlesAtOnce Wallet.SubjectMetadata ∧ SettlesAtOnce Page.Document := by
  refine ⟨⟨Port.Message.fromJson_toJson, Wallet.Identity.fromJson_toJson,
      Wallet.SubjectMetadata.fromJson_toJson, Page.Document.fromJson_toJson⟩,
    fun q => ⟨q.fromJson_toJson, ?_⟩, fun e => ⟨e.fromJson_toJson, ?_⟩,
    fun r => ⟨r.fromJson_toJson, ?_, fun r' hread hcomplete => ?_⟩,
    fun a => ⟨a.readBack, a.fromJson_toJson, fun hcomplete => a.isComplete_readBack_iff hcomplete⟩,
    Port.Message.comesBack.again, Rpc.Request.comesBack.again, Rpc.ErrorObject.comesBack.again,
    Rpc.Response.comesBack.again, Wallet.Identity.comesBack.again,
    Wallet.SubjectMetadata.comesBack.again, Page.Document.comesBack.again⟩
  -- What comes back is a normal form, so a value comes back unchanged exactly if it is one.
  · rw [Rpc.Request.comesBack.self_iff]
    exact q.readBack_eq_self_iff
  · rw [Rpc.ErrorObject.comesBack.self_iff]
    exact e.readBack_eq_self_iff
  · rw [Rpc.Response.comesBack.self_iff]
    exact r.readBack_eq_self_iff
  -- There is one reading, and completeness is asked of that.
  · rw [r.fromJson_toJson, Except.ok.injEq] at hread
    rw [← hread, Rpc.Response.isComplete_readBack_iff hcomplete]

end WalletGate
