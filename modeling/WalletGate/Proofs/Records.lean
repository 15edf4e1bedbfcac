import WalletGate.Json.Record
import WalletGate.Proofs.Basic
/-!
# Records from values

What a record holds that is read from a value, for any layout.

* `Json.present`: the fields of a record by its parts, of which some may be absent, and
  `Json.field?_present`: what an object has that is made of these;
* `fillFields_filter`: fields that no column asks for have no part in it;
* `ofJson_object_congr`: objects that have the same under the keys of the columns are read alike, or
  refused alike;
* `ofJson_object_eq_parts`: so an object may be replaced by one that has nothing but the parts under
  these keys;
* `toOption_ofJson_parts`, `toOption_ofJson_array`: what a record is read from, without the cause of
  a failure.
-/

namespace WalletGate

/-! ## Objects of given parts -/

namespace Json

/-- The fields of the parts that are there. -/
def present (parts : List (String × Option Json)) : List (String × Json) :=
  parts.filterMap fun part => part.2.map (part.1, ·)

/-- The parts of a value under some keys. -/
def partsAt (keys : List String) (v : Json) : List (String × Option Json) :=
  keys.map fun key => (key, v.field? key)

theorem keys_present (parts : List (String × Option Json)) :
    ((present parts).map (·.1)).Sublist (parts.map (·.1)) := by
  induction parts with
  | nil => exact List.Sublist.refl []
  | cons part parts ih =>
    obtain ⟨key, v⟩ := part
    cases v with
    | none => exact ih.cons key
    | some v => exact ih.cons_cons key

theorem sorted_present {parts : List (String × Option Json)}
    (hkeys : (parts.map (·.1)).Pairwise (· < ·)) : Entries.Sorted (present parts) :=
  List.pairwise_map.1 (hkeys.sublist (keys_present parts))

/-- Under the key of a part there is the part, or nothing if it is absent. -/
theorem find?_present {parts : List (String × Option Json)}
    (hkeys : (parts.map (·.1)).Pairwise (· < ·)) {key : String} {v : Option Json}
    (hmem : (key, v) ∈ parts) : Entries.find? key (present parts) = v := by
  induction parts with
  | nil => exact absurd hmem List.not_mem_nil
  | cons part parts ih =>
    obtain ⟨hfirst, hrest⟩ := List.pairwise_cons.1 hkeys
    rcases List.mem_cons.1 hmem with rfl | hmem
    · cases v with
      | none =>
        -- The key does not come again, so nothing is found in what follows.
        have hnone : key ∉ (present parts).map (·.1) := fun hkey =>
          String.lt_irrefl key (hfirst key ((keys_present parts).subset hkey))
        rwa [← Entries.find?_isSome_iff, Bool.not_eq_true, Option.isSome_eq_false_iff,
          Option.isNone_iff_eq_none] at hnone
      | some v => exact if_pos rfl
    · have hne : part.1 ≠ key := by
        rintro rfl
        exact String.lt_irrefl part.1 (hfirst part.1 (List.mem_map_of_mem (f := (·.1)) hmem))
      have hskip : Entries.find? key (present (part :: parts)) =
          Entries.find? key (present parts) := by
        obtain ⟨first, v⟩ := part
        cases v with
        | none => rfl
        | some v => exact if_neg hne
      rw [hskip, ih hrest hmem]

theorem field?_present {parts : List (String × Option Json)}
    (hkeys : (parts.map (·.1)).Pairwise (· < ·)) {key : String} {v : Option Json}
    (hmem : (key, v) ∈ parts) : (object (present parts)).field? key = v := by
  rw [field?_object_of_sorted (sorted_present hkeys), find?_present hkeys hmem]

end Json

/-! ## Columns and objects -/

namespace Decoder

variable {α σ : Type}

theorem toOption_column (key : String) (d : Decoder α) (get : σ → Option α) (set : α → σ → σ)
    (v : Json) (draft : σ) :
    ((column key d get set).ofJson v draft).toOption =
      (d.ofJson v).toOption.map fun a => set a draft := by
  unfold column
  simp only
  cases d.ofJson v with
  | error e => rfl
  | ok a => rfl

namespace Layout

variable {columns : List (Column σ)}

/-- Fields that no column asks for have no part in the draft. -/
theorem fillFields_filter (columns : List (Column σ)) (fields : List (String × Json)) (draft : σ) :
    fillFields columns (fields.filter fun field => columns.any (·.key = field.1)) draft =
      fillFields columns fields draft := by
  -- A field is left out of the list just if it is passed over in filling the draft.
  induction fields generalizing draft with
  | nil => rfl
  | cons field rest ih =>
    obtain ⟨key, v⟩ := field
    rw [List.filter_cons]
    cases hfind : columns.find? (·.key = key) with
    | none =>
      have hunknown : ¬(columns.any (·.key = key)) = true := by
        simpa using List.find?_eq_none.1 hfind
      rw [if_neg hunknown, ih, fillFields, hfind]
    | some c =>
      have hkey : c.key = key := by simpa using List.find?_some hfind
      have hknown : (columns.any (·.key = key)) = true :=
        List.any_eq_true.2 ⟨c, List.mem_of_find?_eq_some hfind, decide_eq_true hkey⟩
      rw [if_pos hknown, fillFields, fillFields, hfind]
      simp only [ih]

/-- What is read from an object is decided by what it has under the keys of the columns, and so is
the fault of an object that is not read. -/
theorem ofJson_object_congr (l : Layout σ α) {fields fields' : List (String × Json)}
    (hsame : ∀ c ∈ l.columns,
      (Json.object fields).field? c.key = (Json.object fields').field? c.key) :
    l.ofJson (.object fields) = l.ofJson (.object fields') := by
  have hknown : ((Entries.ofList fields).filter fun field => l.columns.any (·.key = field.1)) =
      (Entries.ofList fields').filter fun field => l.columns.any (·.key = field.1) := by
    -- In order of key, the fields that columns ask for are determined by the look-ups.
    refine Entries.Sorted.ext ((Entries.sorted_ofList fields).filter _)
      ((Entries.sorted_ofList fields').filter _) fun key => ?_
    rw [Entries.find?_filter (fun key => l.columns.any (·.key = key)),
      Entries.find?_filter (fun key => l.columns.any (·.key = key))]
    split
    · rename_i hany
      obtain ⟨c, hc, hkey⟩ := List.any_eq_true.1 hany
      rw [← of_decide_eq_true hkey]
      exact hsame c hc
    · rfl
  unfold ofJson
  simp only
  rw [← fillFields_filter, hknown, fillFields_filter]

/-- An object is read as one that has nothing but the parts under the keys of the columns. -/
theorem ofJson_object_eq_parts (l : Layout σ α) {keys : List String}
    (hkeys : keys.Pairwise (· < ·)) (hcolumns : ∀ c ∈ l.columns, c.key ∈ keys)
    (fields : List (String × Json)) :
    l.ofJson (.object fields) =
      l.ofJson (.object (Json.present (Json.partsAt keys (.object fields)))) := by
  -- The keys of the parts are the given ones, and under each the new object has what the old one
  -- has.
  have hparts : ((Json.partsAt keys (.object fields)).map (·.1)).Pairwise (· < ·) := by
    have hself : (Json.partsAt keys (.object fields)).map (·.1) = keys := by
      simp [Json.partsAt, Function.comp_def]
    rwa [hself]
  refine ofJson_object_congr l fun c hc => ?_
  have hmem : (c.key, (Json.object fields).field? c.key) ∈ Json.partsAt keys (.object fields) :=
    List.mem_map_of_mem (hcolumns c hc)
  exact (Json.field?_present hparts hmem).symm

/-! ## What is read, without the cause of a failure -/

theorem toOption_ofJson_parts (l : Layout σ α) (parts : List (String × Option Json))
    (hkeys : (parts.map (·.1)).Pairwise (· < ·)) :
    (l.ofJson (.object (Json.present parts))).toOption =
      (fillFields l.columns (Json.present parts) l.start).toOption.bind fun draft =>
        (l.finish draft).toOption := by
  unfold ofJson
  simp only [(Json.sorted_present hkeys).ofList_eq]
  rw [Except.toOption_bind]
  simp only [Except.toOption_mapError]

theorem toOption_ofJson_array (l : Layout σ α) (items : List Json) :
    (l.ofJson (.array items)).toOption =
      (fillItems l.columns items l.start).toOption.bind fun out =>
        (l.finish out.1).toOption.bind fun record =>
          if out.2.isEmpty then some record else none := by
  unfold ofJson
  simp only
  rw [Except.toOption_bind]
  congr 1
  funext out
  rw [Except.toOption_bind, Except.toOption_mapError]
  congr 1
  funext record
  cases out.2.isEmpty with
  | false => rfl
  | true => rfl

/-- A part is read by its column if it is there. -/
theorem toOption_fillFields_part {key : String} {c : Column σ}
    (hfind : columns.find? (·.key = key) = some c) (v : Option Json)
    (parts : List (String × Option Json)) (draft : σ) :
    (fillFields columns (Json.present ((key, v) :: parts)) draft).toOption =
      (v.elim (some draft) fun v => (c.ofJson v draft).toOption).bind fun draft =>
        (fillFields columns (Json.present parts) draft).toOption := by
  cases v with
  | none => rfl
  | some v =>
    have hfields : Json.present ((key, some v) :: parts) = (key, v) :: Json.present parts := rfl
    rw [hfields, fillFields, hfind]
    exact Except.toOption_bind _ _

theorem toOption_fillItems_cons (c : Column σ) (v : Json) (rest : List Json) (draft : σ) :
    (fillItems (c :: columns) (v :: rest) draft).toOption =
      (c.ofJson v draft).toOption.bind fun draft => (fillItems columns rest draft).toOption :=
  Except.toOption_bind _ _

end Layout

end Decoder

end WalletGate
