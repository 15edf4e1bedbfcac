/-!
# Dictionaries

A dictionary from texts to values is the list of its entries in strictly increasing order of key,
by code point. Two dictionaries with the same look-ups are therefore equal, and the order in which
entries are listed is part of the value.

* `Entries.Sorted.ext`: lists of entries in order of key with the same look-ups are equal.
* `Entries.sorted_ofList`, `Entries.Sorted.ofList_eq`: any list of entries makes one in order of
  key, and one that is in order makes itself.
* `find?_put`: a look-up after a write sees the write at its key and the old entry elsewhere.
* `find?_remove`: a look-up after a removal sees nothing at the removed key.
* `Dict.pairwise_keys`, `Dict.mem_keys_iff`: the keys are those that have a value, in order.
-/

namespace WalletGate

/-! ## Entry lists -/

namespace Entries

variable {α : Type}

/-- The value of the first entry under a key. -/
def find? (key : String) : List (String × α) → Option α
  | [] => none
  | (k, v) :: rest => if k = key then some v else find? key rest

/-- Writes a value under a key, in place if the key is there and in order of key if not. -/
def put (key : String) (value : α) : List (String × α) → List (String × α)
  | [] => [(key, value)]
  | (k, v) :: rest =>
    if key < k then (key, value) :: (k, v) :: rest
    else if k = key then (key, value) :: rest
    else (k, v) :: put key value rest

/-- The entries under other keys. -/
def remove (key : String) (entries : List (String × α)) : List (String × α) :=
  entries.filter fun entry => entry.1 ≠ key

/-- Writes the entries of a list one after the other, so that of two with one key the later stays.
-/
def ofList (entries : List (String × α)) : List (String × α) :=
  entries.foldl (fun done entry => put entry.1 entry.2 done) []

/-- Keys strictly increase. -/
def Sorted (entries : List (String × α)) : Prop :=
  entries.Pairwise fun a b => a.1 < b.1

theorem mem_put {key : String} {value : α} {entries : List (String × α)} {x : String × α}
    (h : x ∈ put key value entries) : x = (key, value) ∨ x ∈ entries := by
  induction entries with
  | nil => simpa [put] using h
  | cons e rest ih =>
    unfold put at h
    split at h
    · simpa using h
    · split at h
      · rcases List.mem_cons.1 h with h | h <;> simp [h]
      · rcases List.mem_cons.1 h with h | h
        · simp [h]
        · rcases ih h with h | h <;> simp [h]

theorem Sorted.put {entries : List (String × α)} (h : Sorted entries) (key : String) (value : α) :
    Sorted (put key value entries) := by
  induction entries with
  | nil => simp [Entries.put, Sorted]
  | cons e rest ih =>
    obtain ⟨hhead, hrest⟩ := List.pairwise_cons.1 h
    unfold Entries.put
    split
    · rename_i hlt
      refine List.pairwise_cons.2 ⟨fun x hx => ?_, h⟩
      rcases List.mem_cons.1 hx with rfl | hx
      · exact hlt
      · exact String.lt_trans hlt (hhead x hx)
    · rename_i hnot
      split
      · rename_i heq
        subst heq
        exact List.pairwise_cons.2 ⟨fun x hx => hhead x hx, hrest⟩
      · rename_i hne
        refine List.pairwise_cons.2 ⟨fun x hx => ?_, ih hrest⟩
        rcases mem_put hx with rfl | hx
        · exact Std.lt_of_le_of_ne (String.not_lt.1 hnot) hne
        · exact hhead x hx

theorem Sorted.remove {entries : List (String × α)} (h : Sorted entries) (key : String) :
    Sorted (remove key entries) :=
  List.Pairwise.filter _ h

theorem sorted_ofList (entries : List (String × α)) : Sorted (ofList entries) := by
  unfold ofList
  suffices h : ∀ done : List (String × α), Sorted done →
      Sorted (entries.foldl (fun done entry => put entry.1 entry.2 done) done) from
    h [] List.Pairwise.nil
  intro done hdone
  induction entries generalizing done with
  | nil => exact hdone
  | cons e rest ih => exact ih _ (hdone.put e.1 e.2)

theorem put_of_lt {key : String} (value : α) {entries : List (String × α)}
    (h : ∀ e ∈ entries, e.1 < key) : put key value entries = entries ++ [(key, value)] := by
  induction entries with
  | nil => rfl
  | cons e rest ih =>
    have hlt : e.1 < key := h e List.mem_cons_self
    have hne : e.1 ≠ key := fun heq => String.lt_irrefl key (heq ▸ hlt)
    have hnot : ¬key < e.1 := fun hgt => String.lt_irrefl key (String.lt_trans hgt hlt)
    rw [put, if_neg hnot, if_neg hne, ih fun x hx => h x (List.mem_cons_of_mem e hx)]
    rfl

/-- Entries that are in order of key are all kept, in that order. -/
theorem Sorted.ofList_eq {entries : List (String × α)} (h : Sorted entries) :
    ofList entries = entries := by
  have hfold : ∀ (rest done : List (String × α)), Sorted (done ++ rest) →
      rest.foldl (fun done entry => Entries.put entry.1 entry.2 done) done = done ++ rest := by
    intro rest
    induction rest with
    | nil => simp
    | cons e rest ih =>
      intro done hsorted
      have hbefore : ∀ x ∈ done, x.1 < e.1 := fun x hx =>
        (List.pairwise_append.1 hsorted).2.2 x hx e List.mem_cons_self
      have hsplit : done ++ e :: rest = (done ++ [e]) ++ rest := by simp
      rw [List.foldl_cons, put_of_lt e.2 hbefore, hsplit]
      exact ih (done ++ [e]) (hsplit ▸ hsorted)
  exact hfold entries [] h

theorem mem_ofList {entries : List (String × α)} {x : String × α} (h : x ∈ ofList entries) :
    x ∈ entries := by
  unfold ofList at h
  suffices hfold : ∀ done : List (String × α),
      x ∈ entries.foldl (fun done entry => put entry.1 entry.2 done) done →
        x ∈ done ∨ x ∈ entries from
    (hfold [] h).resolve_left (by simp)
  intro done hx
  clear h
  induction entries generalizing done with
  | nil => exact .inl hx
  | cons e rest ih =>
    rcases ih _ hx with hput | hrest
    · rcases mem_put hput with rfl | hdone
      · exact .inr (by simp)
      · exact .inl hdone
    · exact .inr (by simp [hrest])

/-- No later entry is under the first key. -/
theorem Sorted.find?_tail {key : String} {value : α} {rest : List (String × α)}
    (h : Sorted ((key, value) :: rest)) : find? key rest = none := by
  have hhead := (List.pairwise_cons.1 h).1
  induction rest with
  | nil => rfl
  | cons e rest ih =>
    have hlt : key < e.1 := hhead e (by simp)
    have hne : e.1 ≠ key := fun heq => String.lt_irrefl key (heq ▸ hlt)
    simp only [find?, hne, if_false]
    refine ih ?_ fun x hx => hhead x (by simp [hx])
    obtain ⟨hfirst, hrest⟩ := List.pairwise_cons.1 h
    exact List.pairwise_cons.2 ⟨fun x hx => hfirst x (by simp [hx]), (List.pairwise_cons.1 hrest).2⟩

theorem find?_put (entries : List (String × α)) (key key' : String) (value : α) :
    find? key' (put key value entries) = if key' = key then some value else find? key' entries := by
  induction entries with
  | nil => simp [put, find?, eq_comm]
  | cons e rest ih =>
    unfold put
    split
    · simp [find?, @eq_comm _ key key']
    · split
      · rename_i heq
        subst heq
        by_cases h : key' = e.1
        · simp [find?, h]
        · simp [find?, h, Ne.symm h]
      · rename_i hne
        simp only [find?, ih]
        by_cases h : e.1 = key'
        · subst h
          simp [hne]
        · simp [h]

theorem mem_of_find? {key : String} {value : α} {entries : List (String × α)}
    (h : find? key entries = some value) : (key, value) ∈ entries := by
  induction entries with
  | nil => exact absurd h (by simp [find?])
  | cons e rest ih =>
    unfold find? at h
    split at h
    · rename_i heq
      rw [← heq, ← Option.some.inj h]
      exact List.mem_cons_self
    · exact List.mem_cons_of_mem e (ih h)

/-- Of two lists in order of key with the same look-ups, both begin with the same key. -/
theorem Sorted.not_head_lt {e e' : String × α} {rest rest' : List (String × α)}
    (h : Sorted (e' :: rest'))
    (hsame : find? e.1 (e :: rest) = find? e.1 (e' :: rest')) : ¬e.1 < e'.1 := by
  intro hlt
  have hfound : find? e.1 (e' :: rest') = some e.2 := by
    rw [← hsame]
    simp [find?]
  rcases List.mem_cons.1 (mem_of_find? hfound) with heq | hmem
  · rw [← heq] at hlt
    exact String.lt_irrefl e.1 hlt
  · exact String.lt_irrefl e.1 (String.lt_trans hlt ((List.pairwise_cons.1 h).1 _ hmem))

/-- Lists in order of key are determined by their look-ups. -/
theorem Sorted.ext {entries entries' : List (String × α)} (h : Sorted entries)
    (h' : Sorted entries') (hsame : ∀ key, find? key entries = find? key entries') :
    entries = entries' := by
  induction entries generalizing entries' with
  | nil =>
    cases entries' with
    | nil => rfl
    | cons e' rest' => exact absurd (hsame e'.1) (by simp [find?])
  | cons e rest ih =>
    cases entries' with
    | nil => exact absurd (hsame e.1) (by simp [find?])
    | cons e' rest' =>
      have hkey : e.1 = e'.1 :=
        Std.le_antisymm (String.not_lt.1 (h.not_head_lt (hsame e'.1).symm))
          (String.not_lt.1 (h'.not_head_lt (hsame e.1)))
      have hvalue : e.2 = e'.2 := by
        have hhead := hsame e.1
        simpa [find?, hkey] using hhead
      have hrest : rest = rest' := by
        refine ih (List.pairwise_cons.1 h).2 (List.pairwise_cons.1 h').2 fun key => ?_
        by_cases hfirst : e.1 = key
        · -- The first key occurs once in each list.
          rw [← hfirst, h.find?_tail, hkey, h'.find?_tail]
        · have hskip := hsame key
          simpa [find?, hfirst, ← hkey] using hskip
      rw [Prod.ext hkey hvalue, hrest]

/-- A look-up among the entries under some keys sees what it saw, or nothing. -/
theorem find?_filter (p : String → Bool) (entries : List (String × α)) (key : String) :
    find? key (entries.filter fun e => p e.1) = if p key then find? key entries else none := by
  induction entries with
  | nil => simp [find?]
  | cons e rest ih =>
    rw [List.filter_cons]
    by_cases hkept : p e.1 = true
    · rw [if_pos hkept]
      unfold find?
      by_cases hkey : e.1 = key
      · rw [if_pos hkey, if_pos hkey, if_pos (hkey ▸ hkept)]
      · rw [if_neg hkey, if_neg hkey, ih]
    · rw [if_neg hkept, ih]
      by_cases hkey : e.1 = key
      · rw [← hkey, if_neg hkept, if_neg hkept]
      · rw [find?, if_neg hkey]

/-- A key has a value if it is among the keys of the entries. -/
theorem find?_isSome_iff (key : String) (entries : List (String × α)) :
    (find? key entries).isSome = true ↔ key ∈ entries.map (·.1) := by
  induction entries with
  | nil => simp [find?]
  | cons e rest ih =>
    rw [find?, List.map_cons, List.mem_cons]
    by_cases hkey : e.1 = key
    · simp [hkey]
    · rw [if_neg hkey, ih]
      simp [Ne.symm hkey]

theorem find?_remove (entries : List (String × α)) (key key' : String) :
    find? key' (remove key entries) = if key' = key then none else find? key' entries := by
  unfold remove
  rw [find?_filter (fun k => k ≠ key)]
  by_cases h : key' = key
  · simp [h]
  · simp [h]

end Entries

/-! ## Dictionaries -/

/-- Entries in strictly increasing order of key. -/
structure Dict (α : Type) where
  /-- The entries, in order of key. -/
  entries : List (String × α)
  sorted : Entries.Sorted entries

namespace Dict

variable {α : Type}

/-- The dictionary without entries. -/
def empty : Dict α := ⟨[], List.Pairwise.nil⟩

instance : EmptyCollection (Dict α) := ⟨empty⟩

instance : Inhabited (Dict α) := ⟨empty⟩

def find? (d : Dict α) (key : String) : Option α := Entries.find? key d.entries

def contains (d : Dict α) (key : String) : Bool := (d.find? key).isSome

def put (d : Dict α) (key : String) (value : α) : Dict α :=
  ⟨Entries.put key value d.entries, d.sorted.put key value⟩

def remove (d : Dict α) (key : String) : Dict α :=
  ⟨Entries.remove key d.entries, d.sorted.remove key⟩

/-- The keys in increasing order. -/
def keys (d : Dict α) : List String := d.entries.map (·.1)

def size (d : Dict α) : Nat := d.entries.length

@[simp] theorem find?_empty (key : String) : (∅ : Dict α).find? key = none := rfl

@[simp] theorem find?_put (d : Dict α) (key key' : String) (value : α) :
    (d.put key value).find? key' = if key' = key then some value else d.find? key' :=
  Entries.find?_put d.entries key key' value

@[simp] theorem find?_remove (d : Dict α) (key key' : String) :
    (d.remove key).find? key' = if key' = key then none else d.find? key' :=
  Entries.find?_remove d.entries key key'

theorem pairwise_keys (d : Dict α) : d.keys.Pairwise (· < ·) := List.pairwise_map.2 d.sorted

theorem mem_keys_iff (d : Dict α) (key : String) : key ∈ d.keys ↔ d.contains key = true :=
  (Entries.find?_isSome_iff key d.entries).symm

theorem length_keys (d : Dict α) : d.keys.length = d.size := List.length_map _

/-- Dictionaries with the same look-ups are equal. -/
theorem ext_find? {d d' : Dict α} (hsame : ∀ key, d.find? key = d'.find? key) : d = d' := by
  have hentries : d.entries = d'.entries := d.sorted.ext d'.sorted hsame
  cases d
  cases d'
  cases hentries
  rfl

end Dict

end WalletGate
