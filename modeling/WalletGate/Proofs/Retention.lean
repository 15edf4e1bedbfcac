import WalletGate.Proofs.Recency
/-!
# Which bindings are kept

Bindings are recorded and read in any order. The records alone decide what is kept: of all origins
that were recorded, those with the latest records, as many as the capacity allows, each with the tab
of its latest record.

* `age`, `LatestFirst`: the recorded origins in order of their latest records, said by the number of
  records since then and without any bindings;
* `afterUses_eq`: reading has no part in what is kept;
* `entries_record`: all that one record can do to bounded bindings, which is what a cache does that
  drops the entry least recently used;
* `uses_meet_records`: what is kept, and what every reading answers, after any uses.
-/

namespace WalletGate.Port.Bindings

/-! ## Uses -/

/-- A use of the bindings. -/
inductive Use where
  | record (origin : String) (tab : Int64)
  | tabOf (origin : String)
  | size
  | isEmpty

/-- What a use is answered by. -/
inductive Reply where
  | recorded
  | tabOf (tab : Option Int64)
  | size (n : Nat)
  | isEmpty (answer : Bool)

/-- What is recorded by a use. -/
def Use.record? : Use → Option (String × Int64)
  | record origin tab => some (origin, tab)
  | _ => none

/-- The records among some uses, in order. -/
def recordsOf (uses : List Use) : List (String × Int64) := uses.filterMap Use.record?

def reply (b : Bindings) : Use → Reply
  | .record _ _ => .recorded
  | .tabOf origin => .tabOf (b.tab? origin)
  | .size => .size b.size
  | .isEmpty => .isEmpty b.isEmpty

/-- The bindings after a use. -/
def afterUse (b : Bindings) : Use → Bindings
  | .record origin tab => b.record origin tab
  | _ => b

/-- The bindings after some uses. -/
def afterUses (b : Bindings) (uses : List Use) : Bindings := uses.foldl afterUse b

/-- What is answered to one use after the other. -/
def replies (b : Bindings) : List Use → List Reply
  | [] => []
  | u :: rest => b.reply u :: (b.afterUse u).replies rest

theorem replies_append (b : Bindings) (uses later : List Use) :
    b.replies (uses ++ later) = b.replies uses ++ (b.afterUses uses).replies later := by
  induction uses generalizing b with
  | nil => rfl
  | cons u rest ih => exact congrArg (b.reply u :: ·) (ih (b.afterUse u))

/-- The bindings after some uses are those after the records among them. -/
theorem afterUses_eq (b : Bindings) (uses : List Use) :
    b.afterUses uses = b.recordAll (recordsOf uses) := by
  induction uses generalizing b with
  | nil => rfl
  | cons u rest ih =>
    cases u with
    | record origin tab => exact ih (b.record origin tab)
    | tabOf origin => exact ih b
    | size => exact ih b
    | isEmpty => exact ih b

/-! ## Origins in order of their latest records -/

/-- The tab of the latest record of an origin. -/
def lastTab? (records : List (String × Int64)) (origin : String) : Option Int64 :=
  (records.filter fun r => r.1 = origin).getLast?.map (·.2)

/-- How many records were made since the latest one of an origin. -/
def age (records : List (String × Int64)) (origin : String) : Nat :=
  records.reverse.findIdx fun r => r.1 = origin

/-- The recorded origins, each once, the latest recorded first. -/
structure LatestFirst (records : List (String × Int64)) (origins : List String) : Prop where
  mem_iff : ∀ origin, origin ∈ origins ↔ origin ∈ records.map (·.1)
  younger_first : origins.Pairwise fun a b => age records a < age records b

/-- With one more record, its origin is the youngest and all others are older by one. -/
theorem age_concat (records : List (String × Int64)) (r : String × Int64) (origin : String) :
    age (records ++ [r]) origin = if r.1 = origin then 0 else age records origin + 1 := by
  unfold age
  rw [List.reverse_append, List.reverse_singleton, List.singleton_append, List.findIdx_cons]
  by_cases h : r.1 = origin
  · simp [h]
  · simp [h]

theorem LatestFirst.nodup {records : List (String × Int64)} {origins : List String}
    (h : LatestFirst records origins) : origins.Nodup := by
  refine h.younger_first.imp ?_
  rintro a b hlt rfl
  exact Nat.lt_irrefl _ hlt

/-- There is one such list of origins. -/
theorem LatestFirst.unique {records : List (String × Int64)} {origins origins' : List String}
    (h : LatestFirst records origins) (h' : LatestFirst records origins') : origins = origins' := by
  have hperm : origins.Perm origins' := by
    rw [List.perm_ext_iff_of_nodup h.nodup h'.nodup]
    intro origin
    rw [h.mem_iff, h'.mem_iff]
  refine hperm.eq_of_pairwise ?_ h.younger_first h'.younger_first
  intro a b _ _ hab hba
  exact absurd hab (Nat.lt_asymm hba)

/-- The latest records come in order of their origins. -/
theorem latestFirst_latest (records : List (String × Int64)) :
    LatestFirst records ((latest records).map (·.1)) := by
  refine ⟨mem_origins_latest records, ?_⟩
  -- Records are made at the end, so the induction takes the last one off; the one that is recorded
  -- is of age zero.
  induction records using List.reverseRecOn with
  | nil => exact List.Pairwise.nil
  | append_singleton records r ih =>
    rw [latest_concat, List.map_cons]
    -- The fresh entry replaces the older one of its origin, so it stands apart from all that
    -- follow.
    have hothers : ∀ origin ∈ ((latest records).filter fun entry => entry.1 ≠ r.1).map (·.1),
        r.1 ≠ origin := by
      intro origin horigin
      obtain ⟨entry, hentry, rfl⟩ := List.mem_map.1 horigin
      have hne : entry.1 ≠ r.1 := by simpa using (List.mem_filter.1 hentry).2
      exact hne.symm
    constructor
    · intro origin horigin
      rw [age_concat, age_concat, if_pos rfl, if_neg (hothers origin horigin)]
      exact Nat.succ_pos _
    · -- The others have all grown older by one, and keep their order.
      have hkept : (((latest records).filter fun entry => entry.1 ≠ r.1).map (·.1)).Pairwise
          fun a b => age records a < age records b :=
        ih.sublist (List.filter_sublist.map _)
      refine hkept.imp_of_mem ?_
      intro a b ha hb hlt
      rw [age_concat, age_concat, if_neg (hothers a ha), if_neg (hothers b hb)]
      exact Nat.succ_lt_succ hlt

/-- They are all such origins in this order, and no other list is. -/
theorem latestFirst_iff (records : List (String × Int64)) (origins : List String) :
    LatestFirst records origins ↔ origins = (latest records).map (·.1) := by
  have hlatest := latestFirst_latest records
  constructor
  · intro h
    exact h.unique hlatest
  · rintro rfl
    exact hlatest

/-! ## What is kept -/

theorem size_recordAll (capacity : Nat) (records : List (String × Int64)) :
    ((empty capacity).recordAll records).size =
      min (max capacity 1) (records.map (·.1)).toFinset.card := by
  unfold size
  rw [entries_recordAll, List.length_take, length_latest]

/-- One more record of a recorded origin leaves the number of the bindings as it is. -/
theorem size_recordAll_concat (capacity : Nat) {records : List (String × Int64)}
    {r : String × Int64} (hrecorded : r.1 ∈ records.map (·.1)) :
    ((empty capacity).recordAll (records ++ [r])).size =
      ((empty capacity).recordAll records).size := by
  have horigins : ((records ++ [r]).map (·.1)).toFinset = (records.map (·.1)).toFinset := by
    rw [List.map_append, List.toFinset_append, List.map_singleton, Finset.union_eq_left]
    intro origin horigin
    rw [List.mem_toFinset, List.mem_singleton] at horigin
    rw [horigin, List.mem_toFinset]
    exact hrecorded
  rw [size_recordAll, size_recordAll, horigins]

theorem isEmpty_recordAll (capacity : Nat) (records : List (String × Int64)) :
    ((empty capacity).recordAll records).isEmpty = true ↔ records = [] := by
  unfold isEmpty
  rw [size_recordAll, decide_eq_true_eq]
  cases records with
  | nil => simp
  | cons r rest => simp

/-- The bindings of a store are never more than its capacity. -/
theorem size_recordAll_le (capacity : Nat) (records : List (String × Int64)) :
    ((empty capacity).recordAll records).size ≤
      ((empty capacity).recordAll records).capacity := by
  rw [size_recordAll, capacity_recordAll]
  exact Nat.min_le_left _ _

/-- Every entry has the tab of the latest record of its origin. -/
theorem lastTab?_of_mem {capacity : Nat} {records : List (String × Int64)} {e : String × Int64}
    (he : e ∈ ((empty capacity).recordAll records).entries) :
    lastTab? records e.1 = some e.2 := by
  rw [entries_recordAll] at he
  have hlatest : e ∈ latest records := List.mem_of_mem_take he
  unfold lastTab?
  rw [← find?_latest, find?_of_mem (pairwise_latest records) hlatest]
  rfl

/-- An origin without an entry is bound to no tab. -/
theorem tab?_eq_none {b : Bindings} {origin : String} (h : origin ∉ b.entries.map (·.1)) :
    b.tab? origin = none := by
  have hnone : (b.entries.find? fun entry => entry.1 = origin) = none := by
    rw [List.find?_eq_none]
    intro e he heq
    exact h (List.mem_map.2 ⟨e, he, of_decide_eq_true heq⟩)
  unfold tab?
  rw [hnone]
  rfl

theorem tab?_recordAll (capacity : Nat) (records : List (String × Int64)) (origin : String) :
    let b := (empty capacity).recordAll records
    b.tab? origin = if origin ∈ b.entries.map (·.1) then lastTab? records origin else none := by
  intro b
  by_cases h : origin ∈ b.entries.map (·.1)
  · obtain ⟨e, he, rfl⟩ := List.mem_map.1 h
    rw [if_pos h, lastTab?_of_mem he, tab?_of_mem (pairwise_entries_recordAll capacity records) he]
  · rw [if_neg h, tab?_eq_none h]

/-- One record puts its entry first. It replaces the entry of its origin; or it takes a free place;
or the last entry makes room for it. -/
theorem entries_record {b : Bindings} (hbound : b.size ≤ b.capacity) (origin : String)
    (tab : Int64) :
    (b.record origin tab).entries =
      if origin ∈ b.entries.map (·.1) then
        (origin, tab) :: b.entries.filter fun entry => entry.1 ≠ origin
      else if b.size < b.capacity then (origin, tab) :: b.entries
      else (origin, tab) :: b.entries.dropLast := by
  -- The record of an origin drops its entry, puts a new one in front and cuts the list at the
  -- capacity; at most one of the last two steps matters.
  have hrecord : (b.record origin tab).entries =
      ((origin, tab) :: b.entries.filter fun entry => entry.1 ≠ origin).take b.capacity := rfl
  rw [hrecord]
  by_cases hmem : origin ∈ b.entries.map (·.1)
  · -- One entry at least goes, so there is a place for the new one.
    have hless : (b.entries.filter fun entry => entry.1 ≠ origin).length < b.entries.length := by
      obtain ⟨e, he, heq⟩ := List.mem_map.1 hmem
      rw [List.length_filter_lt_length_iff_exists]
      exact ⟨e, he, by simp [heq]⟩
    rw [if_pos hmem, List.take_of_length_le]
    rw [List.length_cons]
    exact Nat.le_trans hless hbound
  -- There is no entry to drop.
  · have hall : (b.entries.filter fun entry => entry.1 ≠ origin) = b.entries := by
      rw [List.filter_eq_self]
      intro e he
      have hne : e.1 ≠ origin := fun heq => hmem (List.mem_map.2 ⟨e, he, heq⟩)
      simpa using hne
    rw [if_neg hmem, hall]
    by_cases hroom : b.size < b.capacity
    · rw [if_pos hroom, List.take_of_length_le]
      rw [List.length_cons]
      exact hroom
    · -- The store is full, and its capacity is at least one.
      have hfull : b.capacity = b.entries.length := by
        unfold size at hbound hroom
        omega
      obtain ⟨n, hn⟩ : ∃ n, b.capacity = n + 1 := ⟨b.capacity - 1, by have := b.capacity_pos; omega⟩
      have hlast : b.entries.take n = b.entries.dropLast := by
        rw [List.dropLast_eq_take, ← hfull, hn]
        rfl
      rw [if_neg hroom, hn, List.take_succ_cons, hlast]

/-- A record of an origin that is bound changes its tab and no other binding. -/
theorem tab?_record_of_bound {b : Bindings} (hbound : b.size ≤ b.capacity) {origin : String}
    (hmem : origin ∈ b.entries.map (·.1)) (tab : Int64) (origin' : String) :
    (b.record origin tab).tab? origin' = if origin' = origin then some tab else b.tab? origin' := by
  by_cases heq : origin' = origin
  · rw [if_pos heq, heq]
    exact tab?_record_self b origin tab
  -- Where the look-up goes past the new entry, the one that was dropped would not have been found
  -- either.
  · have hskip : ((b.entries.filter fun entry => entry.1 ≠ origin).find? fun entry =>
        entry.1 = origin') = b.entries.find? fun entry => entry.1 = origin' := by
      rw [List.find?_filter]
      congr 1
      funext entry
      by_cases he : entry.1 = origin'
      · simp [he, heq]
      · simp [he]
    rw [if_neg heq, tab?, entries_record hbound, if_pos hmem,
      List.find?_cons_of_neg (by simpa using Ne.symm heq), hskip]
    rfl

/-- The bindings after any uses of a store of any capacity, where zero counts as one. The origins
that are kept are the first of all recorded ones in order of their latest records, the latest first,
as many as the capacity allows, and each is bound to the tab of its latest record. So much is read
of them: the tab of an origin that is kept and none of any other, their number, and whether nothing
was ever recorded. To record an origin that is kept again changes its tab and drops nothing; to
record another puts it first and drops the last one only if there is no place left. And readings
change no later answer: uses with the same records, whatever is read between them, are followed by
the same replies. -/
theorem uses_meet_records (capacity : Nat) (uses : List Use) :
    let b := (empty capacity).afterUses uses
    let records := recordsOf uses
    ∃ origins : List String, (∀ l, LatestFirst records l ↔ l = origins) ∧
      let kept := origins.take (max capacity 1)
      (b.entries.map (·.1) = kept ∧ ∀ e ∈ b.entries, lastTab? records e.1 = some e.2) ∧
      (∀ origin, b.tab? origin = if origin ∈ kept then lastTab? records origin else none) ∧
      b.size = min (max capacity 1) (records.map (·.1)).toFinset.card ∧
      (b.isEmpty = true ↔ records = []) ∧
      (∀ origin tab, origin ∈ kept → (b.record origin tab).size = b.size ∧ ∀ origin',
        (b.record origin tab).tab? origin' =
          if origin' = origin then some tab else b.tab? origin') ∧
      (∀ origin tab, origin ∉ kept → (b.record origin tab).entries =
        (origin, tab) :: if b.size < max capacity 1 then b.entries else b.entries.dropLast) ∧
      (∀ later, (empty capacity).replies (uses ++ later) =
        (empty capacity).replies uses ++ b.replies later) ∧
      ∀ uses', recordsOf uses' = records → ∀ later,
        ((empty capacity).afterUses uses').replies later = b.replies later := by
  intro b records
  -- Look-ups leave the store as it is, so all is said of the records among the uses.
  have hb : b = (empty capacity).recordAll records := afterUses_eq _ uses
  have hcapacity : b.capacity = max capacity 1 := by
    rw [hb, capacity_recordAll]
    rfl
  have hbound : b.size ≤ b.capacity := by
    rw [hb]
    exact size_recordAll_le capacity records
  have hsize : b.size = min (max capacity 1) (records.map (·.1)).toFinset.card := by
    rw [hb]
    exact size_recordAll capacity records
  have horigins : b.entries.map (·.1) =
      ((latest records).map (·.1)).take (max capacity 1) := by
    rw [hb, entries_recordAll, List.map_take]
  refine ⟨(latest records).map (·.1), latestFirst_iff records, ⟨horigins, fun e he => ?_⟩,
    fun origin => ?_, hsize, ?_, fun origin tab hkept => ⟨?_, ?_⟩, fun origin tab hkept => ?_,
    fun later => ?_, fun uses' hsame later => ?_⟩
  · rw [hb] at he
    exact lastTab?_of_mem he
  · rw [← horigins, hb]
    exact tab?_recordAll capacity records origin
  · rw [hb]
    exact isEmpty_recordAll capacity records
  · -- What is kept was recorded before.
    have hmore : b.record origin tab = (empty capacity).recordAll (records ++ [(origin, tab)]) := by
      rw [recordAll_append, ← hb]
      rfl
    have hrecorded : origin ∈ records.map (·.1) :=
      (mem_origins_latest records origin).1 (List.mem_of_mem_take hkept)
    rw [hmore, size_recordAll_concat capacity hrecorded, ← hb]
  · rw [← horigins] at hkept
    exact tab?_record_of_bound hbound hkept tab
  -- A new origin finds either a place or a full store.
  · rw [← horigins] at hkept
    rw [entries_record hbound, if_neg hkept, hcapacity]
    split
    · rfl
    · rfl
  · exact replies_append _ uses later
  -- The store is fixed by the records, so the uses behind them cannot tell how it came about.
  · rw [afterUses_eq, hsame, ← hb]

end WalletGate.Port.Bindings
