import Mathlib.Data.Finset.Card
import Mathlib.Data.List.Induction
import WalletGate.Port.Bindings
/-!
# Bindings and what was recorded

The bindings after any records are the latest record of each origin, latest first, cut off at the
capacity.

* `entries_recordAll`: that equation, for every capacity and all records;
* `find?_latest`: what is kept of one origin depends on the records of that origin alone;
* `tab?_recordAll_of_card_le`: so does its binding, as long as no record has been dropped.
-/

namespace WalletGate.Port.Bindings

/-! ## The latest records -/

/-- Records one binding after the other. -/
def recordAll (b : Bindings) (records : List (String × Int64)) : Bindings :=
  records.foldl (fun b r => b.record r.1 r.2) b

/-- The latest record of each origin, latest first, however many origins there are. -/
def latest (records : List (String × Int64)) : List (String × Int64) :=
  records.foldl (fun kept r => r :: kept.filter fun entry => entry.1 ≠ r.1) []

@[simp] theorem recordAll_nil (b : Bindings) : b.recordAll [] = b := rfl

theorem recordAll_append (b : Bindings) (records later : List (String × Int64)) :
    b.recordAll (records ++ later) = (b.recordAll records).recordAll later := by
  simp [recordAll]

theorem latest_concat (records : List (String × Int64)) (r : String × Int64) :
    latest (records ++ [r]) = r :: (latest records).filter fun entry => entry.1 ≠ r.1 := by
  simp [latest]

theorem pairwise_latest (records : List (String × Int64)) :
    (latest records).Pairwise fun a b => a.1 ≠ b.1 := by
  induction records using List.reverseRecOn with
  | nil => exact List.Pairwise.nil
  | append_singleton records r ih =>
    rw [latest_concat]
    -- The new record comes first, and no older one of its origin is left.
    refine List.pairwise_cons.2 ⟨fun x hx => ?_, ih.filter _⟩
    have hne : x.1 ≠ r.1 := by simpa using (List.mem_filter.1 hx).2
    exact hne.symm

/-- Every origin that was recorded has a latest record. -/
theorem mem_origins_latest (records : List (String × Int64)) (origin : String) :
    origin ∈ (latest records).map (·.1) ↔ origin ∈ records.map (·.1) := by
  -- By induction on the records, the last of which is the newest.
  induction records using List.reverseRecOn with
  | nil => rfl
  | append_singleton records r ih =>
    rw [latest_concat, List.map_append, List.mem_append, ← ih]
    by_cases h : origin = r.1
    · simp [h]
    · -- Removing one origin leaves the others.
      have hkept : origin ∈ ((latest records).filter fun entry => entry.1 ≠ r.1).map (·.1) ↔
          origin ∈ (latest records).map (·.1) := by
        simp only [List.mem_map, List.mem_filter, decide_eq_true_eq]
        constructor
        · rintro ⟨x, ⟨hx, _⟩, rfl⟩
          exact ⟨x, hx, rfl⟩
        · rintro ⟨x, hx, rfl⟩
          exact ⟨x, ⟨hx, h⟩, rfl⟩
      simp [h, ← hkept]

theorem length_latest (records : List (String × Int64)) :
    (latest records).length = (records.map (·.1)).toFinset.card := by
  have hnodup : ((latest records).map (·.1)).Nodup := List.pairwise_map.2 (pairwise_latest records)
  have hsame : ((latest records).map (·.1)).toFinset = (records.map (·.1)).toFinset := by
    ext origin
    rw [List.mem_toFinset, List.mem_toFinset, mem_origins_latest]
  rw [← hsame, List.toFinset_card_of_nodup hnodup, List.length_map]

/-- What is kept of an origin is the last of its own records. -/
theorem find?_latest (records : List (String × Int64)) (origin : String) :
    ((latest records).find? fun entry => entry.1 = origin) =
      (records.filter fun r => r.1 = origin).getLast? := by
  induction records using List.reverseRecOn with
  | nil => rfl
  | append_singleton records r ih =>
    rw [latest_concat]
    by_cases h : r.1 = origin
    · simp [h]
    · -- A record of another origin neither hides the entry of this one nor removes it.
      have hskip : ((latest records).filter fun entry => entry.1 ≠ r.1).find?
          (fun entry => entry.1 = origin) =
        (latest records).find? fun entry => entry.1 = origin := by
        rw [List.find?_filter]
        congr 1
        funext entry
        by_cases he : entry.1 = origin
        · simp [he, Ne.symm h]
        · simp [he]
      have hlast : ((records ++ [r]).filter fun r => r.1 = origin) =
          records.filter fun r => r.1 = origin := by
        simp [h]
      rw [List.find?_cons_of_neg (by simpa using h), hskip, hlast, ih]

/-- Where every origin has one entry, the entry is found under its origin. -/
theorem find?_of_mem {entries : List (String × Int64)}
    (hdistinct : entries.Pairwise fun x y => x.1 ≠ y.1) {r : String × Int64} (hr : r ∈ entries) :
    (entries.find? fun entry => entry.1 = r.1) = some r := by
  induction entries with
  | nil => cases hr
  | cons e rest ih =>
    obtain ⟨hhead, hrest⟩ := List.pairwise_cons.1 hdistinct
    rcases List.mem_cons.1 hr with rfl | hlater
    · exact List.find?_cons_of_pos (by simp)
    · rw [List.find?_cons_of_neg (by simpa using hhead r hlater)]
      exact ih hrest hlater

/-- Where every origin has one entry, the tab of an entry is the tab of its origin. -/
theorem tab?_of_mem {b : Bindings} (hdistinct : b.entries.Pairwise fun x y => x.1 ≠ y.1)
    {r : String × Int64} (hr : r ∈ b.entries) : b.tab? r.1 = some r.2 := by
  rw [tab?, find?_of_mem hdistinct hr]
  rfl

/-! ## The capacity -/

/-- Removing an origin from more entries than are kept makes room for one: the entry that was beyond
the bound comes in only if one went out before it. -/
theorem take_filter_take {entries : List (String × Int64)}
    (hdistinct : entries.Pairwise fun a b => a.1 ≠ b.1) (origin : String) (n : Nat) :
    ((entries.take (n + 1)).filter fun entry => entry.1 ≠ origin).take n =
      (entries.filter fun entry => entry.1 ≠ origin).take n := by
  -- By induction on the entries, for any number of places.
  induction entries generalizing n with
  | nil => simp
  | cons e rest ih =>
    obtain ⟨hhead, hrest⟩ := List.pairwise_cons.1 hdistinct
    by_cases he : e.1 = origin
    · -- The first entry goes, and being the only one of its origin it makes room for one more.
      have hothers : ∀ x ∈ rest, decide (x.1 ≠ origin) = true := by
        intro x hx
        have hne : e.1 ≠ x.1 := hhead x hx
        simpa [← he] using hne.symm
      have hfirst : ((rest.take n).filter fun entry => entry.1 ≠ origin) = rest.take n :=
        List.filter_eq_self.2 fun x hx => hothers x (List.mem_of_mem_take hx)
      have hall : (rest.filter fun entry => entry.1 ≠ origin) = rest :=
        List.filter_eq_self.2 hothers
      rw [List.take_succ_cons, List.filter_cons_of_neg (by simp [he]),
        List.filter_cons_of_neg (by simp [he]), hfirst, hall, List.take_take, Nat.min_self]
    · -- The first entry stays on both sides; the claim for the rest has one place less.
      rw [List.take_succ_cons, List.filter_cons_of_pos (by simp [he]),
        List.filter_cons_of_pos (by simp [he])]
      cases n with
      | zero => rfl
      | succ k => rw [List.take_succ_cons, List.take_succ_cons, ih hrest]

theorem capacity_recordAll (b : Bindings) (records : List (String × Int64)) :
    (b.recordAll records).capacity = b.capacity := by
  induction records generalizing b with
  | nil => rfl
  | cons r rest ih => exact ih (b.record r.1 r.2)

/-- The bindings are the latest records, as many as the capacity allows. -/
theorem entries_recordAll (capacity : Nat) (records : List (String × Int64)) :
    ((empty capacity).recordAll records).entries = (latest records).take (max capacity 1) := by
  induction records using List.reverseRecOn with
  | nil => simp [empty, latest]
  | append_singleton records r ih =>
    -- At least one binding is kept, which is the new one.
    obtain ⟨n, hn⟩ : ∃ n, max capacity 1 = n + 1 := ⟨max capacity 1 - 1, by omega⟩
    have hcapacity : ((empty capacity).recordAll records).capacity = n + 1 :=
      (capacity_recordAll _ records).trans hn
    have hrecord : ((empty capacity).recordAll (records ++ [r])).entries =
        (r :: ((empty capacity).recordAll records).entries.filter fun entry => entry.1 ≠ r.1).take
          (n + 1) := by
      rw [recordAll_append, ← hcapacity]
      rfl
    rw [hrecord, latest_concat, ih, hn, List.take_succ_cons, List.take_succ_cons,
      take_filter_take (pairwise_latest records)]

/-- Records leave one entry for each origin. -/
theorem pairwise_entries_recordAll (capacity : Nat) (records : List (String × Int64)) :
    ((empty capacity).recordAll records).entries.Pairwise fun x y => x.1 ≠ y.1 := by
  rw [entries_recordAll]
  exact (pairwise_latest records).sublist (List.take_sublist _ _)

/-- What was just recorded can be looked up, whatever the capacity. -/
theorem tab?_record_self (b : Bindings) (origin : String) (tab : Int64) :
    (b.record origin tab).tab? origin = some tab := by
  obtain ⟨n, hn⟩ : ∃ n, b.capacity = n + 1 := ⟨b.capacity - 1, by have := b.capacity_pos; omega⟩
  simp [record, tab?, hn]

/-- As long as no more origins were recorded than are kept, an origin is bound to the tab of the
last of its own records. -/
theorem tab?_recordAll_of_card_le {capacity : Nat} {records : List (String × Int64)}
    (hroom : (records.map (·.1)).toFinset.card ≤ max capacity 1) (origin : String) :
    ((empty capacity).recordAll records).tab? origin =
      (records.filter fun r => r.1 = origin).getLast?.map (·.2) := by
  unfold tab?
  rw [entries_recordAll, List.take_of_length_le (by rwa [length_latest]), find?_latest]

end WalletGate.Port.Bindings
