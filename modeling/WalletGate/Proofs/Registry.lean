import Mathlib.Data.List.Sort
import WalletGate.Rpc.Local
/-!
# Method tables and their handlers

Of the handlers in a table, a method has the first one that claims it, in the order of the groups
and then within a group.

* `find?_register`: what one more handler adds to a table;
* `find?_ofGroups`: the handler of a method in the table of some groups;
* `find?_ofGroups_append`: what further groups add to the table of some groups;
* `Claimed`, `ClaimsFirst`: who claims a method, said of the groups alone;
* `ofGroups_keeps_first`: all that a table tells, in terms of who claims what.
-/

namespace WalletGate.Rpc.Methods

/-- A claim changes nothing but the handler of its method, and that only if there was none. -/
theorem find?_claim (h : Handler) (m : Methods) (claimed method : String) :
    (claim h m claimed).find? method =
      (m.find? method).or (if method = claimed then some h else none) := by
  unfold claim
  split
  · -- The claimed method is taken and keeps its handler.
    rename_i htaken
    by_cases hsame : method = claimed
    · obtain ⟨taken, htaken⟩ := Option.isSome_iff_exists.1 htaken
      have hfind : m.find? method = some taken := by rw [hsame]; exact htaken
      simp [hfind]
    · simp [hsame]
  · -- It is free, and a look-up sees what was put.
    rename_i hfree
    have hput : find? ⟨m.table.put claimed h⟩ method =
        if method = claimed then some h else m.find? method :=
      Dict.find?_put m.table claimed method h
    rw [hput]
    by_cases hsame : method = claimed
    · have hnone : m.find? method = none := by
        rw [hsame]
        exact Option.not_isSome_iff_eq_none.1 hfree
      rw [if_pos hsame, if_pos hsame, hnone, Option.none_or]
    · simp [hsame]

theorem find?_register (m : Methods) (h : Handler) (method : String) :
    (m.register h).find? method =
      (m.find? method).or (if method ∈ h.methods then some h else none) := by
  unfold register
  generalize h.methods = claimed
  induction claimed generalizing m with
  | nil => simp
  | cons first rest ih =>
    rw [List.foldl_cons, ih, find?_claim, Option.or_assoc]
    by_cases hfirst : method = first
    · simp [hfirst]
    · simp [hfirst]

/-- A method has the first handler that claims it. -/
theorem find?_ofGroups (groups : List (List Handler)) (method : String) :
    (ofGroups groups).find? method = groups.flatten.find? fun h => method ∈ h.methods := by
  -- Induction on the handlers, for any table that they are registered in.
  have hfold : ∀ (handlers : List Handler) (m : Methods),
      (handlers.foldl register m).find? method =
        (m.find? method).or (handlers.find? fun h => method ∈ h.methods) := by
    intro handlers
    induction handlers with
    | nil => simp
    | cons h rest ih =>
      intro m
      rw [List.foldl_cons, ih, find?_register, Option.or_assoc]
      by_cases hclaims : method ∈ h.methods
      · simp [hclaims]
      · simp [hclaims]
  have hempty : find? ⟨∅⟩ method = none := rfl
  rw [ofGroups, hfold, hempty, Option.none_or]

theorem mem_own_of_find? {method : String} {h : Handler}
    (hfind : (hosting []).find? method = some h) : h ∈ ownHandlers := by
  unfold hosting at hfind
  rw [find?_ofGroups] at hfind
  simpa using List.mem_of_find?_eq_some hfind

/-- A method is found only with a handler that claims it. -/
theorem mem_methods_of_find? {method : String} {h : Handler}
    (hfind : (hosting []).find? method = some h) : method ∈ h.methods := by
  unfold hosting at hfind
  rw [find?_ofGroups] at hfind
  simpa using List.find?_some hfind

/-! ## Who claims a method -/

/-- Some handler of the groups claims the method. -/
def Claimed (groups : List (List Handler)) (method : String) : Prop :=
  ∃ group ∈ groups, ∃ h ∈ group, method ∈ h.methods

/-- The handler claims the method, and no handler does that is in an earlier group or before it in
its own group. -/
def ClaimsFirst (groups : List (List Handler)) (method : String) (h : Handler) : Prop :=
  method ∈ h.methods ∧ ∃ earlier before after later,
    groups = earlier ++ (before ++ h :: after) :: later ∧ ¬Claimed (earlier ++ [before]) method

theorem claimed_append_iff (groups more : List (List Handler)) (method : String) :
    Claimed (groups ++ more) method ↔ Claimed groups method ∨ Claimed more method := by
  unfold Claimed
  constructor
  · rintro ⟨group, hgroup, h, hh, hmethod⟩
    rcases List.mem_append.1 hgroup with hgroup | hgroup
    · exact .inl ⟨group, hgroup, h, hh, hmethod⟩
    · exact .inr ⟨group, hgroup, h, hh, hmethod⟩
  · rintro (⟨group, hgroup, h⟩ | ⟨group, hgroup, h⟩)
    · exact ⟨group, List.mem_append_left _ hgroup, h⟩
    · exact ⟨group, List.mem_append_right _ hgroup, h⟩

/-- Nobody claims a method if nobody does in the groups, member by member. -/
theorem not_claimed_iff (groups : List (List Handler)) (method : String) :
    ¬Claimed groups method ↔ ∀ group ∈ groups, ∀ h ∈ group, method ∉ h.methods := by
  unfold Claimed
  push Not
  rfl

theorem not_claimed_concat_iff (earlier : List (List Handler)) (before : List Handler)
    (method : String) :
    ¬Claimed (earlier ++ [before]) method ↔
      (∀ group ∈ earlier, ∀ h ∈ group, method ∉ h.methods) ∧
        ∀ h ∈ before, method ∉ h.methods := by
  rw [claimed_append_iff, not_or, not_claimed_iff, not_claimed_iff]
  simp only [List.forall_mem_singleton]

theorem find?_ofGroups_eq_some_iff (groups : List (List Handler)) (method : String) (h : Handler) :
    (ofGroups groups).find? method = some h ↔ ClaimsFirst groups method h := by
  rw [find?_ofGroups, List.find?_flatten_eq_some_iff]
  unfold ClaimsFirst
  simp only [not_claimed_concat_iff, decide_eq_true_eq, Bool.not_eq_true', decide_eq_false_iff_not]

theorem find?_ofGroups_eq_none_iff (groups : List (List Handler)) (method : String) :
    (ofGroups groups).find? method = none ↔ ¬Claimed groups method := by
  rw [find?_ofGroups, List.find?_flatten_eq_none_iff, not_claimed_iff]
  simp only [Bool.not_eq_true', decide_eq_false_iff_not]

/-- Further groups answer to what the first ones leave to them. -/
theorem find?_ofGroups_append (groups more : List (List Handler)) (method : String) :
    (ofGroups (groups ++ more)).find? method =
      ((ofGroups groups).find? method).or ((ofGroups more).find? method) := by
  rw [find?_ofGroups, find?_ofGroups, find?_ofGroups, List.flatten_append, List.find?_append]

/-! ## Tables as a whole -/

/-- Tables with the same handlers are equal. -/
theorem ext_find? {m m' : Methods} (hsame : ∀ method, m.find? method = m'.find? method) :
    m = m' := by
  have htable : m.table = m'.table := Dict.ext_find? hsame
  cases m
  cases m'
  cases htable
  rfl

/-- Handlers that claim nothing make no difference to a table. -/
theorem ofGroups_filter (groups : List (List Handler)) :
    ofGroups (groups.map fun group => group.filter (·.methods ≠ [])) = ofGroups groups := by
  refine ext_find? fun method => ?_
  rw [find?_ofGroups, find?_ofGroups, ← List.filter_flatten, List.find?_filter]
  -- A handler that claims the method claims something.
  have hclaims : ∀ h : Handler, method ∈ h.methods → h.methods ≠ [] := by
    intro h hmethod hnil
    rw [hnil] at hmethod
    exact List.not_mem_nil hmethod
  congr 1
  funext h
  rw [decide_eq_decide, decide_eq_true_iff, decide_eq_true_iff]
  constructor
  · rintro ⟨-, hmethod⟩
    exact hmethod
  · intro hmethod
    exact ⟨hclaims h hmethod, hmethod⟩

theorem mem_names_ofGroups_iff (groups : List (List Handler)) (method : String) :
    method ∈ (ofGroups groups).names ↔ Claimed groups method := by
  have hcontains : method ∈ (ofGroups groups).names ↔
      ((ofGroups groups).find? method).isSome = true :=
    Dict.mem_keys_iff (ofGroups groups).table method
  rw [hcontains, ← not_iff_not, ← find?_ofGroups_eq_none_iff, Option.not_isSome_iff_eq_none]

/-- The names of a table are the one strictly increasing list of the methods that are claimed. -/
theorem eq_names_ofGroups_iff (groups : List (List Handler)) (names : List String) :
    names = (ofGroups groups).names ↔
      names.Pairwise (· < ·) ∧ ∀ method, method ∈ names ↔ Claimed groups method := by
  have hincreasing : (ofGroups groups).names.Pairwise (· < ·) :=
    Dict.pairwise_keys (ofGroups groups).table
  constructor
  · rintro rfl
    exact ⟨hincreasing, mem_names_ofGroups_iff groups⟩
  · rintro ⟨hpairwise, hmem⟩
    refine hpairwise.eq_of_mem_iff hincreasing fun method => ?_
    rw [hmem, mem_names_ofGroups_iff]

/-- What the table of some groups tells. A method has the handler that claims it first, in the order
of the groups and then within its group, and none if nobody claims it. Of the methods of a handler,
those that are claimed before it stay where they were, and all others are its own, also if it has
lost some. Handlers that claim nothing make no difference. The names are the strictly increasing
list of all methods that are claimed; the size is their number, and a method is contained if it has
a handler. Further groups are asked only where the first ones have no handler. -/
theorem ofGroups_keeps_first (groups : List (List Handler)) :
    (∀ method h, (ofGroups groups).find? method = some h ↔ ClaimsFirst groups method h) ∧
    (∀ method, (ofGroups groups).find? method = none ↔ ¬Claimed groups method) ∧
    (∀ earlier before h after later, groups = earlier ++ (before ++ h :: after) :: later →
      ∀ method ∈ h.methods, (ofGroups groups).find? method =
        some (((ofGroups (earlier ++ [before])).find? method).getD h)) ∧
    ofGroups (groups.map fun group => group.filter (·.methods ≠ [])) = ofGroups groups ∧
    (∀ names, names = (ofGroups groups).names ↔
      names.Pairwise (· < ·) ∧ ∀ method, method ∈ names ↔ Claimed groups method) ∧
    (ofGroups groups).size = (ofGroups groups).names.length ∧
    (∀ method, (ofGroups groups).contains method = ((ofGroups groups).find? method).isSome) ∧
    ∀ more method, (ofGroups (groups ++ more)).find? method =
      ((ofGroups groups).find? method).or ((ofGroups more).find? method) := by
  refine ⟨find?_ofGroups_eq_some_iff groups, find?_ofGroups_eq_none_iff groups, ?_,
    ofGroups_filter groups, eq_names_ofGroups_iff groups, ?_, fun method => rfl,
    find?_ofGroups_append groups⟩
  · intro earlier before h after later hsplit method hmethod
    -- The handlers are those before it, itself and those after it.
    have hflatten : groups.flatten =
        (earlier ++ [before]).flatten ++ h :: (after ++ later.flatten) := by
      rw [hsplit]
      simp
    rw [find?_ofGroups, find?_ofGroups, hflatten, List.find?_append,
      List.find?_cons_of_pos (by simpa using hmethod), Option.or_some]
  · exact (Dict.length_keys (ofGroups groups).table).symm

-- The second handler loses one of its methods and keeps the other.
example (first second : Request → Option HookSet → Program) :
    ["bar", "foo"].map
        (ofGroups [[⟨["foo"], none, first⟩], [⟨["foo", "bar"], none, second⟩]]).find? =
      [some ⟨["foo", "bar"], none, second⟩, some ⟨["foo"], none, first⟩] := by
  rfl

end WalletGate.Rpc.Methods
