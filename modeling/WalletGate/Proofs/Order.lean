import WalletGate.Wallet.Order
/-!
# Accounts in order of time

The order of some accounts is fixed by their times alone: the latest first, those that have no time
last, and those of one time as they stood. There is an order unless nothing is known of an account.

* `ByTime`: what it is for a list to be the order of some accounts, said without sorting;
* `order_byTime`: accounts of which something is known have an order, and it is that;
* `order_eq_error_iff`: otherwise the first account that nothing is known of is reported;
* `order_congr`: nothing else that is known of the accounts has a part in it;
* `ByTime.unique`: no two lists are the order of the same accounts;
* `transCmp_compareTimes`: times are compared by a total order, which is all that sorting asks for;
* `order_stable`: the order of any accounts, or the fault, and that an ordered list stays as it is.
-/

namespace WalletGate.Wallet

/-! ## Times -/

/-- The order of times has no time below every time. -/
theorem mayPrecede_iff (a b : Option Int64) : mayPrecede a b = true ↔ b ≤ a := by
  cases a with
  | none => cases b <;> simp [mayPrecede]
  | some a => cases b <;> simp [mayPrecede]

theorem time_le_antisymm {a b : Option Int64} (hab : a ≤ b) (hba : b ≤ a) : a = b := by
  cases a with
  | none => cases b <;> simp_all
  | some a =>
    cases b with
    | none => simp at hab
    | some b => exact congrArg some (Int64.le_antisymm (by simpa using hab) (by simpa using hba))

theorem mayPrecede_trans (a b c : Option Int64) (hab : mayPrecede a b = true)
    (hbc : mayPrecede b c = true) : mayPrecede a c = true := by
  cases a <;> cases b <;> cases c <;> simp_all [mayPrecede]
  exact Int64.le_trans hbc hab

theorem mayPrecede_total (a b : Option Int64) : (mayPrecede a b || mayPrecede b a) = true := by
  cases a <;> cases b <;> simp [mayPrecede]
  exact Int64.le_total ..

theorem mayPrecede_self (a : Option Int64) : mayPrecede a a = true :=
  (Bool.or_self _).symm.trans (mayPrecede_total a a)

/-- How two times compare where accounts are sorted: the later one is first, and no time is behind
every time. -/
def compareTimes (a b : Option Int64) : Ordering :=
  if a = b then .eq
  else match a, b with
    | none, some _ => .gt
    | some _, none => .lt
    | some a, some b => compare b a
    | none, none => .eq

/-- The cases overlap, but they come to one order: the usual one of optional times, reversed. -/
theorem compareTimes_eq_compare (a b : Option Int64) : compareTimes a b = compare b a := by
  unfold compareTimes
  by_cases heq : a = b
  · rw [if_pos heq, heq]
    exact Std.ReflCmp.compare_self.symm
  · rw [if_neg heq]
    cases a with
    | none => cases b <;> rfl
    | some a => cases b <;> rfl

/-- An account may stand before another exactly if it does not compare as the later in the list. -/
theorem mayPrecede_eq_isLE (a b : Option Int64) : mayPrecede a b = (compareTimes a b).isLE := by
  rw [compareTimes_eq_compare]
  cases a with
  | none => cases b <;> rfl
  | some a =>
    cases b with
    | none => rfl
    | some b =>
      have hcompare : compare (some b) (some a) = compare b a := rfl
      rw [hcompare, Bool.eq_iff_iff, Std.isLE_compare]
      simp [mayPrecede]

theorem compareTimes_eq_opposite : compareTimes = fun a b => compare b a := by
  funext a b
  exact compareTimes_eq_compare a b

theorem transCmp_compareTimes : Std.TransCmp compareTimes := by
  rw [compareTimes_eq_opposite]
  exact Std.TransCmp.opposite

theorem lawfulEqCmp_compareTimes : Std.LawfulEqCmp compareTimes := by
  rw [compareTimes_eq_opposite]
  exact Std.LawfulEqCmp.opposite

/-- What is known of the time of an account: nothing if nothing is known of the account. -/
def time? (identities : Dict Identity) (address : String) : Option (Option Int64) :=
  (identities.find? address).map (·.lastSelected)

/-- The time of an account, if it has one. -/
def timeOf (identities : Dict Identity) (address : String) : Option Int64 :=
  (time? identities address).join

theorem times_cons (identities : Dict Identity) (address : String) (rest : List String) :
    times identities (address :: rest) =
      match time? identities address with
      | none => .error address
      | some time => (times identities rest).map ((time, address) :: ·) := by
  unfold time?
  rw [times]
  cases identities.find? address with
  | none => rfl
  | some x => rfl

/-- Accounts of which something is known are put beside their times. -/
theorem times_eq_ok {identities : Dict Identity} {accounts : List String}
    (hknown : ∀ a ∈ accounts, time? identities a ≠ none) :
    times identities accounts = .ok (accounts.map fun a => (timeOf identities a, a)) := by
  induction accounts with
  | nil => rfl
  | cons a rest ih =>
    obtain ⟨time, htime⟩ := Option.ne_none_iff_exists'.1 (hknown a (by simp))
    have hrest := ih fun x hx => hknown x (by simp [hx])
    have htimeOf : timeOf identities a = time := by
      unfold timeOf
      rw [htime]
      rfl
    rw [times_cons, htime, hrest, List.map_cons, htimeOf]
    rfl

theorem times_eq_error_iff (identities : Dict Identity) (accounts : List String)
    (address : String) : times identities accounts = .error address ↔
      (accounts.find? fun a => (time? identities a).isNone) = some address := by
  induction accounts with
  | nil => simp [times]
  | cons a rest ih =>
    rw [times_cons]
    cases htime : time? identities a with
    | none => simp [htime]
    | some time =>
      -- What comes of the rest is what comes of the whole.
      have hmap : (times identities rest).map ((time, a) :: ·) = .error address ↔
          times identities rest = .error address := by
        cases times identities rest <;> simp [Except.map]
      simp only [hmap, ih, htime, Option.isNone_some, Bool.false_eq_true, not_false_eq_true,
        List.find?_cons_of_neg]

/-! ## Stable sorting -/

/-- Sorting leaves elements that may stand in any order as they stood. -/
theorem filter_mergeSort {α : Type} {le : α → α → Bool}
    (htrans : ∀ a b c, le a b = true → le b c = true → le a c = true)
    (htotal : ∀ a b, (le a b || le b a) = true) {p : α → Bool}
    (hp : ∀ a b, p a = true → p b = true → le a b = true) (l : List α) :
    (l.mergeSort le).filter p = l.filter p := by
  have hpairwise : (l.filter p).Pairwise fun a b => le a b = true := by
    rw [List.pairwise_filter]
    exact List.pairwise_of_forall hp
  -- They are in order as they stand, so they keep their places among each other.
  have hsub : (l.filter p).Sublist (l.mergeSort le) :=
    List.sublist_mergeSort htrans htotal hpairwise List.filter_sublist
  -- So they are a part of the sorted ones of their kind, and there are no more of these.
  have hkept : (l.filter p).Sublist ((l.mergeSort le).filter p) := by
    have hfiltered := hsub.filter p
    rwa [List.filter_filter, List.filter_congr (fun a _ => Bool.and_self (p a))] at hfiltered
  have hlength : (l.filter p).length = ((l.mergeSort le).filter p).length :=
    ((List.mergeSort_perm l le).filter p).length_eq.symm
  exact (hkept.eq_of_length hlength).symm

/-! ## The order -/

/-- The accounts in order of time: the latest first, those without a time last, and those of one
time as they stood. -/
structure ByTime (time : String → Option Int64) (accounts ordered : List String) : Prop where
  perm : ordered.Perm accounts
  latest_first : ordered.Pairwise fun a b => time b ≤ time a
  ties : ∀ t, (ordered.filter fun a => time a = t) = accounts.filter fun a => time a = t

/-- The order is about the times of the accounts in it alone. -/
theorem ByTime.congr {time time' : String → Option Int64} {accounts ordered : List String}
    (h : ByTime time accounts ordered) (hsame : ∀ a ∈ accounts, time a = time' a) :
    ByTime time' accounts ordered := by
  have hsame' : ∀ a ∈ ordered, time a = time' a := fun a ha => hsame a (h.perm.mem_iff.1 ha)
  refine ⟨h.perm, h.latest_first.imp_of_mem fun ha hb hab => ?_, fun t => ?_⟩
  · rw [← hsame' _ ha, ← hsame' _ hb]
    exact hab
  · have hordered : (ordered.filter fun a => time' a = t) = ordered.filter fun a => time a = t :=
      List.filter_congr fun a ha => by rw [hsame' a ha]
    have haccounts : (accounts.filter fun a => time' a = t) = accounts.filter fun a => time a = t :=
      List.filter_congr fun a ha => by rw [hsame a ha]
    rw [hordered, haccounts]
    exact h.ties t

/-- Of two lists in order of time, the first account of one is no earlier than that of the other. -/
theorem le_of_heads {time : String → Option Int64} {a b : String} {rest rest' : List String}
    (hordered : (b :: rest').Pairwise fun x y => time y ≤ time x)
    (hties : ∀ t,
      ((a :: rest).filter fun x => time x = t) = (b :: rest').filter fun x => time x = t) :
    time a ≤ time b := by
  have hmem : a ∈ (b :: rest').filter fun x => time x = time a := by
    rw [← hties, List.mem_filter]
    simp
  rcases List.mem_cons.1 (List.mem_filter.1 hmem).1 with heq | hrest
  · rw [heq]
    exact (mayPrecede_iff _ _).1 (mayPrecede_self _)
  · exact (List.pairwise_cons.1 hordered).1 a hrest

/-- A list in order of time is determined by its accounts of each time, as they stand. -/
theorem eq_of_ties {time : String → Option Int64} {l l' : List String}
    (hordered : l.Pairwise fun a b => time b ≤ time a)
    (hordered' : l'.Pairwise fun a b => time b ≤ time a)
    (hties : ∀ t, (l.filter fun a => time a = t) = l'.filter fun a => time a = t) : l = l' := by
  -- By induction on the one list, with the other general; both are in order, so their heads can be
  -- compared.
  induction l generalizing l' with
  | nil =>
    cases l' with
    | nil => rfl
    | cons b rest' =>
      have hempty := hties (time b)
      simp at hempty
  | cons a rest ih =>
    cases l' with
    | nil =>
      have hempty := hties (time a)
      simp at hempty
    | cons b rest' =>
      -- The two first accounts have one time, so they are first among the accounts of that time.
      have htime : time a = time b :=
        time_le_antisymm (le_of_heads hordered' hties)
          (le_of_heads hordered fun t => (hties t).symm)
      have hfirst := hties (time a)
      rw [List.filter_cons_of_pos (by simp), List.filter_cons_of_pos (by simp [htime])] at hfirst
      obtain ⟨hhead, hsame⟩ := List.cons.inj hfirst
      have hrest : rest = rest' := by
        refine ih (List.pairwise_cons.1 hordered).2 (List.pairwise_cons.1 hordered').2 fun t => ?_
        by_cases ht : time a = t
        · rw [← ht]
          exact hsame
        · have hother := hties t
          rwa [List.filter_cons_of_neg (by simp [ht]),
            List.filter_cons_of_neg (by simp [← htime, ht])] at hother
      rw [hhead, hrest]

/-- The accounts have one order. -/
theorem ByTime.unique {time : String → Option Int64} {accounts ordered ordered' : List String}
    (h : ByTime time accounts ordered) (h' : ByTime time accounts ordered') : ordered = ordered' :=
  eq_of_ties h.latest_first h'.latest_first fun t => (h.ties t).trans (h'.ties t).symm

theorem ByTime.iff_eq {time : String → Option Int64} {accounts ordered : List String}
    (h : ByTime time accounts ordered) (l : List String) :
    ByTime time accounts l ↔ l = ordered := by
  constructor
  · intro hl
    exact hl.unique h
  · rintro rfl
    exact h

/-- Accounts that are in order are their own order. -/
theorem ByTime.self {time : String → Option Int64} {accounts ordered : List String}
    (h : ByTime time accounts ordered) : ByTime time ordered ordered :=
  ⟨List.Perm.refl _, h.latest_first, fun _ => rfl⟩

/-- Accounts of which something is known are sorted by their times. -/
theorem order_eq_mergeSort {identities : Dict Identity} {accounts : List String}
    (hknown : ∀ a ∈ accounts, time? identities a ≠ none) :
    order accounts identities = .ok (accounts.mergeSort fun a b =>
      mayPrecede (timeOf identities a) (timeOf identities b)) := by
  unfold order
  rw [times_eq_ok hknown]
  -- The time beside an account is the time of the account, so the account alone can be sorted.
  have hmap := List.map_mergeSort (f := Prod.snd)
    (l := accounts.map fun a => (timeOf identities a, a))
    (r := fun a b => mayPrecede a.1 b.1)
    (s := fun a b => mayPrecede (timeOf identities a) (timeOf identities b)) (by
      intro a ha b hb
      obtain ⟨_, _, rfl⟩ := List.mem_map.1 ha
      obtain ⟨_, _, rfl⟩ := List.mem_map.1 hb
      rfl)
  have hsecond : (accounts.map fun a => (timeOf identities a, a)).map Prod.snd = accounts := by
    rw [List.map_map]
    exact List.map_id accounts
  rw [hsecond] at hmap
  exact congrArg Except.ok hmap

theorem byTime_mergeSort (time : String → Option Int64) (accounts : List String) :
    ByTime time accounts (accounts.mergeSort fun a b => mayPrecede (time a) (time b)) := by
  have htrans : ∀ a b c, mayPrecede (time a) (time b) = true →
      mayPrecede (time b) (time c) = true → mayPrecede (time a) (time c) = true :=
    fun a b c => mayPrecede_trans (time a) (time b) (time c)
  have htotal : ∀ a b, (mayPrecede (time a) (time b) || mayPrecede (time b) (time a)) = true :=
    fun a b => mayPrecede_total (time a) (time b)
  refine ⟨List.mergeSort_perm _ _, ?_, fun t => ?_⟩
  · refine (List.pairwise_mergeSort htrans htotal accounts).imp fun h => ?_
    exact (mayPrecede_iff _ _).1 h
  · refine filter_mergeSort htrans htotal (fun a b ha hb => ?_) accounts
    -- Accounts of one time may stand in any order.
    have hsame : time a = time b := (of_decide_eq_true ha).trans (of_decide_eq_true hb).symm
    rw [hsame]
    exact mayPrecede_self (time b)

theorem order_nil (identities : Dict Identity) : order [] identities = .ok [] := by
  simp [order, times, Except.map]

/-- Accounts of which something is known have an order. -/
theorem order_byTime {identities : Dict Identity} {accounts : List String}
    (hknown : ∀ a ∈ accounts, time? identities a ≠ none) :
    ∃ ordered, order accounts identities = .ok ordered ∧
      ByTime (timeOf identities) accounts ordered :=
  ⟨_, order_eq_mergeSort hknown, byTime_mergeSort (timeOf identities) accounts⟩

/-- There is no order exactly if nothing is known of an account, and the first such one is reported.
-/
theorem order_eq_error_iff (identities : Dict Identity) (accounts : List String)
    (address : String) : order accounts identities = .error address ↔
      (accounts.find? fun a => (time? identities a).isNone) = some address := by
  rw [← times_eq_error_iff]
  unfold order
  cases times identities accounts with
  | error a => simp [Except.map]
  | ok timed => simp [Except.map]

/-- The order depends on the times of the accounts alone. -/
theorem order_congr {identities identities' : Dict Identity} {accounts : List String}
    (hsame : ∀ a ∈ accounts, time? identities a = time? identities' a) :
    order accounts identities = order accounts identities' := by
  have htimes : times identities accounts = times identities' accounts := by
    induction accounts with
    | nil => rfl
    | cons a rest ih =>
      rw [times_cons, times_cons, hsame a (by simp), ih fun x hx => hsame x (by simp [hx])]
  unfold order
  rw [htimes]

theorem time?_eq_none_iff (identities : Dict Identity) (a : String) :
    time? identities a = none ↔ identities.find? a = none := Option.map_eq_none_iff

/-- If nothing is known of an account, some account is the first such one, and it is reported. -/
theorem order_of_unknown {identities : Dict Identity} {accounts : List String}
    (hunknown : ∃ a ∈ accounts, identities.find? a = none) :
    ∃ a, (accounts.find? fun a => (identities.find? a).isNone) = some a ∧
      order accounts identities = .error a := by
  obtain ⟨a, ha, hnone⟩ := hunknown
  cases hfirst : accounts.find? fun a => (identities.find? a).isNone with
  | none =>
    have hsome := List.find?_eq_none.1 hfirst a ha
    rw [hnone] at hsome
    exact absurd rfl hsome
  | some first =>
    refine ⟨first, rfl, (order_eq_error_iff identities accounts first).2 ?_⟩
    simp only [time?, Option.isNone_map]
    exact hfirst

/-- An order was found only if something is known of every account, and it is the order. -/
theorem byTime_of_order {identities : Dict Identity} {accounts ordered : List String}
    (h : order accounts identities = .ok ordered) :
    (∀ a ∈ accounts, time? identities a ≠ none) ∧
      ByTime (timeOf identities) accounts ordered := by
  have hknown : ∀ a ∈ accounts, time? identities a ≠ none := by
    intro a ha hnone
    obtain ⟨_, _, hreported⟩ := order_of_unknown ⟨a, ha, (time?_eq_none_iff identities a).1 hnone⟩
    rw [h] at hreported
    cases hreported
  obtain ⟨_, horder, hbyTime⟩ := order_byTime hknown
  rw [h] at horder
  cases horder
  exact ⟨hknown, hbyTime⟩

/-- Any accounts, repeated or not, and whatever is known of them. If nothing is known of one of
them, the first such account in the list is reported. Otherwise there is an order of them, and it is
the one list of these accounts in which the later time is first, no time is behind every time, and
accounts of one time stand as they stood. What is in order stays as it is. And times are compared by
a total order, in which no time is behind even the earliest, the later time is first and only equal
times are equal; it is by this order that accounts are sorted. -/
theorem order_stable (accounts : List String) (identities : Dict Identity) :
    ((∃ a ∈ accounts, identities.find? a = none) →
      ∃ a, (accounts.find? fun a => (identities.find? a).isNone) = some a ∧
        order accounts identities = .error a) ∧
    ((∀ a ∈ accounts, identities.find? a ≠ none) →
      ∃ ordered, order accounts identities = .ok ordered ∧
        ∀ l, ByTime (timeOf identities) accounts l ↔ l = ordered) ∧
    (∀ ordered, order accounts identities = .ok ordered →
      order ordered identities = .ok ordered) ∧
    (Std.TransCmp compareTimes ∧ Std.LawfulEqCmp compareTimes ∧
      (∀ t : Int64, compareTimes (some t) none = .lt) ∧
      (∀ t u : Int64, compareTimes (some t) (some u) = .lt ↔ u < t) ∧
      ∀ a b, mayPrecede a b = (compareTimes a b).isLE) := by
  refine ⟨order_of_unknown, fun hknown => ?_, fun ordered horder => ?_,
    transCmp_compareTimes, lawfulEqCmp_compareTimes, fun t => rfl, fun t u => ?_,
    mayPrecede_eq_isLE⟩
  · have hknown' : ∀ a ∈ accounts, time? identities a ≠ none := by
      intro a ha hnone
      exact hknown a ha ((time?_eq_none_iff identities a).1 hnone)
    obtain ⟨ordered, horder, hbyTime⟩ := order_byTime hknown'
    exact ⟨ordered, horder, hbyTime.iff_eq⟩
  -- What is ordered is known and in order already, and the order of accounts is unique.
  · obtain ⟨hknown, hbyTime⟩ := byTime_of_order horder
    have hknown' : ∀ a ∈ ordered, time? identities a ≠ none := by
      intro a ha
      exact hknown a (hbyTime.perm.mem_iff.1 ha)
    obtain ⟨again, hagain, hbyTime'⟩ := order_byTime hknown'
    rw [hagain, hbyTime'.unique hbyTime.self]
  · have hcompare : compare (some u) (some t) = compare u t := rfl
    rw [compareTimes_eq_compare, hcompare]
    exact Std.compare_eq_lt

end WalletGate.Wallet
