import WalletGate.Text.Blank
/-!
# Shared facts

Facts about computations that may fail, texts and lists that several modules of the theory rest on.
-/

namespace WalletGate

/-! ## Computations that may fail and texts -/

/-- Characters that stay are not lost when a text is stripped behind them. -/
theorem Text.strip_append {p : Char → Bool} {start : List Char} (hne : start ≠ [])
    (hstart : ∀ c ∈ start, p c = false) (rest : List Char) :
    ∃ rest', Text.strip p (start ++ rest) = start ++ rest' := by
  -- The front is untouched from the left because its first character stays, and from the right
  -- because its last one does.
  have hdrop : (start ++ rest).dropWhile p = start ++ rest := by
    cases start with
    | nil => exact absurd rfl hne
    | cons c cs =>
      have hc : p c = false := hstart c (by simp)
      simp [hc]
  have hrev : (start ++ rest).reverse = rest.reverse ++ start.reverse := by simp
  refine ⟨(rest.reverse.dropWhile p).reverse, ?_⟩
  unfold Text.strip
  rw [hdrop, hrev, List.dropWhile_append]
  split
  -- If all of the rest goes, the front is looked at from its end.
  · rename_i hempty
    have hstop : start.reverse.dropWhile p = start.reverse := by
      cases hr : start.reverse with
      | nil => simp
      | cons c cs =>
        have hc : p c = false := hstart c (by rw [← List.mem_reverse, hr]; simp)
        simp [hc]
    have hnil : rest.reverse.dropWhile p = [] := by simpa using hempty
    simp [hstop, hnil]
  · simp

/-- Joining pieces with further pieces puts a separator between the two. -/
theorem intercalate_append {α : Type} (a : α) (ls ms : List (List α)) (hls : ls ≠ [])
    (hms : ms ≠ []) :
    [a].intercalate (ls ++ ms) = [a].intercalate ls ++ a :: [a].intercalate ms := by
  induction ls with
  | nil => exact absurd rfl hls
  | cons l ls ih =>
    have hrest : ls ++ ms ≠ [] := List.append_ne_nil_of_right_ne_nil ls hms
    rw [List.cons_append, List.intercalate_cons_of_ne_nil hrest]
    cases ls with
    | nil => simp
    | cons l' ls =>
      rw [ih (List.cons_ne_nil l' ls), List.intercalate_cons_of_ne_nil (List.cons_ne_nil l' ls)]
      simp only [List.append_assoc]

/-- A computation succeeds when its two halves do. -/
theorem Except.bind_ok_iff {ε α β : Type} {first : Except ε α} {next : α → Except ε β} {b : β} :
    first >>= next = .ok b ↔ ∃ a, first = .ok a ∧ next a = .ok b := by
  rcases first with e | a <;> simp [bind, Except.bind]

/-- A computation fails when one of its halves does. -/
theorem Except.bind_error_iff {ε α β : Type} {first : Except ε α} {next : α → Except ε β} {e : ε} :
    first >>= next = .error e ↔ first = .error e ∨ ∃ a, first = .ok a ∧ next a = .error e := by
  rcases first with e' | a <;> simp [bind, Except.bind]

/-- What a computation gives is what its two halves give. -/
theorem Except.toOption_bind {ε α β : Type} (first : Except ε α) (next : α → Except ε β) :
    (first >>= next).toOption = first.toOption.bind fun a => (next a).toOption := by
  cases first with
  | error e => rfl
  | ok a => rfl

theorem Except.toOption_mapError {ε ε' α : Type} (f : ε → ε') (x : Except ε α) :
    (x.mapError f).toOption = x.toOption := by
  cases x with
  | error e => rfl
  | ok a => rfl

/-- A computation over a list succeeds when it does for each member. -/
theorem Except.mapM_ok_iff {ε α β : Type} {f : α → Except ε β} {as : List α} {bs : List β} :
    as.mapM f = .ok bs ↔ as.map f = bs.map .ok := by
  -- By induction on the inputs, with the outputs general: each input gives one output or the first
  -- error.
  induction as generalizing bs with
  | nil =>
    cases bs with
    | nil => exact iff_of_true rfl rfl
    | cons b bs => exact iff_of_false (fun h => by cases h) (fun h => by cases h)
  | cons a as ih =>
    rw [List.mapM_cons, Except.bind_ok_iff]
    constructor
    · rintro ⟨b, hfirst, hrest⟩
      obtain ⟨bs', hmapM, hall⟩ := Except.bind_ok_iff.mp hrest
      cases hall
      rw [List.map_cons, List.map_cons, hfirst, ih.mp hmapM]
    · intro hmap
      cases bs with
      | nil => cases hmap
      | cons b bs =>
        obtain ⟨hfirst, hrest⟩ := List.cons.inj hmap
        exact ⟨b, hfirst, Except.bind_ok_iff.mpr ⟨bs, ih.mpr hrest, rfl⟩⟩

/-! ## The first member of its kind -/

/-- Some member of the list satisfies `q`, and all members before it satisfy `p`. -/
def FirstWith {α : Type} (p q : α → Prop) (as : List α) : Prop :=
  ∃ before a after, as = before ++ a :: after ∧ (∀ b ∈ before, p b) ∧ q a

theorem not_firstWith_nil {α : Type} {p q : α → Prop} : ¬FirstWith p q [] := by
  rintro ⟨before, a, after, hsplit, _⟩
  exact absurd hsplit (by simp)

theorem firstWith_cons_iff {α : Type} {p q : α → Prop} {a : α} {as : List α} :
    FirstWith p q (a :: as) ↔ q a ∨ (p a ∧ FirstWith p q as) := by
  constructor
  · rintro ⟨before, b, after, hsplit, hbefore, hb⟩
    -- The one that is found is the head, or it is found behind the head.
    cases before with
    | nil =>
      cases hsplit
      exact .inl hb
    | cons c before =>
      obtain ⟨rfl, hrest⟩ := List.cons.inj hsplit
      obtain ⟨ha, hbefore⟩ := List.forall_mem_cons.1 hbefore
      exact .inr ⟨ha, before, b, after, hrest, hbefore, hb⟩
  · rintro (ha | ⟨ha, before, b, after, rfl, hbefore, hb⟩)
    · exact ⟨[], a, as, rfl, fun c hc => absurd hc List.not_mem_nil, ha⟩
    · exact ⟨a :: before, b, after, rfl, List.forall_mem_cons.2 ⟨ha, hbefore⟩, hb⟩

theorem firstWith_map_iff {α β : Type} {p q : β → Prop} {f : α → β} {as : List α} :
    FirstWith p q (as.map f) ↔ FirstWith (fun a => p (f a)) (fun a => q (f a)) as := by
  induction as with
  | nil => exact iff_of_false not_firstWith_nil not_firstWith_nil
  | cons a as ih => rw [List.map_cons, firstWith_cons_iff, firstWith_cons_iff, ih]

/-- A computation over a list fails as it does for the first member for which it fails. -/
theorem Except.mapM_error_iff {ε α β : Type} {f : α → Except ε β} {as : List α} {e : ε} :
    as.mapM f = .error e ↔ FirstWith (fun a => ∃ b, f a = .ok b) (fun a => f a = .error e) as := by
  induction as with
  | nil => exact iff_of_false (fun h => by cases h) not_firstWith_nil
  | cons a as ih =>
    rw [List.mapM_cons, Except.bind_error_iff, firstWith_cons_iff, ← ih]
    refine or_congr_right ?_
    constructor
    -- The head was read, so the error is from the rest; that the rest is put together raises none.
    · rintro ⟨b, hfirst, hrest⟩
      rcases Except.bind_error_iff.1 hrest with hrest | ⟨bs, _, hall⟩
      · exact ⟨⟨b, hfirst⟩, hrest⟩
      · cases hall
    · rintro ⟨⟨b, hfirst⟩, hrest⟩
      exact ⟨b, hfirst, Except.bind_error_iff.2 (.inl hrest)⟩

end WalletGate
