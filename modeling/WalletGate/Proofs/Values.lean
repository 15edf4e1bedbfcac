import Mathlib.Data.List.DropRight
import Mathlib.Data.List.Induction
import Mathlib.Data.List.TakeWhile
import Mathlib.Data.Nat.Digits.Defs
import WalletGate.Text.Blank
import WalletGate.Text.Numeral
/-!
# Numerals and lists as texts

What a text has to be to be read as an unsigned number or as a list, said without the readers.

* `IsDigits`: the digits of a number in a base, and `digitsValue?_eq_some_iff`: these are what is
  read as it; `IsNumeral` and `unsigned?_eq_some_iff`: the same of decimal numerals with a sign;
* `IsCore`: what is left of a text without the blanks at its ends, and `trim_eq_iff`: trimming leaves
  just this;
* `segments`: the trimmed segments between commas, and `items_eq_segments`: a list is read as these;
* `IsItem`: what can be an item of a list, as all that is read from a list is, and
  `segments_intercalate`: joining such items by commas is undone by reading them.
-/

namespace WalletGate.Text

/-! ## Numerals -/

/-- The value of a digit; letters, of either case, stand for the values from ten on. -/
def digitValue (d : Char) : Nat :=
  if isDigit d then d.toNat - '0'.toNat else 10 + ((lower d).toNat - 'a'.toNat)

/-- The character is a digit in a base. -/
def IsDigitIn (base : Nat) (d : Char) : Prop :=
  (isDigit d = true ∨ isLetter d = true) ∧ digitValue d < base

/-- The digits are a numeral of the number: there is one at least, and the most significant stands
first. -/
def IsDigits (base : Nat) (ds : List Char) (n : Nat) : Prop :=
  ds ≠ [] ∧ (∀ d ∈ ds, IsDigitIn base d) ∧ n = Nat.ofDigits base (ds.reverse.map digitValue)

/-- The text is a decimal numeral of the number, perhaps with a plus sign. -/
def IsNumeral (cs : List Char) (n : Nat) : Prop :=
  ∃ ds, (cs = ds ∨ cs = '+' :: ds) ∧ IsDigits 10 ds n

/-- The decimal digits are no letters. -/
theorem IsDigitIn.isDigit {d : Char} (h : IsDigitIn 10 d) : isDigit d = true := by
  by_contra hletter
  have hsmall := h.2
  rw [digitValue, if_neg hletter] at hsmall
  omega

/-- Of the letters, only those up to `f` have a value below sixteen. -/
theorem hexValue?_eq_some_iff {c : Char} {v : Nat} :
    hexValue? c = some v ↔ IsDigitIn 16 c ∧ v = digitValue c := by
  have hle {a b : Char} : a ≤ b ↔ a.toNat ≤ b.toNat := Iff.rfl
  have hnumbers : '0'.toNat = 48 ∧ '9'.toNat = 57 ∧ 'a'.toNat = 97 ∧ 'z'.toNat = 122 ∧
      'A'.toNat = 65 ∧ 'Z'.toNat = 90 ∧ 'f'.toNat = 102 ∧ 'F'.toNat = 70 := by decide
  obtain ⟨h0, h9, ha, hz, hA, hZ, hf, hF⟩ := hnumbers
  have hlower : (lower c).toNat =
      if 65 ≤ c.toNat ∧ c.toNat ≤ 90 then c.toNat + 32 else c.toNat := by
    unfold lower
    simp only [hle, hA, hZ]
    split
    · rw [Char.ofNat, dif_pos (.inl (by omega))]
      rfl
    · rfl
  unfold hexValue? IsDigitIn digitValue isDigit isLetter
  simp only [Bool.and_eq_true, Bool.or_eq_true, decide_eq_true_iff, hlower, hle, h0, h9, ha, hz, hA,
    hZ, hf, hF]
  -- The three runs of digits are far from each other, so the rest is arithmetic.
  split_ifs <;> simp only [Option.some.injEq, false_iff] <;> omega

section Base

variable {base : Nat}

/-- A further digit makes as many of every one before it as the base has. -/
theorem step_eq_some_iff (hbase : base ≤ 16) {acc : Option Nat} {c : Char} {n : Nat} :
    digitsValue?.step base acc c = some n ↔
      ∃ m, acc = some m ∧ IsDigitIn base c ∧ n = digitValue c + base * m := by
  unfold digitsValue?.step
  constructor
  · intro h
    split at h
    · rename_i m d hd
      obtain ⟨hdigit, rfl⟩ := hexValue?_eq_some_iff.1 hd
      split at h
      · rename_i hsmall
        refine ⟨m, rfl, ⟨hdigit.1, hsmall⟩, ?_⟩
        rw [← Option.some.inj h, Nat.mul_comm, Nat.add_comm]
      · cases h
    · cases h
  · rintro ⟨m, rfl, hdigit, rfl⟩
    have hd := hexValue?_eq_some_iff.2 ⟨⟨hdigit.1, hdigit.2.trans_le hbase⟩, rfl⟩
    simp only [hd, if_pos hdigit.2]
    rw [Nat.mul_comm, Nat.add_comm]

/-- Reading digit by digit, from the most significant on, comes to the number. -/
theorem foldl_step_eq_some_iff (hbase : base ≤ 16) {cs : List Char} {n : Nat} :
    cs.foldl (digitsValue?.step base) (some 0) = some n ↔
      (∀ d ∈ cs, IsDigitIn base d) ∧ n = Nat.ofDigits base (cs.reverse.map digitValue) := by
  -- Induction from the least significant digit, which is read last.
  induction cs using List.reverseRecOn generalizing n with
  | nil =>
    rw [List.foldl_nil, Option.some.injEq, eq_comm]
    exact ⟨fun h => ⟨fun d hd => absurd hd List.not_mem_nil, h⟩, fun h => h.2⟩
  | append_singleton cs c ih =>
    have hvalue : Nat.ofDigits base ((cs ++ [c]).reverse.map digitValue) =
        digitValue c + base * Nat.ofDigits base (cs.reverse.map digitValue) := by
      rw [List.reverse_append, List.reverse_singleton, List.singleton_append, List.map_cons,
        Nat.ofDigits_cons]
    rw [List.foldl_append, List.foldl_cons, List.foldl_nil, hvalue, step_eq_some_iff hbase,
      List.forall_mem_append, List.forall_mem_singleton]
    constructor
    · rintro ⟨m, hm, hdigit, hn⟩
      obtain ⟨hdigits, rfl⟩ := ih.1 hm
      exact ⟨⟨hdigits, hdigit⟩, hn⟩
    · rintro ⟨⟨hdigits, hdigit⟩, hn⟩
      exact ⟨_, ih.2 ⟨hdigits, rfl⟩, hdigit, hn⟩

theorem digitsValue?_eq_some_iff (hbase : base ≤ 16) {cs : List Char} {n : Nat} :
    digitsValue? base cs = some n ↔ IsDigits base cs n := by
  unfold digitsValue? IsDigits
  rw [← foldl_step_eq_some_iff hbase]
  cases cs with
  | nil => simp
  | cons c cs => simp

end Base

theorem unsigned?_eq_some_iff {cs : List Char} {n : Nat} :
    unsigned? cs = some n ↔ IsNumeral cs n := by
  -- A sign is no digit, so a text is read in one way at most: with the sign taken off, or as it
  -- stands.
  have hplus (ds : List Char) : ¬IsDigits 10 ('+' :: ds) n := fun h =>
    absurd (h.2.1 '+' List.mem_cons_self).1 (by decide)
  unfold unsigned? IsNumeral
  split
  · rename_i rest
    rw [digitsValue?_eq_some_iff (by decide)]
    constructor
    · intro h
      exact ⟨rest, .inr rfl, h⟩
    · rintro ⟨ds, rfl | hsame, h⟩
      · exact absurd h (hplus rest)
      · rw [(List.cons.inj hsame).2]
        exact h
  · rename_i hunsigned
    rw [digitsValue?_eq_some_iff (by decide)]
    constructor
    · intro h
      exact ⟨cs, .inl rfl, h⟩
    · rintro ⟨ds, rfl | hsame, h⟩
      · exact h
      · exact absurd hsame (hunsigned ds)

/-! ## Trimming -/

/-- What is left of some characters without those at their ends that satisfy `p`: nothing but such
stands around it, and it neither begins nor ends with one. -/
structure IsCore (p : Char → Bool) (cs core : List Char) : Prop where
  parts : ∃ front back, cs = front ++ (core ++ back) ∧
    (∀ c ∈ front, p c = true) ∧ ∀ c ∈ back, p c = true
  head : ∀ c ∈ core.head?, p c = false
  last : ∀ c ∈ core.getLast?, p c = false

section Core

variable {p : Char → Bool} {cs core : List Char}

theorem IsCore.subset (h : IsCore p cs core) : core ⊆ cs := by
  obtain ⟨front, back, rfl, -, -⟩ := h.parts
  exact fun c hc => List.mem_append_right front (List.mem_append_left back hc)

theorem isCore_strip (p : Char → Bool) (cs : List Char) : IsCore p cs (strip p cs) where
  parts := by
    refine ⟨cs.takeWhile p, (cs.dropWhile p).rtakeWhile p, ?_,
      fun c hc => List.mem_takeWhile_imp hc, fun c hc => List.mem_rtakeWhile_imp hc⟩
    have hback : strip p cs ++ (cs.dropWhile p).rtakeWhile p = cs.dropWhile p :=
      List.rdropWhile_append_rtakeWhile
    rw [hback, List.takeWhile_append_dropWhile]
  head := by
    intro c hc
    -- What is left after both halves of the stripping begins as what is left after the first.
    obtain ⟨rest, hrest⟩ := List.head?_eq_some_iff.1 hc
    obtain ⟨back, hback⟩ : strip p cs <+: cs.dropWhile p := List.rdropWhile_prefix p _
    have hstays := List.head?_dropWhile_not p cs
    rw [← hback, hrest, List.cons_append, List.head?_cons] at hstays
    exact hstays
  last := by
    intro c hc
    obtain ⟨hne, rfl⟩ := List.mem_getLast?_eq_getLast hc
    exact Bool.eq_false_iff.2 (List.rdropWhile_last_not p (cs.dropWhile p) hne)

/-- Stripping leaves the core, and there is one only. -/
theorem strip_eq_iff : strip p cs = core ↔ IsCore p cs core := by
  constructor
  · rintro rfl
    exact isCore_strip p cs
  · rintro ⟨⟨front, back, rfl, hfront, hback⟩, hhead, hlast⟩
    have hleft : (front ++ (core ++ back)).dropWhile p = (core ++ back).dropWhile p :=
      List.dropWhile_append_of_pos hfront
    cases core with
    | nil =>
      -- Everything goes in the first half already.
      have hnone : back.dropWhile p = [] := List.dropWhile_eq_nil_iff.2 hback
      rw [strip, hleft, List.nil_append, hnone]
      rfl
    | cons c rest =>
      have hfirst : (c :: rest ++ back).dropWhile p = c :: rest ++ back := by
        rw [List.cons_append, List.dropWhile_cons, hhead c rfl, if_neg Bool.false_ne_true]
      have hright : (c :: rest ++ back).rdropWhile p = (c :: rest).rdropWhile p := by
        rw [List.rdropWhile, List.reverse_append,
          List.dropWhile_append_of_pos fun d hd => hback d (List.mem_reverse.1 hd)]
        rfl
      have hself : (c :: rest).rdropWhile p = c :: rest := by
        refine List.rdropWhile_eq_self_iff.2 fun hne => ?_
        exact Bool.eq_false_iff.1 (hlast _ (List.getLast?_eq_some_getLast hne))
      calc strip p (front ++ (c :: rest ++ back))
          = ((front ++ (c :: rest ++ back)).dropWhile p).rdropWhile p := rfl
        _ = (c :: rest ++ back).rdropWhile p := by rw [hleft, hfirst]
        _ = c :: rest := by rw [hright, hself]

theorem strip_eq_nil_iff : strip p cs = [] ↔ ∀ c ∈ cs, p c = true := by
  rw [strip_eq_iff]
  constructor
  · rintro ⟨⟨front, back, rfl, hfront, hback⟩, -, -⟩ c hc
    exact (List.mem_append.1 hc).elim (hfront c) (hback c)
  · intro hall
    exact ⟨⟨cs, [], by simp, hall, by simp⟩, by simp, by simp⟩

/-- What is not stripped is kept, wherever it stands. -/
theorem mem_strip_iff {c : Char} (hc : p c = false) : c ∈ strip p cs ↔ c ∈ cs := by
  refine ⟨fun hmem => (isCore_strip p cs).subset hmem, fun hmem => ?_⟩
  obtain ⟨front, back, hparts, hfront, hback⟩ := (isCore_strip p cs).parts
  rw [hparts, List.mem_append, List.mem_append] at hmem
  have hstays {ds : List Char} (hds : ∀ d ∈ ds, p d = true) : c ∉ ds := fun hmem =>
    absurd (hds c hmem) (by simp [hc])
  exact (hmem.resolve_left (hstays hfront)).resolve_right (hstays hback)

end Core

/-- Trimming leaves the core of a text between the blanks at its ends. -/
theorem trim_eq_iff {s t : String} : trim s = t ↔ IsCore isBlank s.toList t.toList := by
  rw [← strip_eq_iff, trim, ← String.toList_inj, String.toList_ofList]

theorem trim_eq_empty_iff {s : String} : trim s = "" ↔ ∀ c ∈ s.toList, isBlank c = true := by
  rw [← strip_eq_nil_iff, ← String.toList_inj, trim, String.toList_ofList, String.toList_empty]

/-! ## Lists -/

theorem pieces_eq_splitOn (a : Char) (cs : List Char) : pieces (· == a) cs = cs.splitOn a := by
  induction cs with
  | nil => rfl
  | cons c cs ih =>
    rw [pieces, List.splitOn_cons_eq_if_modifyHead, ih]
    split
    · rfl
    · cases hrest : cs.splitOn a with
      | nil => exact absurd hrest (List.splitOn_ne_nil a cs)
      | cons first rest => rfl

theorem not_mem_of_mem_splitOn {a : Char} {cs piece : List Char} (hpiece : piece ∈ cs.splitOn a) :
    a ∉ piece := by
  -- By induction on the text: the separator opens a piece, and any other character joins the first.
  induction cs generalizing piece with
  | nil =>
    rw [List.splitOn_nil, List.mem_singleton] at hpiece
    rw [hpiece]
    exact List.not_mem_nil
  | cons c cs ih =>
    rw [List.splitOn_cons_eq_if_modifyHead] at hpiece
    split at hpiece
    · rcases List.mem_cons.1 hpiece with rfl | hrest
      · exact List.not_mem_nil
      · exact ih hrest
    · rename_i hc
      cases hsplit : cs.splitOn a with
      | nil => exact absurd hsplit (List.splitOn_ne_nil a cs)
      | cons first rest =>
        rw [hsplit, List.modifyHead_cons] at hpiece
        rcases List.mem_cons.1 hpiece with rfl | hrest
        · rw [List.mem_cons, not_or]
          exact ⟨fun h => hc (beq_iff_eq.2 h.symm), ih (hsplit ▸ List.mem_cons_self)⟩
        · exact ih (hsplit ▸ List.mem_cons_of_mem _ hrest)

/-- The segments of a text between commas, trimmed, but for the empty ones. -/
def segments (s : String) : List String :=
  ((s.toList.splitOn ',').map fun segment => trim (String.ofList segment)).filter (· ≠ "")

theorem items_eq_segments (s : String) : items s = segments s := by
  unfold items segments
  rw [pieces_eq_splitOn]
  simp only [trim, String.toList_ofList]

/-- There are no segments in a text of blanks. -/
theorem segments_of_blank {s : String} (hblank : ∀ c ∈ s.toList, isBlank c = true) :
    segments s = [] := by
  have hcomma : ',' ∉ s.toList := fun hmem => absurd (hblank ',' hmem) (by decide)
  unfold segments
  rw [List.splitOn_eq_singleton hcomma, List.map_singleton, String.ofList_toList,
    trim_eq_empty_iff.2 hblank]
  rfl

/-- A text that can be an item of a list. -/
structure IsItem (s : String) : Prop where
  ne_empty : s ≠ ""
  /-- It neither begins nor ends with a blank. -/
  head : ∀ c ∈ s.toList.head?, isBlank c = false
  last : ∀ c ∈ s.toList.getLast?, isBlank c = false
  no_comma : ',' ∉ s.toList

/-- There is nothing to trim from an item. -/
theorem IsItem.trimmed {s : String} (h : IsItem s) : trim s = s :=
  trim_eq_iff.2 ⟨⟨[], [], by simp, by simp, by simp⟩, h.head, h.last⟩

/-- What a text is read as can stand in a list. -/
theorem isItem_of_mem_segments {s x : String} (hx : x ∈ segments s) : IsItem x := by
  obtain ⟨hx, hne⟩ := List.mem_filter.1 hx
  obtain ⟨piece, hpiece, rfl⟩ := List.mem_map.1 hx
  have hcore := trim_eq_iff.1 (rfl : trim (String.ofList piece) = _)
  refine ⟨of_decide_eq_true hne, hcore.head, hcore.last, fun hcomma => ?_⟩
  have hmem := hcore.subset hcomma
  rw [String.toList_ofList] at hmem
  exact not_mem_of_mem_splitOn hpiece hmem

theorem map_trim_segments (s : String) : (segments s).map trim = segments s := by
  refine (List.map_congr_left fun x hx => ?_).trans (List.map_id _)
  rw [(isItem_of_mem_segments hx).trimmed, id]

/-- Items that are joined by commas are read as the items that they were. -/
theorem segments_intercalate {xs : List String} (hne : xs ≠ []) (hitems : ∀ x ∈ xs, IsItem x) :
    segments (",".intercalate xs) = xs := by
  have hcommas : ∀ l ∈ xs.map String.toList, ',' ∉ l := by
    intro l hl
    obtain ⟨x, hx, rfl⟩ := List.mem_map.1 hl
    exact (hitems x hx).no_comma
  have hsplit : (",".intercalate xs).toList.splitOn ',' = xs.map String.toList := by
    rw [String.toList_intercalate]
    exact List.splitOn_intercalate ',' hcommas (by simpa using hne)
  -- Trimming leaves an item as it is and dropping empty pieces drops none, so what was joined is
  -- what is read.
  have htrimmed : (xs.map String.toList).map (fun l => trim (String.ofList l)) = xs := by
    rw [List.map_map]
    refine (List.map_congr_left fun x hx => ?_).trans (List.map_id xs)
    rw [Function.comp_apply, String.ofList_toList, (hitems x hx).trimmed, id]
  unfold segments
  rw [hsplit, htrimmed, List.filter_eq_self]
  intro x hx
  exact decide_eq_true (hitems x hx).ne_empty

end WalletGate.Text
