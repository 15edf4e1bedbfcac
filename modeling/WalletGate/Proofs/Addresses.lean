import Mathlib.Data.Nat.Digits.Lemmas
import WalletGate.Net.Address
import WalletGate.Proofs.Values
/-!
# Texts of addresses

What a text has to be to be read as an internet address, said as a grammar and without the readers.

* `V4.IsText`, and `V4.ofText?_eq_some_iff`: four octets between points;
* `V6.IsGroups` and `V6.IsText`: groups between colons, of which a double colon leaves out a run of
  zeros, and `V6.ofText?_eq_some_iff`: these are the texts of an address of version 6;
* `Address.ofText?_eq_some_iff`: the texts of addresses. No text belongs to both versions, since one
  has points and no colons in it, and the other has colons.
-/

namespace WalletGate.Net

open Text (IsDigits IsDigitIn)

/-! ## Version 4 -/

namespace V4

variable {cs : List Char} {n : Nat} {x : V4}

/-- A decimal numeral below 256 that does not start with a zero, unless that is all of it. -/
def IsOctet (cs : List Char) (n : Nat) : Prop :=
  IsDigits 10 cs n ∧ n < 256 ∧ (cs.head? = some '0' → cs = ['0'])

/-- Four octets between points. -/
def IsText (cs : List Char) (x : V4) : Prop :=
  ∃ a b c d, cs = ['.'].intercalate [a, b, c, d] ∧
    IsOctet a x.a ∧ IsOctet b x.b ∧ IsOctet c x.c ∧ IsOctet d x.d

/-- Zero is the only digit of no value. -/
theorem eq_zero_of_digitValue {c : Char} (hdigit : Text.isDigit c = true)
    (hvalue : Text.digitValue c = 0) : c = '0' := by
  rw [Text.digitValue, if_pos hdigit] at hvalue
  have hle : '0'.toNat ≤ c.toNat := of_decide_eq_true (Bool.and_eq_true_iff.1 hdigit).1
  exact Char.toNat_inj.1 (Nat.le_antisymm (Nat.sub_eq_zero_iff_le.1 hvalue) hle)

/-- A number without a leading zero is as large as its length makes it. -/
theorem IsOctet.length_le (h : IsOctet cs n) : cs.length ≤ 3 := by
  obtain ⟨⟨hne, hdigits, rfl⟩, hsmall, hzero⟩ := h
  cases cs with
  | nil => exact absurd rfl hne
  | cons c cs =>
    -- With four digits, of which the first is not zero, the number would be a thousand at least.
    by_contra hlong
    have hlead : Text.digitValue c ≠ 0 := by
      intro hvalue
      have hc := eq_zero_of_digitValue (hdigits c List.mem_cons_self).isDigit hvalue
      have hall := hzero (by rw [hc]; rfl)
      rw [hall] at hlong
      exact hlong (by decide)
    have hlarge : 10 ^ ((c :: cs).reverse.map Text.digitValue).length ≤
        10 * Nat.ofDigits 10 ((c :: cs).reverse.map Text.digitValue) :=
      Nat.pow_length_le_mul_ofDigits (by simp) (by simpa using hlead)
    rw [List.length_map, List.length_reverse] at hlarge
    have hpow : 10 ^ 4 ≤ 10 ^ (c :: cs).length := Nat.pow_le_pow_right (by decide) (by omega)
    omega

theorem octet?_eq_some_iff : octet? cs = some n ↔ IsOctet cs n := by
  unfold octet?
  constructor
  · intro h
    split at h
    · cases h
    · rename_i hshape
      obtain ⟨hvalue, hsmall⟩ := Option.filter_eq_some_iff.1 h
      have hdigits := (Text.digitsValue?_eq_some_iff (by decide)).1 hvalue
      refine ⟨hdigits, of_decide_eq_true hsmall, fun hzero => ?_⟩
      -- A zero in front of a further digit is refused.
      obtain ⟨rest, rfl⟩ := List.head?_eq_some_iff.1 hzero
      cases rest with
      | nil => rfl
      | cons d rest => simp at hshape
  · intro h
    -- The reader looks at the length first; that four digits are too many follows from the value.
    have hlength := h.length_le
    obtain ⟨hdigits, hsmall, hzero⟩ := h
    have hshape :
        (decide (cs.length > 3) || (decide (cs.length > 1) && cs.head? == some '0')) = false := by
      rw [Bool.or_eq_false_iff, Bool.and_eq_false_iff, decide_eq_false_iff_not,
        decide_eq_false_iff_not]
      refine ⟨by omega, ?_⟩
      by_cases hhead : cs.head? = some '0'
      · left
        rw [hzero hhead]
        decide
      · right
        simpa using hhead
    rw [hshape, if_neg Bool.false_ne_true]
    exact Option.filter_eq_some_iff.2
      ⟨(Text.digitsValue?_eq_some_iff (by decide)).2 hdigits, decide_eq_true hsmall⟩

/-- There are digits alone in an octet. -/
theorem IsOctet.isDigitIn (h : IsOctet cs n) : ∀ c ∈ cs, IsDigitIn 10 c := h.1.2.1

theorem ofText?_eq_some_iff : ofText? cs = some x ↔ IsText cs x := by
  have hread (a b c d : List Char) :
      (do some ⟨← octet? a, ← octet? b, ← octet? c, ← octet? d⟩ : Option V4) = some x ↔
        IsOctet a x.a ∧ IsOctet b x.b ∧ IsOctet c x.c ∧ IsOctet d x.d := by
    simp only [← octet?_eq_some_iff, Option.bind_eq_bind, Option.bind_eq_some_iff,
      Option.some.injEq]
    constructor
    · rintro ⟨_, ha, _, hb, _, hc, _, hd, rfl⟩
      exact ⟨ha, hb, hc, hd⟩
    · rintro ⟨ha, hb, hc, hd⟩
      exact ⟨_, ha, _, hb, _, hc, _, hd, rfl⟩
  -- The text is read by splitting it, so it is enough that the four numbers have no point of their
  -- own.
  unfold ofText?
  rw [Text.pieces_eq_splitOn]
  constructor
  · intro h
    split at h
    · rename_i a b c d hsplit
      refine ⟨a, b, c, d, ?_, (hread a b c d).1 h⟩
      rw [← hsplit, List.intercalate_splitOn]
    · cases h
  · rintro ⟨a, b, c, d, rfl, hoctets⟩
    obtain ⟨ha, hb, hc, hd⟩ := hoctets
    have hpoint {cs : List Char} {n : Nat} (h : IsOctet cs n) : '.' ∉ cs := fun hmem =>
      absurd (h.isDigitIn '.' hmem).1 (by decide)
    have hsplit : (['.'].intercalate [a, b, c, d]).splitOn '.' = [a, b, c, d] := by
      refine List.splitOn_intercalate '.' ?_ (List.cons_ne_nil _ _)
      simp only [List.forall_mem_cons, List.not_mem_nil, false_implies, implies_true, and_true]
      exact ⟨hpoint ha, hpoint hb, hpoint hc, hpoint hd⟩
    rw [hsplit]
    exact (hread a b c d).2 ⟨ha, hb, hc, hd⟩

/-- There is no colon in an address of version 4. -/
theorem IsText.no_colon (h : IsText cs x) : ':' ∉ cs := by
  obtain ⟨a, b, c, d, rfl, ha, hb, hc, hd⟩ := h
  have hcolon {cs : List Char} {n : Nat} (h : IsOctet cs n) : ':' ∉ cs := fun hmem =>
    absurd (h.isDigitIn ':' hmem).1 (by decide)
  simp [List.intercalate, hcolon ha, hcolon hb, hcolon hc, hcolon hd]

theorem IsText.point_mem (h : IsText cs x) : '.' ∈ cs := by
  obtain ⟨a, b, c, d, rfl, _⟩ := h
  simp [List.intercalate]

end V4

/-! ## Version 6 -/

namespace V6

variable {cs : List Char} {ns : List Nat} {n : Nat} {dotted : Bool}

/-- One to four hexadecimal digits. -/
def IsGroup (cs : List Char) (n : Nat) : Prop := IsDigits 16 cs n ∧ cs.length ≤ 4

/-- Groups between colons. Where points are allowed, the last two groups may be written as an
address of version 4. -/
inductive IsGroups (dotted : Bool) : List Char → List Nat → Prop where
  | group {cs : List Char} {n : Nat} (h : IsGroup cs n) : IsGroups dotted cs [n]
  | points {cs : List Char} {x : V4} (hdotted : dotted = true) (h : V4.IsText cs x) :
      IsGroups dotted cs [x.a * 256 + x.b, x.c * 256 + x.d]
  | cons {cs rest : List Char} {n : Nat} {ns : List Nat} (h : IsGroup cs n)
      (hrest : IsGroups dotted rest ns) : IsGroups dotted (cs ++ ':' :: rest) (n :: ns)

/-- One side of a double colon: groups, or nothing. -/
def IsSide (dotted : Bool) (cs : List Char) (ns : List Nat) : Prop :=
  (cs = [] ∧ ns = []) ∨ IsGroups dotted cs ns

/-- Eight groups, of which a double colon may leave out some that are zero. -/
inductive IsText : List Char → V6 → Prop where
  | full {cs : List Char} {ns : List Nat} (h : IsGroups true cs ns) (hcount : ns.length = 8) :
      IsText cs ⟨ns⟩
  | gap {front back : List Char} {head tail : List Nat} {count : Nat}
      (hfront : IsSide false front head) (hback : IsSide true back tail) (hcount : 0 < count)
      (htotal : head.length + count + tail.length = 8) :
      IsText (front ++ ':' :: ':' :: back) ⟨head ++ List.replicate count 0 ++ tail⟩

theorem group?_eq_some_iff : group? cs = some n ↔ IsGroup cs n := by
  unfold group? IsGroup
  rw [← Text.digitsValue?_eq_some_iff (by decide)]
  split
  · rename_i hlong
    simp [Nat.not_le_of_gt hlong]
  · rename_i hshort
    simp [Nat.le_of_not_gt hshort]

/-! ### Groups -/

theorem IsGroup.ne_nil (h : IsGroup cs n) : cs ≠ [] := h.1.1

theorem IsGroup.no_colon (h : IsGroup cs n) : ':' ∉ cs := fun hmem =>
  absurd (h.1.2.1 ':' hmem).1 (by decide)

/-- A group has no points in it, so it is not read as an address of version 4. -/
theorem IsGroup.not_points (h : IsGroup cs n) : V4.ofText? cs = none := by
  rw [Option.eq_none_iff_forall_ne_some]
  intro x hread
  have hpoint := (V4.ofText?_eq_some_iff.1 hread).point_mem
  exact absurd (h.1.2.1 '.' hpoint).1 (by decide)

/-- The last place holds an address of version 4, where that is allowed, or a group. -/
theorem groups?_singleton_eq_some_iff :
    groups? dotted [cs] = some ns ↔
      (∃ x, dotted = true ∧ V4.IsText cs x ∧ ofV4 x = ns) ∨ ∃ n, IsGroup cs n ∧ [n] = ns := by
  have hgroup : (group? cs).map ([·]) = some ns ↔ ∃ n, IsGroup cs n ∧ [n] = ns := by
    simp only [Option.map_eq_some_iff, group?_eq_some_iff]
  unfold groups?
  -- A text that can be read with points is no group, so at most one of the two readings applies.
  cases hread : if dotted then V4.ofText? cs else none with
  | none =>
    rw [hgroup, or_iff_right]
    rintro ⟨x, rfl, hx, -⟩
    rw [if_pos rfl, V4.ofText?_eq_some_iff.2 hx] at hread
    cases hread
  | some x =>
    obtain ⟨hdotted, hx⟩ := Option.ite_none_right_eq_some.1 hread
    rw [Option.some.injEq, or_iff_left]
    · constructor
      · intro hns
        exact ⟨x, hdotted, V4.ofText?_eq_some_iff.1 hx, hns⟩
      · rintro ⟨y, -, hy, hns⟩
        rw [V4.ofText?_eq_some_iff.2 hy, Option.some.injEq] at hx
        rw [← hx, hns]
    · rintro ⟨n, hn, -⟩
      rw [hn.not_points] at hx
      cases hx

theorem groups?_cons_eq_some_iff {ps : List (List Char)} (hps : ps ≠ []) :
    groups? dotted (cs :: ps) = some ns ↔
      ∃ n rest, IsGroup cs n ∧ groups? dotted ps = some rest ∧ n :: rest = ns := by
  cases ps with
  | nil => exact absurd rfl hps
  | cons p ps =>
    simp only [groups?, ← group?_eq_some_iff, Option.bind_eq_bind, Option.bind_eq_some_iff,
      Option.some.injEq]
    constructor
    · rintro ⟨n, hn, rest, hrest, hns⟩
      exact ⟨n, rest, hn, hrest, hns⟩
    · rintro ⟨n, rest, hn, hrest, hns⟩
      exact ⟨n, hn, rest, hrest, hns⟩

/-- Pieces that are read as groups are the pieces of groups between colons. -/
theorem isGroups_of_groups? {ps : List (List Char)} (hne : ps ≠ [])
    (h : groups? dotted ps = some ns) : IsGroups dotted ([':'].intercalate ps) ns := by
  induction ps generalizing ns with
  | nil => exact absurd rfl hne
  | cons p ps ih =>
    by_cases hps : ps = []
    · rw [hps] at h ⊢
      rw [List.intercalate_singleton]
      obtain ⟨x, hdotted, hx, rfl⟩ | ⟨n, hn, rfl⟩ := groups?_singleton_eq_some_iff.1 h
      · exact .points hdotted hx
      · exact .group hn
    · obtain ⟨n, rest, hn, hrest, rfl⟩ := (groups?_cons_eq_some_iff hps).1 h
      rw [List.intercalate_cons_of_ne_nil hps, List.append_assoc]
      exact .cons hn (ih hps hrest)

theorem groups?_splitOn_eq_some_iff :
    groups? dotted (cs.splitOn ':') = some ns ↔ IsGroups dotted cs ns := by
  constructor
  -- Splitting at the colons undoes the joining; the other way, the induction is on how the groups
  -- are put together.
  · intro h
    have hgroups := isGroups_of_groups? (List.splitOn_ne_nil ':' cs) h
    rwa [List.intercalate_splitOn] at hgroups
  · intro h
    induction h with
    | group hn =>
      rw [List.splitOn_eq_singleton hn.no_colon]
      exact groups?_singleton_eq_some_iff.2 (.inr ⟨_, hn, rfl⟩)
    | points hdotted hx =>
      rw [List.splitOn_eq_singleton hx.no_colon]
      exact groups?_singleton_eq_some_iff.2 (.inl ⟨_, hdotted, hx, rfl⟩)
    | cons hn _ ih =>
      rw [List.splitOn_append_cons_self_of_not_mem hn.no_colon]
      exact (groups?_cons_eq_some_iff (List.splitOn_ne_nil ':' _)).2 ⟨_, _, hn, ih, rfl⟩

theorem IsGroups.ne_nil (h : IsGroups dotted cs ns) : cs ≠ [] := by
  cases h with
  | group hn => exact hn.ne_nil
  | points _ hx => exact List.ne_nil_of_mem hx.point_mem
  | cons hn _ => simp

theorem side?_eq_some_iff : side? dotted cs = some ns ↔ IsSide dotted cs ns := by
  unfold side? IsSide
  rw [Text.pieces_eq_splitOn]
  split
  · rename_i hempty
    rw [List.isEmpty_iff] at hempty
    rw [or_iff_left fun h : IsGroups dotted cs ns => h.ne_nil hempty, and_iff_right hempty,
      Option.some.injEq, eq_comm]
  · rename_i hfull
    rw [List.isEmpty_iff] at hfull
    rw [groups?_splitOn_eq_some_iff, or_iff_right fun h => hfull h.1]

/-! ### The double colon -/

/-- The parts of a text around a double colon, with more text in front. -/
def behind (front : List Char) : List Char × List Char → List Char × List Char :=
  Prod.map (front ++ ·) id

theorem behind_comp (front front' : List Char) :
    behind front ∘ behind front' = behind (front ++ front') := by
  funext parts
  rw [Function.comp_apply, behind, behind, behind, Prod.map_map, Function.id_comp]
  simp only [Function.comp_def, List.append_assoc]

/-- A character that does not start the double colon stands in front of it. -/
theorem splitAtGap?_cons {c : Char} (hgap : c = ':' → cs.head? ≠ some ':') :
    splitAtGap? (c :: cs) = (splitAtGap? cs).map (behind [c]) := by
  rw [splitAtGap?]
  · rfl
  · rintro rest rfl rfl
    exact hgap rfl rfl

theorem splitAtGap?_append_of_not_mem {front : List Char} (hfront : ':' ∉ front) (cs : List Char) :
    splitAtGap? (front ++ cs) = (splitAtGap? cs).map (behind front) := by
  induction front with
  | nil =>
    rw [List.nil_append, behind]
    cases splitAtGap? cs with
    | none => rfl
    | some parts => rfl
  | cons c front ih =>
    rw [List.mem_cons, not_or] at hfront
    rw [List.cons_append, splitAtGap?_cons fun hc => absurd hc.symm hfront.1, ih hfront.2,
      Option.map_map, behind_comp, List.singleton_append]

theorem IsGroups.head?_ne (h : IsGroups dotted cs ns) : cs.head? ≠ some ':' := by
  intro hhead
  obtain ⟨rest, rfl⟩ := List.head?_eq_some_iff.1 hhead
  generalize hcs : ':' :: rest = cs at h
  cases h with
  | group hn => exact hn.no_colon (hcs ▸ List.mem_cons_self)
  | points _ hx => exact hx.no_colon (hcs ▸ List.mem_cons_self)
  | @cons front _ _ _ hn _ =>
    cases front with
    | nil => exact hn.ne_nil rfl
    | cons c front =>
      obtain ⟨rfl, _⟩ := List.cons.inj hcs
      exact hn.no_colon List.mem_cons_self

/-- No double colon starts in groups, neither among them nor with their last character. -/
theorem IsGroups.splitAtGap?_append (h : IsGroups dotted cs ns) (back : List Char) :
    splitAtGap? (cs ++ back) = (splitAtGap? back).map (behind cs) := by
  induction h with
  | group hn => exact splitAtGap?_append_of_not_mem hn.no_colon back
  | points _ hx => exact splitAtGap?_append_of_not_mem hx.no_colon back
  | cons hn hrest ih =>
    rename_i front rest n ns
    -- Behind the single colon the next group begins.
    have hnext : (rest ++ back).head? ≠ some ':' := by
      rw [List.head?_append_of_ne_nil _ hrest.ne_nil]
      exact hrest.head?_ne
    rw [List.append_assoc, List.cons_append, splitAtGap?_append_of_not_mem hn.no_colon,
      splitAtGap?_cons fun _ => hnext, ih, Option.map_map, Option.map_map, behind_comp,
      behind_comp, List.append_assoc, List.singleton_append]

theorem eq_of_splitAtGap? {before after : List Char} (h : splitAtGap? cs = some (before, after)) :
    cs = before ++ ':' :: ':' :: after := by
  induction cs generalizing before with
  | nil => cases h
  | cons c cs ih =>
    by_cases hgap : c = ':' ∧ cs.head? = some ':'
    · obtain ⟨rfl, hhead⟩ := hgap
      obtain ⟨rest, rfl⟩ := List.head?_eq_some_iff.1 hhead
      cases h
      rfl
    · rw [splitAtGap?_cons (not_and.1 hgap)] at h
      obtain ⟨parts, hparts, hsame⟩ := Option.map_eq_some_iff.1 h
      cases hsame
      rw [ih hparts]
      rfl

/-- Groups in front of a double colon are all that is in front of the first. -/
theorem IsSide.splitAtGap?_append (h : IsSide dotted cs ns) (back : List Char) :
    splitAtGap? (cs ++ ':' :: ':' :: back) = some (cs, back) := by
  obtain ⟨rfl, -⟩ | h := h
  · rfl
  · rw [h.splitAtGap?_append]
    simp [splitAtGap?, behind]

theorem ofText?_eq_some_iff {x : V6} : ofText? cs = some x ↔ IsText cs x := by
  unfold ofText?
  constructor
  · intro h
    -- Without a gap all eight groups are there; with one, the groups on its sides leave room for
    -- it.
    split at h
    · obtain ⟨groups, hside, h⟩ := Option.bind_eq_some_iff.1 h
      obtain ⟨hcount, hx⟩ := Option.ite_none_right_eq_some.1 h
      cases hx
      obtain ⟨-, rfl⟩ | hgroups := side?_eq_some_iff.1 hside
      · cases hcount
      · exact .full hgroups hcount
    · rename_i before after hsplit
      obtain ⟨head, hhead, h⟩ := Option.bind_eq_some_iff.1 h
      obtain ⟨tail, htail, h⟩ := Option.bind_eq_some_iff.1 h
      obtain ⟨hcount, hx⟩ := Option.ite_none_right_eq_some.1 h
      cases hx
      rw [eq_of_splitAtGap? hsplit]
      exact .gap (side?_eq_some_iff.1 hhead) (side?_eq_some_iff.1 htail) (by omega) (by omega)
  -- The first gap of the text is the one that the grammar speaks of, since groups by themselves
  -- have none.
  · intro h
    cases h with
    | full hgroups hcount =>
      have hsplit : splitAtGap? cs = none := by
        simpa [splitAtGap?] using hgroups.splitAtGap?_append []
      rw [hsplit]
      refine Option.bind_eq_some_iff.2 ⟨_, side?_eq_some_iff.2 (.inr hgroups), ?_⟩
      exact if_pos hcount
    | @gap front back head tail count hfront hback hcount htotal =>
      have hleft : 8 - (head.length + tail.length) = count := by omega
      rw [hfront.splitAtGap?_append]
      refine Option.bind_eq_some_iff.2 ⟨_, side?_eq_some_iff.2 hfront, ?_⟩
      refine Option.bind_eq_some_iff.2 ⟨_, side?_eq_some_iff.2 hback, ?_⟩
      rw [if_pos (by omega), hleft]

/-- There is a colon in an address of version 6. -/
theorem IsText.colon_mem {x : V6} (h : IsText cs x) : ':' ∈ cs := by
  cases h with
  | full hgroups hcount =>
    cases hgroups with
    | group _ => cases hcount
    | points _ _ => cases hcount
    | cons _ _ => simp
  | gap _ _ _ _ => simp

end V6

/-! ## Addresses of either version -/

namespace Address

/-- The text of an address. -/
def IsText (cs : List Char) : Address → Prop
  | v4 x => V4.IsText cs x
  | v6 x => V6.IsText cs x

theorem ofText?_eq_some_iff {cs : List Char} {a : Address} : ofText? cs = some a ↔ IsText cs a := by
  unfold ofText?
  -- The two forms exclude each other: the one has points and no colon, the other a colon always.
  cases hread : V4.ofText? cs with
  | some x =>
    have hx := V4.ofText?_eq_some_iff.1 hread
    cases a with
    | v4 y =>
      rw [IsText, ← V4.ofText?_eq_some_iff, hread]
      simp
    | v6 y =>
      refine iff_of_false (fun h => by cases h) fun hy : V6.IsText cs y => ?_
      exact hx.no_colon hy.colon_mem
  | none =>
    cases a with
    | v4 y =>
      rw [IsText, ← V4.ofText?_eq_some_iff, hread]
      simp
    | v6 y =>
      rw [IsText, ← V6.ofText?_eq_some_iff]
      simp

/-- Groups that are zero may be left out, and the last two may be written with points. -/
example : ofText? "::ffff:127.0.0.1".toList = some (.v6 ⟨[0, 0, 0, 0, 0, 0xFFFF, 0x7F00, 1]⟩) := by
  decide

end Address

end WalletGate.Net
