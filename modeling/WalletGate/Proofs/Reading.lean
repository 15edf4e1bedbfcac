import Mathlib.Algebra.Group.Int.Defs
import WalletGate.Json.Tree
import WalletGate.Json.Written
/-!
# What is written is read back

The text of a JSON value is read as that value, if the value has no doubles and is nested no deeper
than the reader goes.

* `tokenOf_quoted`, `tokenOf_integer`: the text of a string and of a whole number is one token, each
  with what may follow it;
* `Lexes`: a text is split into some tokens; one lemma for each way that a written text begins;
* `Spelled`, `SpelledItems`, `SpelledFields`: the tokens of a value, of the rest of an array and of
  the rest of an object, with the tree that they make and the value that the tree stands for;
* `Plain.exists_spelled`: every such value is spelled, by induction on the value;
* `Plain.parse?_written`: so it is read back.
-/

namespace WalletGate

/-! ## Numerals -/

namespace Text

theorem hexValue?_digitChar {d : Nat} (hd : d < 10) : hexValue? (Nat.digitChar d) = some d := by
  have hall : ∀ d : Fin 10, hexValue? (Nat.digitChar d) = some d.val := by decide
  exact hall ⟨d, hd⟩

theorem isDigit_digitChar {d : Nat} (hd : d < 10) : isDigit (Nat.digitChar d) = true := by
  have hall : ∀ d : Fin 10, isDigit (Nat.digitChar d) = true := by decide
  exact hall ⟨d, hd⟩

theorem digits_eq (n : Nat) :
    digits 10 n =
      if n < 10 then [Nat.digitChar n] else digits 10 (n / 10) ++ [Nat.digitChar (n % 10)] :=
  Nat.toDigits_eq_if (by decide)

theorem digits_ne_nil (n : Nat) : digits 10 n ≠ [] := by
  rw [digits_eq]
  split <;> simp

theorem isDigit_of_mem_digits (n : Nat) : ∀ c ∈ digits 10 n, isDigit c = true := by
  -- The induction is on the number and not on its digits: the digits before the last are those of
  -- the number without it.
  induction n using Nat.strongRecOn with
  | ind n ih =>
    intro c hc
    rw [digits_eq] at hc
    split at hc
    · rename_i hsmall
      rw [List.mem_singleton.1 hc]
      exact isDigit_digitChar hsmall
    · rcases List.mem_append.1 hc with hc | hc
      · exact ih (n / 10) (by omega) c hc
      · rw [List.mem_singleton.1 hc]
        exact isDigit_digitChar (by omega)

/-- Only zero is written with a zero in front. -/
theorem head?_digits {n : Nat} (hn : n ≠ 0) : (digits 10 n).head? ≠ some '0' := by
  induction n using Nat.strongRecOn with
  | ind n ih =>
    rw [digits_eq]
    split
    · rename_i hsmall
      have hall : ∀ d : Fin 10, d.val ≠ 0 → Nat.digitChar d ≠ '0' := by decide
      simpa using hall ⟨n, hsmall⟩ hn
    -- The first digit is that of the digits before the last, whose number is not zero either.
    · obtain ⟨c, cs, hcons⟩ := List.exists_cons_of_ne_nil (digits_ne_nil (n / 10))
      have hhead := ih (n / 10) (by omega) (by omega)
      rw [hcons] at hhead ⊢
      exact hhead

/-- A number is the value of its digits. -/
theorem digitsValue?_digits (n : Nat) : digitsValue? 10 (digits 10 n) = some n := by
  -- The value is computed by a fold, so the statement that goes through the induction is about the
  -- fold alone and leaves out that there is a digit at all.
  have hfold : ∀ n, (digits 10 n).foldl (digitsValue?.step 10) (some 0) = some n := by
    intro n
    induction n using Nat.strongRecOn with
    | ind n ih =>
      rw [digits_eq]
      split
      · rename_i hsmall
        simp [digitsValue?.step, hexValue?_digitChar hsmall, hsmall]
      · have hlast : n % 10 < 10 := by omega
        rw [List.foldl_append, ih (n / 10) (by omega)]
        simp only [List.foldl_cons, List.foldl_nil, digitsValue?.step, hexValue?_digitChar hlast,
          hlast, if_true, Option.some.injEq]
        omega
  unfold digitsValue?
  rw [if_neg (by simp [digits_ne_nil]), hfold]

end Text

namespace Json

/-! ## Characters of a text -/

theorem hexValue?_hexDigit {n : Nat} (hn : n < 16) :
    Text.hexValue? (Text.hexDigit n) = some n := by
  have hall : ∀ n : Fin 16, Text.hexValue? (Text.hexDigit n) = some n.val := by decide
  exact hall ⟨n, hn⟩

/-- What a character of a text is read as: a control without a letter of its own as an escape. -/
def unitOf (c : Char) : Unit16 :=
  if c.toNat < 32 ∧ c.toNat ∉ [8, 9, 10, 12, 13] then .escape c.toNat else .char c

theorem joinUnits_map_unitOf (cs : List Char) : joinUnits (cs.map unitOf) = some cs := by
  induction cs with
  | nil => rfl
  | cons c rest ih =>
    rw [List.map_cons, unitOf]
    split
    -- Of the units, only an escape has to be a character of its own: below the surrogates it is.
    · rename_i hcontrol
      have hsmall : c.toNat < 0xD800 ∨ 0xE000 ≤ c.toNat := .inl (by omega)
      unfold joinUnits
      rw [if_pos hsmall, ih, Char.ofNat_toNat]
      rfl
    · unfold joinUnits
      rw [ih]
      rfl

/-- A character that need not be escaped is read as itself. -/
theorem quotedUnits_plain {c : Char} (hquote : c ≠ '"') (hslash : c ≠ '\\') (hc : 32 ≤ c.toNat)
    (rest : List Char) (done : List Unit16) :
    quotedUnits (c :: rest) done = quotedUnits rest (.char c :: done) := by
  rw [quotedUnits, if_neg (Nat.not_lt.2 hc)]
  -- The other equations of the reader are for the two characters that are excluded.
  · exact hquote
  · intro a b c' d rest' heq
    exact absurd heq hslash
  · intro c' rest' heq
    exact absurd heq hslash

/-- An escaped character is read as one piece. -/
theorem quotedUnits_escaped (c : Char) (rest : List Char) (done : List Unit16) :
    quotedUnits (escaped c ++ rest) done = quotedUnits rest (unitOf c :: done) := by
  -- The short escapes are found by the code of the character, which is therefore known outright.
  have hof {n : Nat} (hn : c.toNat = n) : c = Char.ofNat n := by rw [← hn, Char.ofNat_toNat]
  unfold escaped
  by_cases hquote : c = '"'
  · rw [hquote]
    rfl
  · rw [if_neg hquote]
    by_cases hslash : c = '\\'
    · rw [hslash]
      rfl
    · rw [if_neg hslash]
      by_cases hcontrol : c.toNat < 32
      · rw [if_pos hcontrol]
        split
        -- The five control characters that have a letter of their own.
        · rename_i hn
          rw [hof hn]
          rfl
        · rename_i hn
          rw [hof hn]
          rfl
        · rename_i hn
          rw [hof hn]
          rfl
        · rename_i hn
          rw [hof hn]
          rfl
        · rename_i hn
          rw [hof hn]
          rfl
        -- Every other control character is spelled by four digits, of which the first two are zero.
        · rename_i n h8 h9 h10 h12 h13
          have hunit : unitOf c = .escape c.toNat := if_pos ⟨hcontrol, by simp_all⟩
          have hhex : hex4? '0' '0' (Text.hexDigit (c.toNat / 16)) (Text.hexDigit (c.toNat % 16)) =
              some c.toNat := by
            unfold hex4?
            rw [hexValue?_hexDigit (by omega), hexValue?_hexDigit (by omega)]
            simp only [show Text.hexValue? '0' = some 0 from rfl, Option.some.injEq]
            omega
          rw [hunit]
          simp only [List.cons_append, List.nil_append, quotedUnits, hhex]
      · have hunit : unitOf c = .char c := if_neg fun h => hcontrol h.1
        rw [if_neg hcontrol, hunit]
        exact quotedUnits_plain hquote hslash (Nat.le_of_not_lt hcontrol) rest done

theorem quotedUnits_flatMap (cs rest : List Char) (done : List Unit16) :
    quotedUnits (cs.flatMap escaped ++ '"' :: rest) done =
      some (done.reverse ++ cs.map unitOf, rest) := by
  induction cs generalizing done with
  | nil => simp [quotedUnits]
  | cons c cs ih =>
    rw [List.flatMap_cons, List.append_assoc, quotedUnits_escaped, ih]
    simp

theorem tokenOf_quoted (s : String) (rest : List Char) :
    tokenOf (quoted s ++ rest) = (.text (some s), rest) := by
  have hquoted : quoted s ++ rest = '"' :: (s.toList.flatMap escaped ++ '"' :: rest) := by
    simp [quoted]
  rw [hquoted]
  simp only [tokenOf, quotedUnits_flatMap, List.reverse_nil, List.nil_append,
    joinUnits_map_unitOf, Option.map_some, String.ofList_toList]

/-! ## Characters of a whole number -/

/-- What may follow a value inside a written text, or the end of the text. -/
def Ends (rest : List Char) : Prop := ∀ c ∈ rest.head?, c = ',' ∨ c = ']' ∨ c = '}'

/-- What ends a value is no part of a numeral. -/
theorem Ends.head?_ne {rest : List Char} (h : Ends rest) {c : Char}
    (hc : c ∉ [',', ']', '}']) : rest.head? ≠ some c := by
  intro hhead
  have hend := h c hhead
  simp only [List.mem_cons, List.not_mem_nil, or_false] at hc
  exact hc hend

theorem digitRun_append {ds rest : List Char} (hds : ∀ c ∈ ds, Text.isDigit c = true)
    (hrest : Ends rest) : digitRun (ds ++ rest) = (ds, rest) := by
  -- What ends a number is no digit, so the run of digits stops there.
  have hstop : rest.takeWhile Text.isDigit = [] ∧ rest.dropWhile Text.isDigit = rest := by
    cases rest with
    | nil => exact ⟨rfl, rfl⟩
    | cons c cs =>
      have hc : Text.isDigit c = false := by
        rcases hrest c rfl with rfl | rfl | rfl <;> rfl
      simp [hc]
  unfold digitRun
  rw [List.takeWhile_append_of_pos hds, List.dropWhile_append_of_pos hds, hstop.1, hstop.2,
    List.append_nil]

theorem fractionOf_of_ends {rest : List Char} (hrest : Ends rest) :
    fractionOf rest = some ([], rest) := by
  unfold fractionOf
  split
  · exact absurd rfl (hrest.head?_ne (c := '.') (by decide))
  · rfl

theorem exponentOf_of_ends {rest : List Char} (hrest : Ends rest) :
    exponentOf rest = some (none, rest) := by
  cases rest with
  | nil => rfl
  | cons c cs =>
    have hlower : c ≠ 'e' := fun h => hrest.head?_ne (c := 'e') (by decide) (by rw [h]; rfl)
    have hupper : c ≠ 'E' := fun h => hrest.head?_ne (c := 'E') (by decide) (by rw [h]; rfl)
    simp [exponentOf, hlower, hupper]

/-- The numeral of a whole number. -/
def numeral (i : Int) : Numeral := ⟨i < 0, Text.digits 10 i.natAbs, [], none⟩

theorem numeralOf_digits (negative : Bool) (n : Nat) {rest : List Char} (hrest : Ends rest) :
    numeralOf ((if negative then ['-'] else []) ++ Text.digits 10 n ++ rest) =
      some (⟨negative, Text.digits 10 n, [], none⟩, rest) := by
  -- There is a digit, and a leading zero is the only one.
  have hzero : ¬((Text.digits 10 n).isEmpty = true ∨
      ((Text.digits 10 n).head? = some '0' ∧ (Text.digits 10 n).length ≠ 1)) := by
    rintro (hempty | ⟨hhead, hlength⟩)
    · exact Text.digits_ne_nil n (List.isEmpty_iff.1 hempty)
    · by_cases hn : n = 0
      · rw [hn] at hlength
        exact hlength rfl
      · exact Text.head?_digits hn hhead
  have hrun : digitRun (Text.digits 10 n ++ rest) = (Text.digits 10 n, rest) :=
    digitRun_append (Text.isDigit_of_mem_digits n) hrest
  cases negative with
  | true =>
    unfold numeralOf
    simp only [if_true, List.cons_append, List.nil_append, hrun, hzero, if_false,
      fractionOf_of_ends hrest, exponentOf_of_ends hrest]
  | false =>
    -- Without a sign the text begins with a digit, which the reader does not take for a sign.
    have hsign : ∀ cs, Text.digits 10 n ++ rest ≠ '-' :: cs := by
      intro cs heq
      obtain ⟨c, ds, hcons⟩ := List.exists_cons_of_ne_nil (Text.digits_ne_nil n)
      rw [hcons] at heq
      have hdigit := Text.isDigit_of_mem_digits n c (by rw [hcons]; exact List.mem_cons_self)
      rw [(List.cons.inj heq).1] at hdigit
      exact absurd hdigit (by decide)
    unfold numeralOf
    simp only [if_false, Bool.false_eq_true, List.nil_append, hrun, hzero,
      fractionOf_of_ends hrest, exponentOf_of_ends hrest]

theorem toList_integer (i : Int) :
    (Text.integer i).toList =
      (if decide (i < 0) then ['-'] else []) ++ Text.digits 10 i.natAbs := by
  cases i with
  | ofNat n =>
    simp [Text.integer, Text.decimal]
  | negSucc n =>
    have hsign : Int.negSucc n < 0 := Int.negSucc_lt_zero n
    simp [Text.integer, Text.decimal, hsign]

theorem tokenOf_of_numeral {c : Char} {cs rest : List Char} {n : Numeral}
    (hc : c = '-' ∨ Text.isDigit c = true) (h : numeralOf (c :: cs) = some (n, rest)) :
    tokenOf (c :: cs) = (.number n, rest) := by
  unfold tokenOf
  split
  -- A character that begins a numeral begins no other token.
  all_goals first
    | (rename_i heq
       obtain ⟨rfl, _⟩ := List.cons.inj heq
       exact absurd hc (by decide))
    | simp only [h]

theorem tokenOf_integer (i : Int) {rest : List Char} (hrest : Ends rest) :
    tokenOf ((Text.integer i).toList ++ rest) = (.number (numeral i), rest) := by
  rw [toList_integer]
  have hread := numeralOf_digits (decide (i < 0)) i.natAbs hrest
  obtain ⟨d, ds, hcons⟩ := List.exists_cons_of_ne_nil (Text.digits_ne_nil i.natAbs)
  have hdigit : Text.isDigit d = true :=
    Text.isDigit_of_mem_digits i.natAbs d (by rw [hcons]; exact List.mem_cons_self)
  -- The sign, if there is one, is the first character; otherwise the first digit is.
  by_cases hsign : i < 0
  · simp only [hsign, decide_true, if_true, List.cons_append, List.nil_append] at hread ⊢
    rw [tokenOf_of_numeral (.inl rfl) hread]
    simp [numeral, hsign]
  · simp only [hsign, decide_false, Bool.false_eq_true, if_false, List.nil_append] at hread ⊢
    rw [hcons, List.cons_append] at hread ⊢
    rw [tokenOf_of_numeral (.inr hdigit) hread]
    simp [numeral, hsign, hcons]

/-- A whole number of sixty-four bits is the number of its numeral. -/
theorem number?_numeral {i : Int} (hlow : -(2 : Int) ^ 63 ≤ i) (hhigh : i < 2 ^ 64) :
    (numeral i).number? = some (.whole i) := by
  unfold Numeral.number? numeral
  simp only [Text.digitsValue?_digits, Option.getD_some, List.isEmpty_nil, Option.isNone_none,
    and_self, if_true, decide_eq_true_eq]
  -- The range is that of one type for numbers below zero and of another for the rest, and the
  -- bounds are compared as numbers.
  by_cases hsign : i < 0
  · have hbound : 0 < i.natAbs ∧ i.natAbs ≤ Nat.pow 2 63 := by
      constructor
      · omega
      · have : Nat.pow 2 63 = 9223372036854775808 := by decide
        omega
    rw [if_pos ⟨hsign, hbound⟩]
    congr 2
    omega
  · have hbound : i.natAbs < Nat.pow 2 64 := by
      have : Nat.pow 2 64 = 18446744073709551616 := by decide
      omega
    rw [if_neg (fun h => hsign h.1), if_pos ⟨hsign, hbound⟩]
    congr 2
    omega

/-! ## Tokens of a text -/

/-- The characters are cut into the tokens, however much fuel is left over. -/
def Lexes (cs : List Char) (ts : List Token) : Prop :=
  ∀ fuel, cs.length < fuel → tokens.go fuel cs = ts

theorem lexes_nil : Lexes [] [] := by
  intro fuel hfuel
  cases fuel with
  | zero => cases hfuel
  | succ fuel => rfl

theorem Lexes.cons {c : Char} {cs rest : List Char} {token : Token} {ts : List Token}
    (hspace : isSpace c = false) (htoken : tokenOf (c :: cs) = (token, rest))
    (hshorter : rest.length ≤ cs.length) (h : Lexes rest ts) : Lexes (c :: cs) (token :: ts) := by
  intro fuel hfuel
  cases fuel with
  | zero => cases hfuel
  | succ fuel =>
    -- No blank is in front of the token, and what is left of the fuel covers what is left of the
    -- text.
    unfold tokens.go
    rw [List.dropWhile_cons_of_neg (by simp [hspace])]
    simp only [htoken]
    rw [h fuel]
    simp only [List.length_cons] at hfuel
    omega

/-- A mark of one character. -/
theorem Lexes.mark {c : Char} {token : Token} {rest : List Char} {ts : List Token}
    (hspace : isSpace c = false) (htoken : tokenOf (c :: rest) = (token, rest))
    (h : Lexes rest ts) : Lexes (c :: rest) (token :: ts) :=
  .cons hspace htoken (Nat.le_refl _) h

theorem Lexes.quoted {rest : List Char} {ts : List Token} (s : String) (h : Lexes rest ts) :
    Lexes (Json.quoted s ++ rest) (.text (some s) :: ts) := by
  have htoken := tokenOf_quoted s rest
  unfold Json.quoted at htoken ⊢
  rw [List.cons_append, List.cons_append] at htoken ⊢
  refine .cons rfl htoken ?_ h
  rw [List.length_append]
  omega

theorem Lexes.integer {rest : List Char} {ts : List Token} (i : Int) (hrest : Ends rest)
    (h : Lexes rest ts) : Lexes ((Text.integer i).toList ++ rest) (.number (numeral i) :: ts) := by
  have htoken := tokenOf_integer i hrest
  obtain ⟨c, cs, hcons, hc⟩ : ∃ c cs, (Text.integer i).toList = c :: cs ∧ isSpace c = false := by
    rw [toList_integer]
    obtain ⟨d, ds, hcons⟩ := List.exists_cons_of_ne_nil (Text.digits_ne_nil i.natAbs)
    have hdigit : Text.isDigit d = true :=
      Text.isDigit_of_mem_digits i.natAbs d (by rw [hcons]; exact List.mem_cons_self)
    -- A digit is no blank.
    have hspace : isSpace d = false := by
      cases hspace : isSpace d with
      | false => rfl
      | true =>
        simp only [isSpace, Bool.or_eq_true, beq_iff_eq] at hspace
        rcases hspace with ((rfl | rfl) | rfl) | rfl <;> exact absurd hdigit (by decide)
    by_cases hsign : i < 0
    · exact ⟨'-', _, by rw [if_pos (by simp [hsign])]; rfl, rfl⟩
    · exact ⟨d, ds, by rw [if_neg (by simp [hsign]), hcons]; rfl, hspace⟩
  -- What is read is shorter by a character at least.
  rw [hcons, List.cons_append] at htoken ⊢
  exact .cons hc htoken (by rw [List.length_append]; omega) h

/-! ## Values -/

/-- A value without doubles that is nested at most so deep: its whole numbers have sixty-four bits
and its objects list their fields in order of key. -/
inductive Plain : Nat → Json → Prop where
  | null (depth : Nat) : Plain depth .null
  | bool (depth : Nat) (b : Bool) : Plain depth (.bool b)
  | whole (depth : Nat) {i : Int} (hlow : -(2 : Int) ^ 63 ≤ i) (hhigh : i < 2 ^ 64) :
    Plain depth (.whole i)
  | text (depth : Nat) (s : String) : Plain depth (.text s)
  | array {depth : Nat} {items : List Json} (hitems : ∀ v ∈ items, Plain depth v) :
    Plain (depth + 1) (.array items)
  | object {depth : Nat} {fields : List (String × Json)}
    (hfields : ∀ field ∈ fields, Plain depth field.2) : Plain (depth + 1) (.ofFields fields)

theorem Plain.object_of_sorted {depth : Nat} {fields : List (String × Json)}
    (hkeys : Entries.Sorted fields) (hfields : ∀ field ∈ fields, Plain depth field.2) :
    Plain (depth + 1) (.object fields) :=
  congrArg Json.object hkeys.ofList_eq ▸ Plain.object hfields

/-- The tokens of a value, as written, and the tree that they make. -/
structure Spelled (depth : Nat) (v : Json) (ts : List Token) (t : Tree) : Prop where
  /-- The first token closes nothing. -/
  opens : ∃ token rest, ts = token :: rest ∧ token ≠ .closeBracket ∧ token ≠ .closeBrace
  lexes : ∀ {rest us}, Ends rest → Lexes rest us → Lexes (v.chars ++ rest) (ts ++ us)
  parses : ∀ {fuel us}, 2 * ts.length ≤ fuel → treeOf fuel (ts ++ us) = some (t, us)
  value : t.json? depth = some v

/-- The tokens of some items up to the closing bracket, and their trees. -/
structure SpelledItems (depth : Nat) (items : List Json) (ts : List Token) (trees : List Tree) :
    Prop where
  opens : ∃ token rest, ts = token :: rest ∧ token ≠ .closeBracket
  lexes : ∀ {rest us}, Lexes rest us → Lexes (itemChars items ++ rest) (ts ++ us)
  parses : ∀ {fuel us}, 2 * ts.length + 1 ≤ fuel → itemsOf fuel (ts ++ us) = some (trees, us)
  value : itemsJson? depth trees = some items

/-- The tokens of some fields up to the closing brace, and their trees. -/
structure SpelledFields (depth : Nat) (fields : List (String × Json)) (ts : List Token)
    (trees : List (Option String × Tree)) : Prop where
  opens : ∃ token rest, ts = token :: rest ∧ token ≠ .closeBrace
  lexes : ∀ {rest us}, Lexes rest us → Lexes (fieldChars fields ++ rest) (ts ++ us)
  parses : ∀ {fuel us}, 2 * ts.length + 1 ≤ fuel → fieldsOf fuel (ts ++ us) = some (trees, us)
  value : fieldsJson? depth trees = some fields

theorem ends_cons {c : Char} (hc : c = ',' ∨ c = ']' ∨ c = '}') (rest : List Char) :
    Ends (c :: rest) := by
  intro c' hc'
  rw [← Option.some.inj hc']
  exact hc

theorem Spelled.lastItem {depth : Nat} {v : Json} {ts : List Token} {t : Tree}
    (h : Spelled depth v ts t) : SpelledItems depth [v] (ts ++ [.closeBracket]) [t] := by
  constructor
  -- The item opens the list, so no closing bracket is there in its place.
  · obtain ⟨token, rest, rfl, hbracket, _⟩ := h.opens
    exact ⟨token, _, rfl, hbracket⟩
  · intro rest us hrest
    rw [itemChars, List.append_assoc, List.append_assoc]
    exact h.lexes (ends_cons (.inr (.inl rfl)) rest) (.mark rfl rfl hrest)
  · intro fuel us hfuel
    -- One unit of fuel is for the list itself; the rest covers the item.
    cases fuel with
    | zero => omega
    | succ fuel =>
      rw [List.length_append, List.length_singleton] at hfuel
      rw [List.append_assoc, itemsOf, h.parses (by omega)]
      rfl
  · simp only [itemsJson?, h.value]

theorem Spelled.consItem {depth : Nat} {v w : Json} {items : List Json} {ts ts' : List Token}
    {t : Tree} {trees : List Tree} (h : Spelled depth v ts t)
    (hrest : SpelledItems depth (w :: items) ts' trees) :
    SpelledItems depth (v :: w :: items) (ts ++ .comma :: ts') (t :: trees) := by
  constructor
  · obtain ⟨token, rest, rfl, hbracket, _⟩ := h.opens
    exact ⟨token, _, rfl, hbracket⟩
  · intro rest us hlexes
    rw [itemChars, List.append_assoc, List.append_assoc]
    exact h.lexes (ends_cons (.inl rfl) _) (.mark rfl rfl (hrest.lexes hlexes))
  · intro fuel us hfuel
    -- The fuel is for twice the tokens of the item and of the rest, and each is read with its
    -- share.
    cases fuel with
    | zero => omega
    | succ fuel =>
      rw [List.length_append, List.length_cons] at hfuel
      rw [List.append_assoc, itemsOf, h.parses (by omega)]
      simp only [List.cons_append]
      rw [hrest.parses (by omega)]
      rfl
  · simp only [itemsJson?, h.value, hrest.value]

theorem exists_spelledItems {depth : Nat} {items : List Json} (hne : items ≠ [])
    (h : ∀ v ∈ items, ∃ ts t, Spelled depth v ts t) :
    ∃ ts trees, SpelledItems depth items ts trees := by
  induction items with
  | nil => exact absurd rfl hne
  | cons v rest ih =>
    obtain ⟨ts, t, hv⟩ := h v List.mem_cons_self
    -- The last item has no comma behind it, so one item is the base and not none.
    cases rest with
    | nil => exact ⟨_, _, hv.lastItem⟩
    | cons w rest =>
      obtain ⟨ts', trees, hrest⟩ :=
        ih (List.cons_ne_nil w rest) fun x hx => h x (List.mem_cons_of_mem v hx)
      exact ⟨_, _, hv.consItem hrest⟩

theorem Spelled.lastField {depth : Nat} {v : Json} {ts : List Token} {t : Tree}
    (h : Spelled depth v ts t) (key : String) :
    SpelledFields depth [(key, v)] (.text (some key) :: .colon :: (ts ++ [.closeBrace]))
      [(some key, t)] := by
  constructor
  · exact ⟨_, _, rfl, by simp⟩
  -- The key and the colon are tokens of their own; then the value is spelled as it stands.
  · intro rest us hrest
    rw [fieldChars, List.append_assoc, List.append_assoc]
    exact .quoted key (.mark rfl rfl
      (by simpa using h.lexes (ends_cons (.inr (.inr rfl)) rest) (.mark rfl rfl hrest)))
  · intro fuel us hfuel
    cases fuel with
    -- One unit of fuel is for the list of fields; the rest covers the value.
    | zero => omega
    | succ fuel =>
      simp only [List.length_append, List.length_cons, List.length_nil] at hfuel
      simp only [List.cons_append, List.append_assoc, fieldsOf]
      rw [h.parses (by omega)]
      rfl
  · simp only [fieldsJson?, h.value]

theorem Spelled.consField {depth : Nat} {v : Json} {field : String × Json}
    {fields : List (String × Json)} {ts ts' : List Token} {t : Tree}
    {trees : List (Option String × Tree)} (h : Spelled depth v ts t) (key : String)
    (hrest : SpelledFields depth (field :: fields) ts' trees) :
    SpelledFields depth ((key, v) :: field :: fields)
      (.text (some key) :: .colon :: (ts ++ .comma :: ts')) ((some key, t) :: trees) := by
  constructor
  · exact ⟨_, _, rfl, by simp⟩
  · intro rest us hlexes
    rw [fieldChars, List.append_assoc, List.append_assoc]
    -- The value ends at a comma here, and the rest of the fields lexes by itself.
    exact .quoted key (.mark rfl rfl
      (by simpa using h.lexes (ends_cons (.inl rfl) _) (.mark rfl rfl (hrest.lexes hlexes))))
  · intro fuel us hfuel
    cases fuel with
    -- The key and the colon count as tokens too, so what is left of the fuel covers both the value
    -- and the rest.
    | zero => omega
    | succ fuel =>
      simp only [List.length_append, List.length_cons] at hfuel
      simp only [List.cons_append, List.append_assoc, fieldsOf]
      rw [h.parses (by omega)]
      simp only
      rw [hrest.parses (by omega)]
      rfl
  · simp only [fieldsJson?, h.value, hrest.value]

theorem exists_spelledFields {depth : Nat} {fields : List (String × Json)} (hne : fields ≠ [])
    (h : ∀ field ∈ fields, ∃ ts t, Spelled depth field.2 ts t) :
    ∃ ts trees, SpelledFields depth fields ts trees := by
  induction fields with
  | nil => exact absurd rfl hne
  | cons field rest ih =>
    obtain ⟨ts, t, hv⟩ := h field List.mem_cons_self
    -- As with items, one field is the base.
    cases rest with
    | nil => exact ⟨_, _, hv.lastField field.1⟩
    | cons field' rest =>
      obtain ⟨ts', trees, hrest⟩ :=
        ih (List.cons_ne_nil field' rest) fun x hx => h x (List.mem_cons_of_mem field hx)
      exact ⟨_, _, hv.consField field.1 hrest⟩

/-- A value of one token. -/
theorem Spelled.leaf {depth : Nat} {v : Json} (token : Token) (t : Tree)
    (hopens : token ≠ .closeBracket ∧ token ≠ .closeBrace)
    (hlexes : ∀ {rest us}, Ends rest → Lexes rest us → Lexes (v.chars ++ rest) (token :: us))
    (hparses : ∀ fuel us, treeOf (fuel + 1) (token :: us) = some (t, us))
    (hvalue : t.json? depth = some v) : Spelled depth v [token] t := by
  refine ⟨⟨token, [], rfl, hopens.1, hopens.2⟩, hlexes, fun {fuel us} hfuel => ?_, hvalue⟩
  cases fuel with
  | zero => cases hfuel
  | succ fuel => exact hparses fuel us

theorem SpelledItems.array {depth : Nat} {items : List Json} {ts : List Token} {trees : List Tree}
    (h : SpelledItems depth items ts trees) :
    Spelled (depth + 1) (.array items) (.openBracket :: ts) (.array trees) := by
  refine ⟨⟨_, _, rfl, by simp, by simp⟩, fun _ hlexes => .mark rfl rfl (h.lexes hlexes),
    fun {fuel us} hfuel => ?_, by simp only [Tree.json?, h.value, Option.map_some]⟩
  cases fuel with
  | zero => cases hfuel
  | succ fuel =>
    have hitems : itemsOf fuel (ts ++ us) = some (trees, us) := by
      refine h.parses ?_
      rw [List.length_cons] at hfuel
      omega
    -- The equation of a non-empty array is guarded by its first token, which closes nothing.
    obtain ⟨token, rest, rfl, hopens⟩ := h.opens
    rw [List.cons_append, List.cons_append, treeOf, ← List.cons_append, hitems]
    · rfl
    · intro rest' heq
      exact hopens (List.cons.inj heq).1

theorem SpelledFields.object {depth : Nat} {fields : List (String × Json)} {ts : List Token}
    {trees : List (Option String × Tree)}
    (h : SpelledFields depth (Entries.ofList fields) ts trees) :
    Spelled (depth + 1) (.ofFields fields) (.openBrace :: ts) (.object trees) := by
  refine ⟨⟨_, _, rfl, by simp, by simp⟩, fun _ hlexes => .mark rfl rfl (h.lexes hlexes),
    fun {fuel us} hfuel => ?_, ?_⟩
  · cases fuel with
    | zero => cases hfuel
    | succ fuel =>
      have hfields : fieldsOf fuel (ts ++ us) = some (trees, us) := by
        refine h.parses ?_
        rw [List.length_cons] at hfuel
        omega
      -- As for an array, the first token is not the closing brace.
      obtain ⟨token, rest, rfl, hopens⟩ := h.opens
      rw [List.cons_append, List.cons_append, treeOf, ← List.cons_append, hfields]
      · rfl
      · intro rest' heq
        exact hopens (List.cons.inj heq).1
  -- Trees of fields make an object by their map, and these are in order already.
  · simp only [Tree.json?, h.value, Option.map_some, ofFields,
      (Entries.sorted_ofList fields).ofList_eq]

theorem spelled_emptyArray (depth : Nat) :
    Spelled (depth + 1) (.array []) [.openBracket, .closeBracket] (.array []) := by
  refine ⟨⟨_, _, rfl, by simp, by simp⟩, fun _ hrest => .mark rfl rfl (.mark rfl rfl hrest),
    fun {fuel us} hfuel => ?_, by simp [Tree.json?, itemsJson?]⟩
  cases fuel with
  | zero => cases hfuel
  | succ fuel => simp [treeOf]

theorem spelled_emptyObject (depth : Nat) :
    Spelled (depth + 1) (.object []) [.openBrace, .closeBrace] (.object []) := by
  refine ⟨⟨_, _, rfl, by simp, by simp⟩, fun _ hrest => .mark rfl rfl (.mark rfl rfl hrest),
    fun {fuel us} hfuel => ?_, by simp [Tree.json?, fieldsJson?, ofFields, Entries.ofList]⟩
  cases fuel with
  | zero => cases hfuel
  | succ fuel => simp [treeOf]

/-- A plain value is spelled by some tokens that make a tree. -/
theorem Plain.exists_spelled {depth : Nat} {v : Json} (h : Plain depth v) :
    ∃ ts t, Spelled depth v ts t := by
  -- By induction on the value: each kind is spelled by its own tokens, containers from those of
  -- their members.
  induction h with
  | null depth =>
    exact ⟨_, _, .leaf .null .null (by simp)
      (fun _ hrest => .cons rfl rfl (by simp; omega) hrest) (fun _ _ => rfl) (by simp [Tree.json?])⟩
  | bool depth b =>
    refine ⟨_, _, .leaf (.bool b) (.bool b) (by simp) (fun _ hrest => ?_)
      (fun _ _ => by simp [treeOf]) (by simp [Tree.json?])⟩
    cases b with
    | false => exact .cons rfl rfl (by simp; omega) hrest
    | true => exact .cons rfl rfl (by simp; omega) hrest
  | @whole depth i hlow hhigh =>
    exact ⟨_, _, .leaf (.number (numeral i)) (.number (numeral i)) (by simp)
      (fun hends hrest => .integer i hends hrest) (fun _ _ => by simp [treeOf])
      (by simp [Tree.json?, number?_numeral hlow hhigh, Json.whole])⟩
  | text depth s =>
    exact ⟨_, _, .leaf (.text (some s)) (.text (some s)) (by simp)
      (fun _ hrest => .quoted s hrest) (fun _ _ => by simp [treeOf]) (by simp [Tree.json?])⟩
  | @array depth items hitems ih =>
    -- An empty container is two marks and has no members to spell.
    by_cases hne : items = []
    · rw [hne]
      exact ⟨_, _, spelled_emptyArray depth⟩
    · obtain ⟨ts, trees, hspelled⟩ := exists_spelledItems hne ih
      exact ⟨_, _, hspelled.array⟩
  | @object depth fields hfields ih =>
    by_cases hne : Entries.ofList fields = []
    · rw [ofFields, hne]
      exact ⟨_, _, spelled_emptyObject depth⟩
    · obtain ⟨ts, trees, hspelled⟩ :=
        exists_spelledFields hne fun field hfield => ih field (Entries.mem_ofList hfield)
      exact ⟨_, _, hspelled.object⟩

/-- A plain value is read back from the text that is written for it. -/
theorem Plain.parse?_written {v : Json} (h : Plain maxDepth v) : parse? v.written = some v := by
  obtain ⟨ts, t, hspelled⟩ := h.exists_spelled
  have hends : Ends [] := by
    intro c hc
    cases hc
  have hlexes := hspelled.lexes hends lexes_nil
  -- Lexing, parsing and building the value are put one behind the other on the whole text.
  rw [List.append_nil, List.append_nil] at hlexes
  have htokens : tokens v.written = ts := by
    unfold tokens written
    rw [String.toList_ofList]
    exact hlexes _ (Nat.lt_succ_self _)
  have htree : tree? ts = some (t, []) := by
    have hparses : treeOf (2 * ts.length + 2) (ts ++ []) = some (t, []) :=
      hspelled.parses (by omega)
    rw [List.append_nil] at hparses
    exact hparses
  unfold parse?
  rw [htokens, htree]
  exact hspelled.value

end Json

end WalletGate
