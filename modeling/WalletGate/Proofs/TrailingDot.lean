import WalletGate.Domain.Ascii
import WalletGate.Net.Address
import WalletGate.Proofs.Basic
import WalletGate.Proofs.Values
/-!
# Names with a dot behind them

A domain name may be written with a dot behind its last label. The way from the text of a host to
its ASCII form keeps that dot: it is no part of an escape, of the bytes of another character or of a
composed one, and behind it stands one more label, which is empty and breaks no rule. A name with
the dot is not taken for an address unless the name is.

* `Text.unescape_concat_dot`, `Text.ofBytes?_concat_dot`: escapes and bytes;
* `normalize_concat`: characters behind a text that no composition reaches;
* `HasAscii`, `ascii?_eq_some_iff`: what makes up the ASCII form of a name;
* `ascii?_concat_dot`: the ASCII form of a name with a dot behind it.
-/

namespace WalletGate

/-! ## Bytes and escapes -/

namespace Text

/-- The first byte that follows a leading byte is no ASCII character. -/
theorem low_of_announced? {b count low high n : Nat}
    (h : announced? b = some (count, low, high, n)) :
    0x80 ≤ low := by
  unfold announced? at h
  split_ifs at h <;> cases h <;> decide

/-- An ASCII character is not read as one of the bytes that follow a leading byte. -/
theorem readFollowing_concat {b : UInt8} (hb : b.toNat < 0x80) (count : Nat) {low : Nat}
    (hlow : 0x80 ≤ low) (high n : Nat) (bs : List UInt8) :
    readFollowing count low high n (bs ++ [b]) =
      ((readFollowing count low high n bs).1, (readFollowing count low high n bs).2 ++ [b]) := by
  -- Induction on the bytes that are announced; only the range of the first depends on what led.
  induction count generalizing low high n bs with
  | zero => rfl
  | succ count ih =>
    cases bs with
    | nil =>
      have hout : ¬(low ≤ b.toNat ∧ b.toNat ≤ high) := by omega
      show readFollowing (count + 1) low high n [b] = (none, [b])
      rw [readFollowing, if_neg hout]
    | cons c rest =>
      rw [List.cons_append, readFollowing, readFollowing]
      by_cases hin : low ≤ c.toNat ∧ c.toNat ≤ high
      · rw [if_pos hin, if_pos hin]
        exact ih (le_refl _) _ _ rest
      · rw [if_neg hin, if_neg hin]
        rfl

/-- An ASCII character behind other bytes is read as itself, also if a character breaks off there.
-/
theorem readBytes_concat {b : UInt8} (hb : b.toNat < 0x80) (bs : List UInt8) :
    readBytes (bs ++ [b]) = readBytes bs ++ [some (Char.ofNat b.toNat)] := by
  induction bs using readBytes.induct with
  | case1 =>
    have hnil : readBytes [] = [] := by rw [readBytes]
    rw [List.nil_append, hnil, readBytes, if_pos hb, hnil, List.nil_append]
  | case2 c rest hc ih =>
    rw [List.cons_append, readBytes, if_pos hc, ih, readBytes, if_pos hc, List.cons_append]
  | case3 c rest hc hnone ih =>
    rw [List.cons_append, readBytes, if_neg hc, hnone, readBytes, if_neg hc, hnone]
    simp only [ih, List.cons_append]
  | case4 c rest hc count low high n hsome _ ih =>
    have hlow := low_of_announced? hsome
    rw [List.cons_append, readBytes, if_neg hc, hsome, readBytes, if_neg hc, hsome]
    simp only [readFollowing_concat hb count hlow, ih, List.cons_append]

theorem ofBytes?_concat_dot {bs : List UInt8} {cs : List Char} (h : ofBytes? bs = some cs) :
    ofBytes? (bs ++ [0x2E]) = some (cs ++ ['.']) := by
  unfold ofBytes? at h ⊢
  rw [readBytes_concat (by decide), List.mapM_append, h]
  rfl

/-- A percent sign without two digits behind it stands for itself. -/
theorem unescape_percent {a b : Char}
    (hnot : ∀ x y, hexValue? a = some x → hexValue? b = some y → False) (rest : List Char) :
    unescape ('%' :: a :: b :: rest) = 0x25 :: unescape (a :: b :: rest) := by
  rw [unescape]
  split
  · rename_i hx hy
    exact absurd hy (hnot _ _ hx)
  · rfl

theorem unescape_cons {c : Char} {rest : List Char}
    (hc : ∀ a b rest', c = '%' → rest = a :: b :: rest' → False) :
    unescape (c :: rest) = String.utf8EncodeChar c ++ unescape rest := by
  rw [unescape]
  exact hc

/-- A dot is no part of an escape. -/
theorem unescape_concat_dot (cs : List Char) : unescape (cs ++ ['.']) = unescape cs ++ [0x2E] := by
  have hdot : unescape ['.'] = [0x2E] := by decide
  have hnone : hexValue? '.' = none := by decide
  -- The cases are those of the reader: nothing, an escape, a percent sign that begins none, any
  -- other character.
  induction cs using unescape.induct with
  | case1 => exact hdot
  | case2 a b rest x y hy hx ih => simp only [List.cons_append, unescape, hx, hy, ih]
  | case3 a b rest hnot ih =>
    rw [unescape_percent hnot]
    exact (unescape_percent hnot (rest ++ ['.'])).trans (congrArg _ ih)
  | case4 c rest hc ih =>
    rw [unescape_cons hc, List.append_assoc, ← ih, List.cons_append]
    by_cases hpercent : c = '%' ∧ rest.length = 1
    · -- One character behind the percent sign and then the dot, which is no digit.
      obtain ⟨rfl, hlength⟩ := hpercent
      obtain ⟨a, rfl⟩ := List.length_eq_one_iff.1 hlength
      refine unescape_percent (fun x y _ hy => ?_) []
      rw [hnone] at hy
      cases hy
    · refine unescape_cons ?_
      intro a b rest' hc' hrest
      rcases rest with _ | ⟨a', _ | ⟨b', rest⟩⟩
      · cases hrest
      · exact hpercent ⟨hc', rfl⟩
      · exact hc a' b' rest hc' rfl

/-- A dot behind a text adds an empty piece. -/
theorem pieces_concat_dot (cs : List Char) :
    pieces (· == '.') (cs ++ ['.']) = pieces (· == '.') cs ++ [[]] := by
  rw [pieces_eq_splitOn, pieces_eq_splitOn, List.splitOn_append_cons_self, List.splitOn_nil]

end Text

namespace Domain

/-! ## Normal form -/

section Normal

variable {c : Char}

theorem takeApart_of_lt (hc : c.toNat < 0xC0) (depth : Nat) : takeApart depth c = [c] := by
  cases depth with
  | zero => rfl
  | succ depth =>
    have hparts : parts? c = none := if_pos hc
    rw [takeApart, hparts]

theorem combiningClass_of_lt (hc : c.toNat < 0xC0) : combiningClass c = 0 := if_pos (by omega)

theorem compose?_of_lt (hc : c.toNat < 0xC0) (a : Char) : compose? a c = none := if_pos (by omega)

theorem orderMarks_concat (hc : c.toNat < 0xC0) (cs : List Char) :
    orderMarks (cs ++ [c]) = orderMarks cs ++ [c] := by
  -- A character without a class is put before no mark.
  have hinsert : ∀ done, insertMark c done = c :: done := by
    intro done
    cases done with
    | nil => rfl
    | cons d before =>
      rw [insertMark, combiningClass_of_lt hc]
      exact if_neg (by omega)
  unfold orderMarks
  rw [List.foldl_concat, hinsert, List.reverse_cons]

theorem composeFrom_concat (hc : c.toNat < 0xC0) (starter : Char) (kept cs : List Char) :
    composeFrom starter kept (cs ++ [c]) = composeFrom starter kept cs ++ [c] := by
  induction cs generalizing starter kept with
  | nil =>
    -- The character composes with nothing before it and is a starter of its own.
    have hnone (blocked : Bool) : (if blocked then none else compose? starter c) = none := by
      rw [compose?_of_lt hc, ite_self]
    have hanew : composeFrom c [] [] = [c] := rfl
    rw [List.nil_append, composeFrom.eq_def starter kept [c], composeFrom.eq_def starter kept []]
    simp only [hnone, combiningClass_of_lt hc, hanew, if_true, List.cons_append]
  | cons d rest ih =>
    rw [List.cons_append, composeFrom.eq_def starter kept (d :: (rest ++ [c])),
      composeFrom.eq_def starter kept (d :: rest)]
    dsimp only
    -- The cases of the composition: the two characters compose, or the one opens a new group, or it
    -- is kept for later.
    split
    · exact ih _ _
    · split
      · rw [ih, List.cons_append, List.append_assoc]
      · exact ih _ _

theorem compose_concat (hc : c.toNat < 0xC0) (cs : List Char) :
    compose (cs ++ [c]) = compose cs ++ [c] := by
  induction cs with
  | nil =>
    show compose [c] = [c]
    rw [compose, if_pos (combiningClass_of_lt hc)]
    rfl
  | cons d rest ih =>
    rw [List.cons_append, compose, compose]
    split
    · exact composeFrom_concat hc _ _ _
    · rw [ih, List.cons_append]

/-- A character below U+00C0 behind a text stays as it is, and changes nothing before it. -/
theorem normalize_concat (hc : c.toNat < 0xC0) (cs : List Char) :
    normalize (cs ++ [c]) = normalize cs ++ [c] := by
  have hall : (cs ++ [c]).all (·.toNat < 0xC0) = cs.all (·.toNat < 0xC0) := by simp [hc]
  unfold normalize
  rw [hall]
  split
  · rfl
  · rw [List.flatMap_append, List.flatMap_singleton, takeApart_of_lt hc, orderMarks_concat hc,
      compose_concat hc]

end Normal

/-! ## Names in ASCII -/

/-- The mapped and composed form of a name whose characters are mapped to the given parts. -/
def composed (parts : List (List Char)) : List Char := normalize parts.flatten

/-- The labels of that form. -/
def labels (parts : List (List Char)) : List (List Char) :=
  Text.pieces (· == '.') (composed parts)

/-- What makes up the ASCII form of a name: what its characters are mapped to, what its labels mean,
and how these are written. -/
structure HasAscii (name : List Char) (parts meanings written : List (List Char)) : Prop where
  mapped : name.mapM map? = some parts
  allowed : (composed parts).any isForbidden = false
  meant : (labels parts).mapM meant? = some meanings
  fitting : meanings.all fits = true
  directed : (meanings.any (·.any turnsDirection) && !meanings.all obeysDirection) = false
  encoded : (labels parts).mapM encodeLabel? = some written

theorem ascii?_eq_some_iff {name ascii : List Char} :
    ascii? name = some ascii ↔ ∃ parts meanings written,
      HasAscii name parts meanings written ∧ ascii = ['.'].intercalate written := by
  unfold ascii?
  constructor
  · intro h
    obtain ⟨parts, hparts, h⟩ := Option.bind_eq_some_iff.1 h
    dsimp only at h
    -- Each of the three checks ends in nothing if it fails.
    split at h
    · cases h
    rename_i hallowed
    obtain ⟨meanings, hmeanings, h⟩ := Option.bind_eq_some_iff.1 h
    split at h
    · cases h
    rename_i hfitting
    split at h
    · cases h
    rename_i hdirected
    obtain ⟨written, hwritten, h⟩ := Option.bind_eq_some_iff.1 h
    refine ⟨parts, meanings, written, ⟨hparts, ?_, hmeanings, ?_, ?_, hwritten⟩, ?_⟩
    · exact Bool.eq_false_iff.2 hallowed
    · simpa using hfitting
    · exact Bool.eq_false_iff.2 hdirected
    · exact (Option.some.inj h).symm
  · rintro ⟨parts, meanings, written, h, rfl⟩
    have hallowed : (normalize parts.flatten).any isForbidden = false := h.allowed
    have hmeant : (Text.pieces (· == '.') (normalize parts.flatten)).mapM meant? = some meanings :=
      h.meant
    have hencoded : (Text.pieces (· == '.') (normalize parts.flatten)).mapM encodeLabel? =
        some written := h.encoded
    simp only [Option.bind_eq_bind, h.mapped, Option.bind_some, hallowed, hmeant, h.fitting,
      h.directed, hencoded, Bool.not_true, Bool.false_eq_true, if_false]

theorem composed_concat_dot (parts : List (List Char)) :
    composed (parts ++ [['.']]) = composed parts ++ ['.'] := by
  have hflat : (parts ++ [['.']]).flatten = parts.flatten ++ ['.'] := by simp
  rw [composed, hflat, normalize_concat (by decide), composed]

theorem labels_concat_dot (parts : List (List Char)) :
    labels (parts ++ [['.']]) = labels parts ++ [[]] := by
  rw [labels, composed_concat_dot, Text.pieces_concat_dot, labels]

/-- A dot behind a name adds an empty label, which means itself and breaks no rule. -/
theorem HasAscii.concat_dot {name : List Char} {parts meanings written : List (List Char)}
    (h : HasAscii name parts meanings written) :
    HasAscii (name ++ ['.']) (parts ++ [['.']]) (meanings ++ [[]]) (written ++ [[]]) where
  mapped := by
    rw [List.mapM_append, h.mapped]
    rfl
  allowed := by
    rw [composed_concat_dot, List.any_append, h.allowed]
    rfl
  meant := by
    rw [labels_concat_dot, List.mapM_append, h.meant]
    rfl
  fitting := by
    rw [List.all_append, h.fitting]
    rfl
  directed := by
    have hempty : obeysDirection [] = true := rfl
    have hdirected := h.directed
    rw [List.any_append, List.all_append]
    simpa [hempty] using hdirected
  encoded := by
    rw [labels_concat_dot, List.mapM_append, h.encoded]
    rfl

theorem HasAscii.written_ne_nil {name : List Char} {parts meanings written : List (List Char)}
    (h : HasAscii name parts meanings written) : written ≠ [] := by
  have hencoded := h.encoded
  cases hlabels : labels parts with
  | nil => exact absurd hlabels (Text.pieces_ne_nil _ _)
  | cons label rest =>
    rw [hlabels, List.mapM_cons] at hencoded
    obtain ⟨first, _, hencoded⟩ := Option.bind_eq_some_iff.1 hencoded
    obtain ⟨others, _, hencoded⟩ := Option.bind_eq_some_iff.1 hencoded
    cases hencoded
    exact List.cons_ne_nil _ _

/-- The ASCII form of a name with a dot behind it is that of the name, with a dot behind it. -/
theorem ascii?_concat_dot {name ascii : List Char} (h : ascii? name = some ascii) :
    ascii? (name ++ ['.']) = some (ascii ++ ['.']) := by
  obtain ⟨parts, meanings, written, hname, rfl⟩ := ascii?_eq_some_iff.1 h
  refine ascii?_eq_some_iff.2 ⟨_, _, _, hname.concat_dot, ?_⟩
  rw [intercalate_append '.' written [[]] hname.written_ne_nil (List.cons_ne_nil _ _),
    List.intercalate_singleton]

end Domain

/-! ## Addresses -/

namespace Net.V4

theorem looseParts_concat_dot (cs : List Char) :
    looseParts (cs ++ ['.']) = Text.pieces (· == '.') cs := by
  have hlength := List.length_pos_iff.2 (Text.pieces_ne_nil (· == '.') cs)
  unfold looseParts
  simp [Text.pieces_concat_dot, hlength]

theorem looseParts_of_getLast? {cs : List Char} (hlast : cs.getLast? ≠ some '.') :
    looseParts cs = Text.pieces (· == '.') cs := by
  unfold looseParts
  refine if_neg fun hempty => hlast ?_
  rw [Bool.and_eq_true, decide_eq_true_iff, decide_eq_true_iff] at hempty
  obtain ⟨hempty, hlength⟩ := hempty
  -- An empty last part, if it is not the only one, stands behind a dot.
  obtain ⟨front, hfront⟩ := List.getLast?_eq_some_iff.1 hempty
  have hne : front ≠ [] := by
    rintro rfl
    rw [hfront] at hlength
    exact absurd hlength (by decide)
  have hcs : cs = ['.'].intercalate (front ++ [[]]) := by
    rw [← hfront, Text.pieces_eq_splitOn, List.intercalate_splitOn]
  rw [hcs, intercalate_append '.' front [[]] hne (List.cons_ne_nil _ _),
    List.intercalate_singleton, List.getLast?_concat]

/-- Whether a name must be an address does not depend on a dot behind it. -/
theorem endsInNumber_concat_dot {cs : List Char} (hlast : cs.getLast? ≠ some '.') :
    endsInNumber (cs ++ ['.']) = endsInNumber cs := by
  unfold endsInNumber
  rw [looseParts_concat_dot, looseParts_of_getLast? hlast]

end Net.V4

end WalletGate
