import WalletGate.Http.Form
import WalletGate.Http.Message
/-!
# Every text can stand in a query

A text that is written as the escapes of its bytes comes back as it was, whatever characters it has.

* `readBytes_utf8EncodeChar`, `ofBytes_bytes`: the bytes of a text are read as that text;
* `unescape_escaped`: escapes are read as the bytes that they stand for;
* `formFields_field`: a query of one field, its value escaped, holds that field;
* `path_query_of_target`: where the path of a request ends and its query begins.
-/

namespace WalletGate

/-! ## Bytes -/

namespace Text

theorem toNat_ofNat_of_lt {n : Nat} (hn : n < 256) : (UInt8.ofNat n).toNat = n :=
  UInt8.toNat_ofNat_of_lt' hn

theorem readBytes_announced {b : UInt8} {count low high n : Nat} (hb : ¬b.toNat < 0x80)
    (hannounced : announced? b.toNat = some (count, low, high, n)) (rest : List UInt8) :
    readBytes (b :: rest) = (readFollowing count low high n rest).1 ::
      readBytes (readFollowing count low high n rest).2 := by
  rw [readBytes, if_neg hb]
  simp only [hannounced]

/-- A byte in its range adds six bits. -/
theorem readFollowing_byte (count : Nat) {low high x : Nat} (n : Nat) (hlow : low ≤ x % 64 + 128)
    (hhigh : x % 64 + 128 ≤ high) (rest : List UInt8) :
    readFollowing (count + 1) low high n (UInt8.ofNat (x % 64 + 128) :: rest) =
      readFollowing count 0x80 0xBF (n * 64 + x % 64) rest := by
  have hbyte : (UInt8.ofNat (x % 64 + 128)).toNat = x % 64 + 128 := toNat_ofNat_of_lt (by omega)
  have hbits : (x % 64 + 128) % 64 = x % 64 := by omega
  simp only [readFollowing, hbyte, hlow, hhigh, and_self, if_true, hbits]

theorem readFollowing_end (low high n : Nat) (rest : List UInt8) :
    readFollowing 0 low high n rest = (some (Char.ofNat n), rest) := rfl

/-- What the first of two bytes announces. -/
theorem announced?_two {n : Nat} (hlow : 0x80 ≤ n) (hhigh : n ≤ 0x7FF) :
    announced? (n / 64 % 32 + 192) = some (1, 0x80, 0xBF, n / 64) := by
  have hrange : 0xC2 ≤ n / 64 % 32 + 192 ∧ n / 64 % 32 + 192 ≤ 0xDF := by omega
  have hbits : (n / 64 % 32 + 192) % 32 = n / 64 := by omega
  rw [announced?, if_pos hrange, hbits]

/-- What the first of three bytes announces: the second byte is in the range that is left. -/
theorem announced?_three {n : Nat} (hlow : 0x800 ≤ n) (hhigh : n ≤ 0xFFFF)
    (hscalar : n < 0xD800 ∨ 0xDFFF < n) :
    ∃ low high, announced? (n / 4096 % 16 + 224) = some (2, low, high, n / 4096) ∧
      low ≤ n / 64 % 64 + 128 ∧ n / 64 % 64 + 128 ≤ high := by
  unfold announced?
  rw [if_neg (by omega)]
  -- The first byte bounds the second: below, lest a shorter form would do, and above, lest the
  -- number be a surrogate.
  by_cases hfirst : n / 4096 % 16 + 224 = 0xE0
  · have hbits : n / 4096 = 0 := by omega
    exact ⟨0xA0, 0xBF, by rw [if_pos hfirst, hbits], by omega, by omega⟩
  · rw [if_neg hfirst]
    by_cases hlast : n / 4096 % 16 + 224 = 0xED
    · -- Past these the surrogates begin, which no character has for a number.
      have hbits : n / 4096 = 13 := by omega
      exact ⟨0x80, 0x9F, by rw [if_pos hlast, hbits], by omega, by omega⟩
    · have hbits : (n / 4096 % 16 + 224) % 16 = n / 4096 := by omega
      rw [if_neg hlast, if_pos (by omega)]
      exact ⟨0x80, 0xBF, by rw [hbits], by omega, by omega⟩

/-- What the first of four bytes announces. -/
theorem announced?_four {n : Nat} (hlow : 0xFFFF < n) (hhigh : n < 0x110000) :
    ∃ low high, announced? (n / 262144 % 8 + 240) = some (3, low, high, n / 262144) ∧
      low ≤ n / 4096 % 64 + 128 ∧ n / 4096 % 64 + 128 ≤ high := by
  unfold announced?
  rw [if_neg (by omega), if_neg (by omega), if_neg (by omega), if_neg (by omega)]
  -- The first byte bounds the second here too: at the one end for the shortest form, at the other
  -- for the last number.
  by_cases hfirst : n / 262144 % 8 + 240 = 0xF0
  · have hbits : n / 262144 = 0 := by omega
    exact ⟨0x90, 0xBF, by rw [if_pos hfirst, hbits], by omega, by omega⟩
  · rw [if_neg hfirst]
    by_cases hmiddle : 0xF1 ≤ n / 262144 % 8 + 240 ∧ n / 262144 % 8 + 240 ≤ 0xF3
    · have hbits : (n / 262144 % 8 + 240) % 8 = n / 262144 := by omega
      exact ⟨0x80, 0xBF, by rw [if_pos hmiddle, hbits], by omega, by omega⟩
    · have hbits : n / 262144 = 4 := by omega
      rw [if_neg hmiddle, if_pos (by omega)]
      exact ⟨0x80, 0x8F, by rw [hbits], by omega, by omega⟩

section Sizes

variable {n : Nat} (rest : List UInt8)

theorem readBytes_one (hn : n ≤ 0x7F) :
    readBytes (.ofNat n :: rest) = some (Char.ofNat n) :: readBytes rest := by
  have hbyte := toNat_ofNat_of_lt (n := n) (by omega)
  rw [readBytes, if_pos (by omega), hbyte]

theorem readBytes_two (hlow : 0x7F < n) (hhigh : n ≤ 0x7FF) :
    readBytes (.ofNat (n / 64 % 32 + 192) :: .ofNat (n % 64 + 128) :: rest) =
      some (Char.ofNat n) :: readBytes rest := by
  have hbyte := toNat_ofNat_of_lt (n := n / 64 % 32 + 192) (by omega)
  have hbits : n / 64 * 64 + n % 64 = n := by omega
  rw [readBytes_announced (by omega) (hbyte ▸ announced?_two (by omega) hhigh),
    readFollowing_byte _ _ (by omega) (by omega), readFollowing_end, hbits]

theorem readBytes_three (hlow : 0x7FF < n) (hhigh : n ≤ 0xFFFF)
    (hscalar : n < 0xD800 ∨ 0xDFFF < n) :
    readBytes (.ofNat (n / 4096 % 16 + 224) :: .ofNat (n / 64 % 64 + 128) ::
        .ofNat (n % 64 + 128) :: rest) =
      some (Char.ofNat n) :: readBytes rest := by
  have hbyte := toNat_ofNat_of_lt (n := n / 4096 % 16 + 224) (by omega)
  obtain ⟨low, high, hannounced, hsecond, hsecond'⟩ := announced?_three (by omega) hhigh hscalar
  have hbits : (n / 4096 * 64 + n / 64 % 64) * 64 + n % 64 = n := by omega
  rw [readBytes_announced (by omega) (hbyte ▸ hannounced), readFollowing_byte _ _ hsecond hsecond',
    readFollowing_byte _ _ (by omega) (by omega), readFollowing_end, hbits]

theorem readBytes_four (hlow : 0xFFFF < n) (hhigh : n < 0x110000) :
    readBytes (.ofNat (n / 262144 % 8 + 240) :: .ofNat (n / 4096 % 64 + 128) ::
        .ofNat (n / 64 % 64 + 128) :: .ofNat (n % 64 + 128) :: rest) =
      some (Char.ofNat n) :: readBytes rest := by
  have hbyte := toNat_ofNat_of_lt (n := n / 262144 % 8 + 240) (by omega)
  obtain ⟨low, high, hannounced, hsecond, hsecond'⟩ := announced?_four hlow hhigh
  have hbits : ((n / 262144 * 64 + n / 4096 % 64) * 64 + n / 64 % 64) * 64 + n % 64 = n := by omega
  rw [readBytes_announced (by omega) (hbyte ▸ hannounced), readFollowing_byte _ _ hsecond hsecond',
    readFollowing_byte _ _ (by omega) (by omega), readFollowing_byte _ _ (by omega) (by omega),
    readFollowing_end, hbits]

end Sizes

theorem utf8EncodeChar_eq (c : Char) :
    String.utf8EncodeChar c =
      if c.toNat ≤ 0x7F then [.ofNat c.toNat]
      else if c.toNat ≤ 0x7FF then
        [.ofNat (c.toNat / 64 % 32 + 192), .ofNat (c.toNat % 64 + 128)]
      else if c.toNat ≤ 0xFFFF then
        [.ofNat (c.toNat / 4096 % 16 + 224), .ofNat (c.toNat / 64 % 64 + 128),
          .ofNat (c.toNat % 64 + 128)]
      else
        [.ofNat (c.toNat / 262144 % 8 + 240), .ofNat (c.toNat / 4096 % 64 + 128),
          .ofNat (c.toNat / 64 % 64 + 128), .ofNat (c.toNat % 64 + 128)] := rfl

/-- The bytes of a character are read as that character, whatever follows. -/
theorem readBytes_utf8EncodeChar (c : Char) (rest : List UInt8) :
    readBytes (String.utf8EncodeChar c ++ rest) = some c :: readBytes rest := by
  have hscalar : c.toNat < 0xD800 ∨ 0xDFFF < c.toNat ∧ c.toNat < 0x110000 := c.valid
  have hchar : some c = some (Char.ofNat c.toNat) := congrArg some (Char.ofNat_toNat c).symm
  -- By the number of bytes, of which each has its own lemma; a character is no surrogate.
  rw [utf8EncodeChar_eq, hchar]
  split
  · rename_i hone
    exact readBytes_one rest hone
  · rename_i hone
    split
    · rename_i htwo
      exact readBytes_two rest (Nat.lt_of_not_le hone) htwo
    · rename_i htwo
      split
      · rename_i hthree
        exact readBytes_three rest (Nat.lt_of_not_le htwo) hthree (by omega)
      · rename_i hthree
        exact readBytes_four rest (Nat.lt_of_not_le hthree) (by omega)

/-- The bytes of a text are read as that text. -/
theorem ofBytes_bytes (cs : List Char) : ofBytes (bytes cs) = cs := by
  have hread : readBytes (bytes cs) = cs.map some := by
    induction cs with
    | nil => simp [bytes, readBytes]
    | cons c rest ih =>
      unfold bytes at ih ⊢
      rw [List.flatMap_cons, readBytes_utf8EncodeChar, ih, List.map_cons]
  unfold ofBytes
  rw [hread, List.map_map]
  exact List.map_id cs

/-! ## Escapes -/

/-- Every character of a text as escapes. -/
def escaped (s : String) : List Char := escape (fun _ => true) s.toList

theorem hexValue?_upperHexDigit {n : Nat} (hn : n < 16) : hexValue? (upperHexDigit n) = some n := by
  have hall : ∀ d : Fin 16, hexValue? (upperHexDigit d) = some d.val := by decide
  exact hall ⟨n, hn⟩

theorem isAlphanumeric_upperHexDigit {n : Nat} (hn : n < 16) :
    isAlphanumeric (upperHexDigit n) = true := by
  have hall : ∀ d : Fin 16, isAlphanumeric (upperHexDigit d) = true := by decide
  exact hall ⟨n, hn⟩

theorem unescape_escapeByte (b : UInt8) (rest : List Char) :
    unescape (escapeByte b ++ rest) = b :: unescape rest := by
  have hbyte := b.toNat_lt
  have hhigh := hexValue?_upperHexDigit (n := b.toNat / 16) (by omega)
  have hlow := hexValue?_upperHexDigit (n := b.toNat % 16) (by omega)
  have hvalue : UInt8.ofNat (16 * (b.toNat / 16) + b.toNat % 16) = b := by
    rw [Nat.div_add_mod, UInt8.ofNat_toNat]
  simp only [escapeByte, List.cons_append, List.nil_append, unescape, hhigh, hlow, hvalue]

theorem escaped_eq (s : String) : escaped s = (bytes s.toList).flatMap escapeByte := by
  simp [escaped, escape, bytes, List.flatMap_assoc]

/-- Escapes are read as the bytes that they stand for. -/
theorem unescape_escaped (s : String) : unescape (escaped s) = bytes s.toList := by
  rw [escaped_eq]
  generalize bytes s.toList = bs
  induction bs with
  | nil => rfl
  | cons b rest ih => rw [List.flatMap_cons, unescape_escapeByte, ih]

/-- Escapes are made of percent signs and hexadecimal digits. -/
theorem mem_escaped {s : String} {c : Char} (hc : c ∈ escaped s) :
    c = '%' ∨ isAlphanumeric c = true := by
  rw [escaped_eq] at hc
  obtain ⟨b, _, hb⟩ := List.mem_flatMap.1 hc
  have hbyte := b.toNat_lt
  simp only [escapeByte, List.mem_cons, List.not_mem_nil, or_false] at hb
  rcases hb with rfl | rfl | rfl
  · exact .inl rfl
  · exact .inr (isAlphanumeric_upperHexDigit (by omega))
  · exact .inr (isAlphanumeric_upperHexDigit (by omega))

/-- So nothing in them separates anything. -/
theorem ne_of_mem_escaped {s : String} {c d : Char} (hc : c ∈ escaped s) (hd : d ≠ '%')
    (hmark : isAlphanumeric d = false) : c ≠ d := by
  rintro rfl
  rcases mem_escaped hc with h | h
  · exact hd h
  · rw [hmark] at h
    cases h

/-- A text without separators is one piece. -/
theorem pieces_of_forall {p : Char → Bool} {cs : List Char} (hcs : ∀ c ∈ cs, p c = false) :
    pieces p cs = [cs] := by
  induction cs with
  | nil => rfl
  | cons c rest ih =>
    have hc := hcs c List.mem_cons_self
    rw [pieces, if_neg (by simp [hc]), ih fun d hd => hcs d (List.mem_cons_of_mem _ hd)]

end Text

/-! ## Fields -/

namespace Http

theorem plainText_escaped (s : String) : plainText (Text.escaped s) = s := by
  have hplus : ((Text.escaped s).map fun c => if c == '+' then ' ' else c) = Text.escaped s := by
    refine (List.map_congr_left fun c hc => ?_).trans (List.map_id _)
    have hne : c ≠ '+' := Text.ne_of_mem_escaped hc (by decide) (by decide)
    simp [hne]
  unfold plainText
  rw [hplus, Text.unescape_escaped, Text.ofBytes_bytes, String.ofList_toList]

/-- A query of one field, its key a word and its value escaped, holds that field. -/
theorem formFields_field (key : List Char) (hkey : ∀ c ∈ key, Text.isAlphanumeric c = true)
    (hword : plainText key = String.ofList key) (s : String) :
    formFields (key ++ '=' :: Text.escaped s) = [(String.ofList key, s)] := by
  -- The key is letters and digits, and the value is escaped, so the marks of a form occur only
  -- where it puts them.
  have hapart {d : Char} (hd : Text.isAlphanumeric d = false) : ∀ c ∈ key, c ≠ d := by
    rintro c hc rfl
    rw [hkey c hc] at hd
    cases hd
  have hpieces : Text.pieces (· == '&') (key ++ '=' :: Text.escaped s) =
      [key ++ '=' :: Text.escaped s] := by
    refine Text.pieces_of_forall fun c hc => ?_
    rcases List.mem_append.1 hc with hc | hc
    · simpa using hapart (by decide) c hc
    · rcases List.mem_cons.1 hc with rfl | hc
      · decide
      · have hne : c ≠ '&' := Text.ne_of_mem_escaped hc (by decide) (by decide)
        simpa using hne
  have hleft : (key ++ '=' :: Text.escaped s).takeWhile (· != '=') = key := by
    rw [List.takeWhile_append_of_pos fun c hc => by simpa using hapart (by decide) c hc]
    simp
  have hright : (key ++ '=' :: Text.escaped s).dropWhile (· != '=') = '=' :: Text.escaped s := by
    rw [List.dropWhile_append_of_pos fun c hc => by simpa using hapart (by decide) c hc]
    simp
  unfold formFields
  rw [hpieces]
  simp [fieldOf, hleft, hright, hword, plainText_escaped]

/-! ## Targets -/

/-- The path of a request ends at the first question mark and the query at the first number sign. -/
theorem Request.path_query_of_target {r : Request} {path query : List Char}
    (htarget : r.target.toList = path ++ '?' :: query) (hpath : ∀ c ∈ path, c ≠ '?' ∧ c ≠ '#')
    (hquery : ∀ c ∈ query, c ≠ '#') : r.path = String.ofList path ∧ r.query = query := by
  -- What is sent ends where a fragment would begin, and there is none.
  have hresource : r.resource = path ++ '?' :: query := by
    unfold resource
    rw [htarget, List.takeWhile_append_of_pos fun c hc => by simpa using (hpath c hc).2]
    rw [List.takeWhile_cons_of_pos (by decide)]
    have hwhole : query.takeWhile (· != '#') = query := by
      rw [← List.append_nil query,
        List.takeWhile_append_of_pos fun c hc => by simpa using hquery c hc]
      rfl
    rw [hwhole]
  constructor
  · unfold Request.path
    rw [hresource, List.takeWhile_append_of_pos fun c hc => by simpa using (hpath c hc).1]
    simp
  · unfold Request.query
    rw [hresource, List.dropWhile_append_of_pos fun c hc => by simpa using (hpath c hc).1]
    simp

end Http

end WalletGate
