import Mathlib.Data.List.Forall2
import WalletGate.Proofs.Injection
import WalletGate.Proofs.Qualified
import WalletGate.Proofs.Values
/-!
# Entries of denylists

Which texts are entries of a denylist, and which fault the others have, said by the URL that a text
stands for: it has to be one, without query and fragment, and with a host.

* `Url.hasMore_iff`: a URL has a query or a fragment if there is a question mark or a number sign in
  its text, wherever it stands;
* `Entry.IsAddress`: the text of the URL that an entry stands for;
* `Entry.Reads` and `Entry.parse_eq_ok_iff`: the texts of an entry;
* `Entry.Offends` and `Entry.parse_eq_error_iff`: the texts with a fault;
* `Entry.Reads.no_mark`: nothing with a question mark or a number sign in it is an entry.
-/

namespace WalletGate

theorem Text.containsRun_iff {part cs : List Char} :
    Text.containsRun part cs = true ↔ part <:+: cs := by
  induction cs with
  | nil => rw [Text.containsRun, List.isEmpty_iff, List.infix_nil]
  | cons c cs ih =>
    rw [Text.containsRun, Bool.or_eq_true, ih, List.isPrefixOf_iff_prefix, List.infix_cons_iff]

/-! ## Queries and fragments -/

namespace Url

variable {kind : Kind} {cs rest : List Char}

/-- There is a question mark or a number sign in the text. -/
def Marked (cs : List Char) : Prop := '?' ∈ cs ∨ '#' ∈ cs

theorem marked_append_iff {front : List Char} :
    Marked (front ++ rest) ↔ Marked front ∨ Marked rest := by
  unfold Marked
  rw [List.mem_append, List.mem_append, or_or_or_comm]

/-- There are no marks in a text if its characters have something in common that the marks lack. -/
theorem not_marked_of_forall {p : Char → Bool} (h : ∀ c ∈ cs, p c = true) (hquery : p '?' = false)
    (hfragment : p '#' = false) : ¬Marked cs := by
  rintro (hmark | hmark)
  · rw [h _ hmark] at hquery
    cases hquery
  · rw [h _ hmark] at hfragment
    cases hfragment

/-- Both marks end an authority. -/
theorem not_marked_of_authority (h : ∀ c ∈ cs, kind.endsAuthority c = false) : ¬Marked cs := by
  refine not_marked_of_forall (p := fun c => !kind.endsAuthority c) (fun c hc => ?_) ?_ ?_
  · rw [h c hc]
    rfl
  · cases kind <;> rfl
  · cases kind <;> rfl

theorem not_marked_singleton {c : Char} (hc : ¬(c = '?' ∨ c = '#')) : ¬Marked [c] := by
  unfold Marked
  rwa [List.mem_singleton, List.mem_singleton, eq_comm, eq_comm (a := '#')]

theorem not_marked_cons {c : Char} (hc : ¬(c = '?' ∨ c = '#')) (hrest : ¬Marked rest) :
    ¬Marked (c :: rest) := by
  rw [← List.singleton_append, marked_append_iff, not_or]
  exact ⟨not_marked_singleton hc, hrest⟩

theorem not_mark_of_isSlash {c : Char} (hc : kind.isSlash c = true) : ¬(c = '?' ∨ c = '#') := by
  rintro (rfl | rfl)
  · exact absurd hc (by cases kind <;> decide)
  · exact absurd hc (by cases kind <;> decide)

/-- The text is empty or starts with a mark, and before it there was none. -/
structure Ends (cs rest : List Char) : Prop where
  marked_iff : Marked cs ↔ Marked rest
  head : ∀ c ∈ rest.head?, c = '?' ∨ c = '#'

/-- What is read before marks does not move the first of them. -/
theorem Ends.append {front : List Char} (h : Ends cs rest) (hfront : ¬Marked front) :
    Ends (front ++ cs) rest :=
  ⟨by rw [marked_append_iff, or_iff_right hfront, h.marked_iff], h.head⟩

theorem Ends.cons {c : Char} (h : Ends cs rest) (hc : ¬(c = '?' ∨ c = '#')) :
    Ends (c :: cs) rest := h.append (not_marked_singleton hc)

/-- A URL shows the marks of the text that it is read from. -/
def Shows (url : Url) (cs : List Char) : Prop :=
  url.hasQuery = true ∨ url.hasFragment = true ↔ Marked cs

theorem Shows.append {url : Url} {front : List Char} (h : Shows url cs) (hfront : ¬Marked front) :
    Shows url (front ++ cs) := by
  unfold Shows at h ⊢
  rw [h, marked_append_iff, or_iff_right hfront]

theorem assemble_shows {scheme : String} {host : Option Host} {port : Option Nat} {path : List Char}
    (h : Ends cs rest) : Shows (assemble scheme host port path rest) cs := by
  unfold Shows assemble
  rw [h.marked_iff, decide_eq_true_iff, decide_eq_true_iff]
  constructor
  · rintro (hquery | hfragment)
    · exact .inl (List.mem_of_mem_head? hquery)
    · exact .inr hfragment
  · intro hmarked
    -- There is a mark, so the first character is one.
    cases rest with
    | nil => exact absurd hmarked (by simp [Marked])
    | cons c rest =>
      rcases h.head c rfl with rfl | rfl
      · exact .inl rfl
      · exact .inr List.mem_cons_self

/-- A path is read up to the first mark. -/
theorem read_ends (kind : Kind) (cs : List Char) (draft : Path.Draft) :
    Ends cs (Path.read kind cs draft).2 := by
  induction cs generalizing draft with
  | nil => exact ⟨Iff.rfl, by simp [Path.read]⟩
  | cons c cs ih =>
    unfold Path.read
    by_cases hmark : (c == '?' || c == '#') = true
    · rw [if_pos hmark]
      exact ⟨Iff.rfl, by simpa using hmark⟩
    · rw [if_neg hmark]
      have hc : ¬(c = '?' ∨ c = '#') := by simpa using hmark
      split
      · exact (ih _).cons hc
      · exact (ih _).cons hc

theorem pathAfterAuthority_ends (kind : Kind) (cs : List Char) :
    Ends cs (pathAfterAuthority kind cs).2 := by
  unfold pathAfterAuthority
  -- The path begins at once, at a slash or at a mark, and the first of these is passed over.
  cases cs with
  | nil =>
    dsimp only
    split
    · exact read_ends kind [] _
    · exact ⟨Iff.rfl, by simp⟩
  | cons c cs =>
    dsimp only
    split
    · rename_i hslash
      exact (read_ends kind cs _).cons (not_mark_of_isSlash hslash)
    · split
      · rename_i hmark
        exact ⟨Iff.rfl, by simpa using (Bool.and_eq_true_iff.1 hmark).2⟩
      · exact read_ends kind (c :: cs) _

/-- A port is written without marks. -/
theorem withPort_front {scheme : String} {host host' : Host} {after : List Char}
    {port : Option Nat} (h : withPort scheme host rest = .ok (host', port, after)) :
    ∃ front, rest = front ++ after ∧ ¬Marked front := by
  unfold withPort at h
  split at h
  · rename_i digits
    split at h
    · cases h
    obtain ⟨⟨number, behind⟩, hread, h⟩ := Except.bind_ok_iff.1 h
    cases h
    unfold readPort at hread
    dsimp only at hread
    split at hread
    · cases hread
    split at hread
    · cases hread
      -- What a port is made of is a colon and digits, and none of these is a mark.
      refine ⟨':' :: digits.takeWhile Text.isDigit, ?_, ?_⟩
      · rw [List.cons_append, List.takeWhile_append_dropWhile]
      · have hdigits : ¬Marked (digits.takeWhile Text.isDigit) :=
          not_marked_of_forall (fun c hc => List.mem_takeWhile_imp hc) (by decide) (by decide)
        exact not_marked_cons (by decide) hdigits
    · cases hread
  · cases h
    exact ⟨[], rfl, by simp [Marked]⟩

/-- In front of a path there are no marks: neither credentials nor hosts nor ports have them. -/
theorem withAuthority_shows {scheme : String} {url : Url}
    (h : withAuthority kind scheme cs = .ok url) : Shows url cs := by
  unfold withAuthority at h
  obtain ⟨⟨given, behind⟩, hgiven, h⟩ := Except.bind_ok_iff.1 h
  obtain ⟨⟨host, port, after⟩, hport, h⟩ := Except.bind_ok_iff.1 h
  dsimp only at h
  split at h
  · cases h
  cases h
  -- The text comes apart into credentials, host, port and the rest. None of the first three has a
  -- mark in it, so the rest has all that the text has.
  obtain ⟨front, rfl, hfront, -, -⟩ := credentials_cases hgiven
  obtain ⟨run, rest, hrun⟩ : ∃ run rest, hostRun kind false behind = (run, rest) := ⟨_, _, rfl⟩
  obtain ⟨rfl, hpass⟩ := hostRun_append hrun
  rw [hostAndPort_eq hrun] at hport
  obtain ⟨host', -, hport⟩ := Except.bind_ok_iff.1 hport
  obtain ⟨digits, rfl, hdigits⟩ := withPort_front hport
  refine assemble_shows (Ends.append ?_ (not_marked_of_authority hfront))
  refine Ends.append ?_ (not_marked_of_authority hpass)
  exact (pathAfterAuthority_ends kind after).append hdigits

theorem ofPath_shows (host : Option Host) (cs : List Char) : Shows (file.ofPath host cs) cs := by
  unfold file.ofPath
  dsimp only
  refine assemble_shows ?_
  split
  · rename_i hslash
    cases cs with
    | nil => cases hslash
    | cons c cs =>
      have hc : Kind.isSlash .file c = true := by simpa using hslash
      exact (read_ends .file cs _).cons (not_mark_of_isSlash hc)
  · exact read_ends .file cs _

theorem file_shows {url : Url} (h : file cs = .ok url) : Shows url cs := by
  unfold file at h
  dsimp only at h
  -- With an authority, without one, and without slashes at all.
  split at h
  · rename_i a b rest
    split at h
    · rename_i hslashes
      obtain ⟨ha, hb⟩ := Bool.and_eq_true_iff.1 hslashes
      -- The slashes are no marks, and neither is what stands in the authority.
      have hfront : ¬Marked [a, b] :=
        not_marked_cons (not_mark_of_isSlash ha) (not_marked_singleton (not_mark_of_isSlash hb))
      suffices hrest : Shows url rest from hrest.append hfront
      split at h
      · cases h
        exact ofPath_shows none rest
      · obtain ⟨host, -, h⟩ := Except.bind_ok_iff.1 h
        cases h
        have hauthority : ¬Marked (authority .file rest) :=
          not_marked_of_authority fun c hc => endsAuthority_of_mem hc
        have hshows := (ofPath_shows (if host = .name "localhost".toList then none else some host)
          (afterAuthority .file rest)).append hauthority
        rwa [authority_append_after] at hshows
    · cases h
      exact ofPath_shows none _
  · cases h
    exact ofPath_shows none _

theorem afterScheme_shows {scheme : String} {url : Url} (h : afterScheme scheme cs = .ok url) :
    Shows url cs := by
  unfold afterScheme at h
  split at h
  · exact file_shows h
  -- Slashes may stand in front of the authority in any number.
  · rw [← List.takeWhile_append_dropWhile (p := Kind.isSlash .special) (l := cs)]
    have hslashes : ¬Marked (cs.takeWhile (Kind.isSlash .special)) :=
      not_marked_of_forall (fun c hc => List.mem_takeWhile_imp hc) (by decide) (by decide)
    exact (withAuthority_shows h).append hslashes
  · split at h
    · have hslashes : ¬Marked ['/', '/'] := by simp [Marked]
      exact (withAuthority_shows h).append hslashes
    · cases h
      exact assemble_shows ((read_ends .other _ _).cons (by decide))
    · -- Without slashes the path is all that stands before a mark.
      cases h
      refine assemble_shows ⟨?_, fun c hc => ?_⟩
      · have hwhole :=
          List.takeWhile_append_dropWhile (p := fun c => c != '?' && c != '#') (l := cs)
        have hpath : ¬Marked (cs.takeWhile fun c => c != '?' && c != '#') :=
          not_marked_of_forall (fun c hc => List.mem_takeWhile_imp hc) (by decide) (by decide)
        rw [← hwhole, marked_append_iff, or_iff_right hpath, hwhole]
      · have hstops := List.head?_dropWhile_not (fun c => c != '?' && c != '#') cs
        rw [hc] at hstops
        simpa [← or_iff_not_imp_left] using hstops

/-- What a URL is read from has the marks of its text. -/
theorem marked_readable_iff (s : String) : Marked (readable s) ↔ Marked s.toList := by
  have hmem {c : Char} (hc : decide (c.toNat ≤ 0x20) = false) (hkept : c ∉ ['\t', '\n', '\r']) :
      c ∈ readable s ↔ c ∈ s.toList := by
    unfold readable
    rw [List.mem_filter, Text.mem_strip_iff hc, and_iff_left (by simpa using hkept)]
  unfold Marked
  rw [hmem (by decide) (by decide), hmem (by decide) (by decide)]

/-- A URL has a query or a fragment if there is a question mark or a number sign in its text. -/
theorem hasMore_iff {s : String} {url : Url} (h : parse s = .ok url) :
    url.hasQuery = true ∨ url.hasFragment = true ↔ '?' ∈ s.toList ∨ '#' ∈ s.toList := by
  obtain ⟨scheme, rest, hsplit, hafter⟩ := parse_eq_ok_iff.1 h
  obtain ⟨word, hword, -, hscheme, -⟩ := splitScheme?_eq_some_iff.1 hsplit
  have hfront : ¬Marked (word ++ [':']) := by
    rw [marked_append_iff, or_iff_left (not_marked_singleton (by decide))]
    exact not_marked_of_forall hscheme (by decide) (by decide)
  have hshows := (afterScheme_shows hafter).append hfront
  rw [List.append_assoc, List.singleton_append, ← hword] at hshows
  exact hshows.trans (marked_readable_iff s)

end Url

/-! ## Entries -/

namespace Page.Entry

variable {text : String} {e : Entry} {fault : EntryFault}

/-- The text of the URL that an entry stands for: the entry itself if it names a scheme, and
otherwise an `https` URL of which the entry is the rest. -/
def IsAddress (text address : String) : Prop :=
  ("://".toList <:+: text.toList ∧ address = text) ∨
    (¬"://".toList <:+: text.toList ∧ address = "https://" ++ text)

/-- The text stands for a URL with a host and without query and fragment. The host, in lower case,
and the path are those of the entry. -/
def Reads (text : String) (e : Entry) : Prop :=
  ∃ address url host, IsAddress text address ∧ Url.parse address = .ok url ∧
    url.hasQuery = false ∧ url.hasFragment = false ∧ url.host = some host ∧
    e = ⟨Text.lowerText host.text, url.path⟩

/-- The fault of a text that is no entry. -/
inductive Offends (text : String) : EntryFault → Prop where
  | notUrl {address : String} {reason : Url.Error} (haddress : IsAddress text address)
      (hparse : Url.parse address = .error reason) : Offends text (.notUrl text reason)
  | queryOrFragment {address : String} {url : Url} (haddress : IsAddress text address)
      (hparse : Url.parse address = .ok url)
      (hmore : url.hasQuery = true ∨ url.hasFragment = true) :
      Offends text (.queryOrFragment text)
  | noHost {address : String} {url : Url} (haddress : IsAddress text address)
      (hparse : Url.parse address = .ok url) (hquery : url.hasQuery = false)
      (hfragment : url.hasFragment = false) (hhost : url.host = none) : Offends text (.noHost text)

theorem isAddress_iff {address : String} : IsAddress text address ↔
    address = if Text.containsRun "://".toList text.toList then text else "https://" ++ text := by
  unfold IsAddress
  rw [← Text.containsRun_iff]
  split
  · rename_i hscheme
    rw [and_iff_right hscheme, or_iff_left fun h => h.1 hscheme]
  · rename_i hscheme
    rw [and_iff_right hscheme, or_iff_right fun h => hscheme h.1]

/-- How a text is read if it stands for a URL. -/
theorem parse_of_url {address : String} {url : Url} (haddress : IsAddress (Text.trim text) address)
    (hparse : Url.parse address = .ok url) : parse text =
      if url.hasQuery || url.hasFragment then .error (.queryOrFragment (Text.trim text))
      else match url.host with
        | none => .error (.noHost (Text.trim text))
        | some host => .ok ⟨Text.lowerText host.text, url.path⟩ := by
  rw [isAddress_iff.1 haddress] at hparse
  unfold parse
  simp only [hparse, Url.hostText?]
  cases url.host with
  | none => rfl
  | some host => rfl

theorem parse_of_not_url {address : String} {reason : Url.Error}
    (haddress : IsAddress (Text.trim text) address) (hparse : Url.parse address = .error reason) :
    parse text = .error (.notUrl (Text.trim text) reason) := by
  rw [isAddress_iff.1 haddress] at hparse
  unfold parse
  simp only [hparse]

/-- Blanks around it aside, each text is an entry or has a fault. -/
theorem reads_or_offends (text : String) :
    (∃ e, Reads (Text.trim text) e ∧ parse text = .ok e) ∨
      ∃ fault, Offends (Text.trim text) fault ∧ parse text = .error fault := by
  obtain ⟨address, haddress⟩ : ∃ address, IsAddress (Text.trim text) address :=
    ⟨_, isAddress_iff.2 rfl⟩
  -- By what the reader of URLs makes of the address, then by what the URL has.
  cases hparse : Url.parse address with
  | error reason => exact .inr ⟨_, .notUrl haddress hparse, parse_of_not_url haddress hparse⟩
  | ok url =>
    have hread := parse_of_url haddress hparse
    by_cases hmore : (url.hasQuery || url.hasFragment) = true
    · rw [if_pos hmore] at hread
      exact .inr ⟨_, .queryOrFragment haddress hparse (by simpa using hmore), hread⟩
    · rw [if_neg hmore] at hread
      rw [Bool.or_eq_true, not_or, Bool.not_eq_true, Bool.not_eq_true] at hmore
      cases hhost : url.host with
      | none =>
        rw [hhost] at hread
        exact .inr ⟨_, .noHost haddress hparse hmore.1 hmore.2 hhost, hread⟩
      | some host =>
        rw [hhost] at hread
        exact .inl ⟨_, ⟨address, url, host, haddress, hparse, hmore.1, hmore.2, hhost, rfl⟩, hread⟩

theorem parse_eq_ok_iff : parse text = .ok e ↔ Reads (Text.trim text) e := by
  constructor
  · intro h
    obtain ⟨e', hreads, hparse⟩ | ⟨fault, -, hparse⟩ := reads_or_offends text
    · cases h.symm.trans hparse
      exact hreads
    · cases h.symm.trans hparse
  · rintro ⟨address, url, host, haddress, hparse, hquery, hfragment, hhost, rfl⟩
    rw [parse_of_url haddress hparse, hquery, hfragment, hhost]
    rfl

theorem parse_eq_error_iff : parse text = .error fault ↔ Offends (Text.trim text) fault := by
  constructor
  · intro h
    obtain ⟨e, -, hparse⟩ | ⟨fault', hoffends, hparse⟩ := reads_or_offends text
    · cases h.symm.trans hparse
    · cases h.symm.trans hparse
      exact hoffends
  · intro h
    cases h with
    | notUrl haddress hparse => exact parse_of_not_url haddress hparse
    | queryOrFragment haddress hparse hmore =>
      rw [parse_of_url haddress hparse, if_pos (by simpa using hmore)]
    | noHost haddress hparse hquery hfragment hhost =>
      rw [parse_of_url haddress hparse, hquery, hfragment, hhost]
      rfl

/-- There is no question mark and no number sign in an entry. -/
theorem Reads.no_mark (h : Reads text e) : '?' ∉ text.toList ∧ '#' ∉ text.toList := by
  obtain ⟨address, url, host, haddress, hparse, hquery, hfragment, -, -⟩ := h
  have hnone := Url.hasMore_iff hparse
  rw [hquery, hfragment, or_self, iff_false_left Bool.false_ne_true, not_or] at hnone
  rcases haddress with ⟨-, rfl⟩ | ⟨-, rfl⟩
  · exact hnone
  · simpa using hnone

end Page.Entry

/-! ## Lists of entries -/

namespace Page.Denylist

/-- A list is read as the entries that its texts are, blanks around them aside. -/
theorem parse_eq_ok_iff_reads {raw : List String} {d : Denylist} :
    parse raw = .ok d ↔ List.Forall₂ Entry.Reads (raw.map Text.trim) d.entries := by
  rw [parse_eq_ok_iff, List.forall₂_map_left_iff, ← List.forall₂_eq_eq_eq,
    List.forall₂_map_left_iff, List.forall₂_map_right_iff]
  simp only [Entry.parse_eq_ok_iff]

/-- A list is refused for the fault of its first text that is no entry. -/
theorem parse_eq_error_iff_offends {raw : List String} {fault : EntryFault} :
    parse raw = .error fault ↔
      FirstWith (fun text => ∃ e, Entry.Reads text e) (fun text => Entry.Offends text fault)
        (raw.map Text.trim) := by
  have hmapM : parse raw = .error fault ↔ raw.mapM Entry.parse = .error fault := by
    rw [parse]
    cases raw.mapM Entry.parse with
    | error fault' => simp [Except.map]
    | ok entries => exact iff_of_false (fun h => by cases h) (fun h => by cases h)
  rw [hmapM, Except.mapM_error_iff, firstWith_map_iff]
  simp only [Entry.parse_eq_ok_iff, Entry.parse_eq_error_iff]

end Page.Denylist

end WalletGate
