import Mathlib.Data.List.DropRight
import Mathlib.Data.List.TakeWhile
import WalletGate.Proofs.Origins
import WalletGate.Proofs.TrailingDot
/-!
# Fully qualified hosts

The host of a URL may be written with a dot behind it: that is the fully qualified form of the same
name. Reading keeps the dot, and nothing else of the URL depends on it. The dot is followed through
the parts that a URL is read in, from the host outwards:

* `Host.ofSpecial_concat_dot`, `Host.ofOther_concat_dot`: the text of a host, of either kind of
  scheme;
* `credentials_cases`, `hostAndPort_qualified`: what stands before a host and behind it;
* `withAuthority_qualified`, `file_qualified`: URLs with an authority, and `file` URLs;
* `exists_parse_qualified`: each URL whose host is a name has a place in its text where a dot makes
  the host fully qualified and leaves the rest as it is;
* `parse_host_ne`: a URL has no host rather than an empty one.
-/

namespace WalletGate

/-! ## Characters put into a text -/

namespace Text

variable {p : Char → Bool} {cs front back : List Char} {x : Char}

/-- A character put in behind the first one that stays does not move what is dropped in front. -/
theorem dropWhile_insert (h : cs.dropWhile p = front ++ back) (hfront : front ≠ []) (x : Char) :
    (cs.takeWhile p ++ (front ++ x :: back)).dropWhile p = front ++ x :: back := by
  have hstays := List.head?_dropWhile_not p cs
  rw [h] at hstays
  rw [List.dropWhile_append_of_pos fun c hc => List.mem_takeWhile_imp hc]
  cases front with
  | nil => exact absurd rfl hfront
  | cons c front =>
    exact List.dropWhile_cons_of_neg (by simpa using hstays)

/-- A character that stays does not move what is dropped behind, wherever it is put in before that.
-/
theorem rdropWhile_insert (h : cs.rdropWhile p = front ++ back) (hx : p x = false) :
    (front ++ x :: (back ++ cs.rtakeWhile p)).rdropWhile p = front ++ x :: back := by
  have hwhole : front ++ x :: (back ++ cs.rtakeWhile p) =
      (front ++ x :: back) ++ cs.rtakeWhile p := by simp
  have htail : ∀ c ∈ (cs.rtakeWhile p).reverse, p c = true := by
    intro c hc
    exact List.mem_rtakeWhile_imp (List.mem_reverse.1 hc)
  rw [hwhole, List.rdropWhile, List.reverse_append, List.dropWhile_append_of_pos htail,
    ← List.rdropWhile, List.rdropWhile_eq_self_iff]
  intro hne
  -- The last character is the new one or was the last before.
  rcases List.eq_nil_or_concat back with rfl | ⟨init, last, rfl⟩
  · simp [hx]
  · have hlast := List.rdropWhile_last_not p cs (by rw [h]; simp)
    simp only [h] at hlast
    simpa using hlast

/-- A place in a stripped text, other than its start, is a place in the text. -/
theorem strip_insert (h : strip p cs = front ++ back) (hfront : front ≠ []) (hx : p x = false) :
    ∃ front' back', cs = front' ++ back' ∧ strip p (front' ++ x :: back') = front ++ x :: back := by
  have hstrip : (cs.dropWhile p).rdropWhile p = front ++ back := h
  have hdrop : cs.dropWhile p = front ++ (back ++ (cs.dropWhile p).rtakeWhile p) := by
    rw [← List.append_assoc, ← hstrip, List.rdropWhile_append_rtakeWhile]
  refine ⟨cs.takeWhile p ++ front, back ++ (cs.dropWhile p).rtakeWhile p, ?_, ?_⟩
  · rw [List.append_assoc, ← hdrop, List.takeWhile_append_dropWhile]
  · show ((cs.takeWhile p ++ front ++ x :: (back ++ _)).dropWhile p).rdropWhile p = _
    rw [List.append_assoc, dropWhile_insert hdrop hfront, rdropWhile_insert hstrip hx]

end Text

namespace Url

/-! ## Hosts -/

namespace Host

/-- The host with a dot behind it, if it is a name. -/
def qualified : Host → Host
  | name cs => name (cs ++ ['.'])
  | address => address

theorem head?_ne_of_forall {c : Char} {cs : List Char} (h : ∀ rest, cs = c :: rest → False) :
    cs.head? ≠ some c := by
  intro hhead
  obtain ⟨rest, hrest⟩ := List.head?_eq_some_iff.1 hhead
  exact h rest hrest

theorem bracketed_ne_name (cs h : List Char) : bracketed cs ≠ .ok (name h) := by
  unfold bracketed
  split
  · split
    · rintro ⟨⟩
    · rintro ⟨⟩
  · rintro ⟨⟩

/-- A text is read as a name if it is in no brackets, has an ASCII form and does not end like an
address. -/
theorem ofSpecial_eq_name_iff {cs h : List Char} :
    ofSpecial cs = .ok (name h) ↔ cs ≠ [] ∧ cs.head? ≠ some '[' ∧
      (Text.ofBytes? (Text.unescape cs)).bind Domain.ascii? = some h ∧ h ≠ [] ∧
        Net.V4.endsInNumber h = false := by
  unfold ofSpecial
  -- The cases of the reader: nothing, an address in brackets, then a name by whether it decodes,
  -- whether anything is left, and how it ends.
  split
  · simp
  · simp [bracketed_ne_name]
  · rename_i hnil hbracket
    rw [and_iff_right hnil, and_iff_right (head?_ne_of_forall hbracket)]
    split
    · rename_i hnone
      simp [hnone]
    · rename_i hempty
      rw [hempty]
      refine iff_of_false (fun h => by cases h) ?_
      rintro ⟨hsame, hne, -⟩
      exact hne (Option.some.inj hsame).symm
    · rename_i domain hne hdomain
      rw [hdomain]
      split
      · -- A name that ends like an address is read as one or refused.
        rename_i hnumber
        refine iff_of_false ?_ ?_
        · split
          · rintro ⟨⟩
          · rintro ⟨⟩
        · rintro ⟨hsame, -, hnot⟩
          rw [← Option.some.inj hsame, hnumber] at hnot
          cases hnot
      · rename_i hnumber
        constructor
        · rintro ⟨⟩
          refine ⟨rfl, ?_, Bool.eq_false_iff.2 hnumber⟩
          rintro rfl
          exact hne rfl
        · rintro ⟨hsame, -, -⟩
          rw [Option.some.inj hsame]

/-- The names of other schemes are kept as they are, but for what cannot be seen in them. -/
theorem ofOther_eq_name_iff {cs h : List Char} :
    ofOther cs = .ok (name h) ↔ cs.head? ≠ some '[' ∧ cs.any isForbidden = false ∧
      h = Text.escape isUnseen cs := by
  unfold ofOther
  split
  · simp [bracketed_ne_name]
  · rename_i hbracket
    rw [and_iff_right (head?_ne_of_forall hbracket)]
    split
    · rename_i hforbidden
      rw [hforbidden]
      simp
    · rename_i hallowed
      rw [Bool.eq_false_iff.2 hallowed]
      simp [eq_comm]

theorem ofSpecial_concat_dot {cs h : List Char} (hhost : ofSpecial cs = .ok (name h))
    (hlast : h.getLast? ≠ some '.') : ofSpecial (cs ++ ['.']) = .ok (name (h ++ ['.'])) := by
  obtain ⟨hne, hbracket, hdomain, hempty, hnumber⟩ := ofSpecial_eq_name_iff.1 hhost
  obtain ⟨text, htext, hascii⟩ := Option.bind_eq_some_iff.1 hdomain
  refine ofSpecial_eq_name_iff.2 ⟨by simp, ?_, ?_, by simp, ?_⟩
  · rwa [List.head?_append_of_ne_nil _ hne]
  · rw [Text.unescape_concat_dot, Text.ofBytes?_concat_dot htext]
    exact Domain.ascii?_concat_dot hascii
  · rw [Net.V4.endsInNumber_concat_dot hlast, hnumber]

theorem ofOther_concat_dot {cs h : List Char} (hhost : ofOther cs = .ok (name h)) (hne : cs ≠ []) :
    ofOther (cs ++ ['.']) = .ok (name (h ++ ['.'])) := by
  obtain ⟨hbracket, hallowed, rfl⟩ := ofOther_eq_name_iff.1 hhost
  have hescape : Text.escape isUnseen ['.'] = ['.'] := by decide
  refine ofOther_eq_name_iff.2 ⟨?_, ?_, ?_⟩
  · rwa [List.head?_append_of_ne_nil _ hne]
  · rw [List.any_append, hallowed]
    decide
  · unfold Text.escape at hescape ⊢
    rw [List.flatMap_append, hescape]

end Host

/-! ## Credentials -/

theorem splitAtLast?_of_not_mem {c : Char} {cs : List Char} (hc : c ∉ cs) :
    splitAtLast? (· == c) cs = none := by
  have hall : cs.reverse.takeWhile (fun d => !(d == c)) = cs.reverse := by
    rw [List.takeWhile_eq_self_iff]
    intro d hd
    have hne : d ≠ c := fun h => hc (h ▸ List.mem_reverse.1 hd)
    simpa using hne
  unfold splitAtLast?
  simp only [hall, List.drop_length]

theorem splitAtLast?_of_mem {c : Char} (before : List Char) {after : List Char} (hc : c ∉ after) :
    splitAtLast? (· == c) (before ++ c :: after) = some (before, after) := by
  have hreverse : (before ++ c :: after).reverse = after.reverse ++ c :: before.reverse := by simp
  have hafter : (after.reverse ++ c :: before.reverse).takeWhile (fun d => !(d == c)) =
      after.reverse := by
    rw [List.takeWhile_append_of_pos]
    · simp
    · intro d hd
      have hne : d ≠ c := fun h => hc (h ▸ List.mem_reverse.1 hd)
      simpa using hne
  unfold splitAtLast?
  rw [hreverse, hafter]
  simp

/-- A character of a text has a last place in it. -/
theorem exists_last_place {c : Char} {cs : List Char} (hc : c ∈ cs) :
    ∃ before after, cs = before ++ c :: after ∧ c ∉ after := by
  obtain ⟨after, before, hreverse, hafter⟩ := List.eq_append_cons_of_mem (List.mem_reverse.2 hc)
  refine ⟨before.reverse, after.reverse, ?_, fun hmem => hafter (List.mem_reverse.1 hmem)⟩
  rw [← List.reverse_reverse cs, hreverse]
  simp

theorem endsAuthority_dot (kind : Kind) : kind.endsAuthority '.' = false := by
  cases kind <;> decide

theorem endsAuthority_at (kind : Kind) : kind.endsAuthority '@' = false := by
  cases kind <;> decide

variable {kind : Kind}

/-- The part of a text that belongs to an authority in front. -/
def authority (kind : Kind) (cs : List Char) : List Char := cs.takeWhile (!kind.endsAuthority ·)

/-- What follows an authority in front. -/
def afterAuthority (kind : Kind) (cs : List Char) : List Char :=
  cs.dropWhile (!kind.endsAuthority ·)

theorem authority_append_after (kind : Kind) (cs : List Char) :
    authority kind cs ++ afterAuthority kind cs = cs := List.takeWhile_append_dropWhile

theorem endsAuthority_of_mem {cs : List Char} {c : Char} (hc : c ∈ authority kind cs) :
    kind.endsAuthority c = false := by
  simpa using List.mem_takeWhile_imp hc

theorem authority_append {front : List Char} (hfront : ∀ c ∈ front, kind.endsAuthority c = false)
    (cs : List Char) : authority kind (front ++ cs) = front ++ authority kind cs :=
  List.takeWhile_append_of_pos fun c hc => by simpa using hfront c hc

theorem afterAuthority_append {front : List Char}
    (hfront : ∀ c ∈ front, kind.endsAuthority c = false) (cs : List Char) :
    afterAuthority kind (front ++ cs) = afterAuthority kind cs :=
  List.dropWhile_append_of_pos fun c hc => by simpa using hfront c hc

/-- A character put into an authority belongs to it. -/
theorem authority_insert {front : List Char} (hfront : ∀ c ∈ front, kind.endsAuthority c = false)
    {x : Char} (hx : kind.endsAuthority x = false) (cs : List Char) :
    authority kind (front ++ x :: cs) = front ++ x :: authority kind cs := by
  have hpass := List.forall_mem_append.2 ⟨hfront, List.forall_mem_singleton.2 hx⟩
  simpa using authority_append hpass cs

theorem afterAuthority_insert {front : List Char}
    (hfront : ∀ c ∈ front, kind.endsAuthority c = false) {x : Char}
    (hx : kind.endsAuthority x = false) (cs : List Char) :
    afterAuthority kind (front ++ x :: cs) = afterAuthority kind cs := by
  have hpass := List.forall_mem_append.2 ⟨hfront, List.forall_mem_singleton.2 hx⟩
  simpa using afterAuthority_append hpass cs

theorem afterAuthority_idem (kind : Kind) (cs : List Char) :
    afterAuthority kind (afterAuthority kind cs) = afterAuthority kind cs := by
  unfold afterAuthority
  exact List.dropWhile_idempotent _ _

theorem authority_afterAuthority (kind : Kind) (cs : List Char) :
    authority kind (afterAuthority kind cs) = [] := by
  have hwhole := authority_append_after kind (afterAuthority kind cs)
  rw [afterAuthority_idem] at hwhole
  exact List.append_left_eq_self.1 hwhole

/-- A text without an at sign in its authority has no credentials. -/
theorem credentials_of_not_mem {cs : List Char} (hnone : '@' ∉ authority kind cs) :
    credentials kind cs = .ok (false, cs) := by
  have hsplit : splitAtLast? (· == '@') (cs.takeWhile (!kind.endsAuthority ·)) = none :=
    splitAtLast?_of_not_mem hnone
  unfold credentials
  simp only [hsplit]

/-- What stands before the last at sign of an authority are the credentials. -/
theorem credentials_of_mem {front cs : List Char}
    (hfront : ∀ c ∈ front, kind.endsAuthority c = false) (hnone : '@' ∉ authority kind cs) :
    credentials kind (front ++ '@' :: cs) =
      if front.isEmpty && (authority kind cs).isEmpty && !(afterAuthority kind cs).isEmpty then
        .error .emptyHost
      else .ok (front ≠ [] && front ≠ [':'], cs) := by
  have htake := authority_insert hfront (endsAuthority_at kind) cs
  have hdrop := afterAuthority_insert hfront (endsAuthority_at kind) cs
  unfold authority at htake
  unfold afterAuthority at hdrop
  unfold credentials
  simp only [htake, hdrop]
  rw [← authority, ← afterAuthority, splitAtLast?_of_mem _ hnone]
  simp only [authority_append_after]

/-- Credentials stand in front of what they leave, whatever that is, if it has a host. -/
theorem credentials_cases {cs rest : List Char} {given : Bool}
    (h : credentials kind cs = .ok (given, rest)) :
    ∃ front, cs = front ++ rest ∧ (∀ c ∈ front, kind.endsAuthority c = false) ∧
      '@' ∉ authority kind rest ∧ ∀ rest', authority kind rest' ≠ [] → '@' ∉ authority kind rest' →
        credentials kind (front ++ rest') = .ok (given, rest') := by
  by_cases hat : '@' ∈ authority kind cs
  · -- The credentials reach up to the last at sign, and what they leave has none.
    obtain ⟨before, after, hsplit, hafter⟩ := exists_last_place hat
    have hpass : ∀ c ∈ before ++ '@' :: after, kind.endsAuthority c = false := by
      intro c hc
      rw [← hsplit] at hc
      exact endsAuthority_of_mem hc
    rw [List.forall_mem_append, List.forall_mem_cons] at hpass
    obtain ⟨hbefore, -, hafter'⟩ := hpass
    have hwhole : cs = before ++ '@' :: (after ++ afterAuthority kind cs) := by
      have hcs := authority_append_after kind cs
      rw [hsplit] at hcs
      simpa using hcs.symm
    have hnone : '@' ∉ authority kind (after ++ afterAuthority kind cs) := by
      rw [authority_append hafter', authority_afterAuthority, List.append_nil]
      exact hafter
    rw [hwhole, credentials_of_mem hbefore hnone] at h
    split at h
    · cases h
    cases h
    refine ⟨before ++ ['@'], hwhole.trans (by simp), ?_, hnone, fun rest' hne hnone' => ?_⟩
    · exact List.forall_mem_append.2 ⟨hbefore, List.forall_mem_singleton.2 (endsAuthority_at kind)⟩
    have hrest' : (before ++ ['@']) ++ rest' = before ++ '@' :: rest' := by simp
    rw [hrest', credentials_of_mem hbefore hnone', List.isEmpty_eq_false_iff.2 hne, Bool.and_false,
      Bool.false_and, if_neg Bool.false_ne_true]
  -- Without an at sign there are no credentials, and what comes in their place has none either.
  · rw [credentials_of_not_mem hat] at h
    cases h
    exact ⟨[], rfl, by simp, hat, fun rest' _ hnone => credentials_of_not_mem hnone⟩

/-! ## Hosts and ports -/

/-- The text of a host goes on over a dot, and ends where it ended. -/
theorem hostRun_concat_dot {inside : Bool} {cs run rest : List Char}
    (h : hostRun kind inside cs = (run, rest)) :
    hostRun kind inside (run ++ '.' :: rest) = (run ++ ['.'], rest) := by
  -- A dot ends no host, so the run takes it in wherever it stands.
  have hdot : ∀ inside cs, hostRun kind inside ('.' :: cs) =
      ('.' :: (hostRun kind inside cs).1, (hostRun kind inside cs).2) := by
    intro inside cs
    rw [hostRun, endsAuthority_dot]
    rfl
  -- Induction on the text, whether or not a bracket is open before it.
  induction cs generalizing inside run with
  | nil =>
    rw [hostRun] at h
    cases h
    rw [List.nil_append, hdot, hostRun]
  | cons c cs ih =>
    rw [hostRun] at h
    split at h
    · rename_i hends
      cases h
      rw [List.nil_append, hdot, hostRun, if_pos hends]
      rfl
    · rename_i hgoes
      obtain ⟨hrun, hrest⟩ := Prod.mk.inj h
      rw [← hrun, List.cons_append, hostRun, if_neg hgoes]
      dsimp only
      rw [ih (Prod.ext rfl hrest), List.cons_append]

/-- A host ends no later than its authority. -/
theorem hostRun_append {inside : Bool} {cs run rest : List Char}
    (h : hostRun kind inside cs = (run, rest)) :
    cs = run ++ rest ∧ ∀ c ∈ run, kind.endsAuthority c = false := by
  -- By induction on the text: a character that stops the run is not in it.
  induction cs generalizing inside run with
  | nil =>
    rw [hostRun] at h
    cases h
    exact ⟨rfl, fun c hc => absurd hc List.not_mem_nil⟩
  | cons c cs ih =>
    rw [hostRun] at h
    split at h
    · cases h
      exact ⟨rfl, fun c hc => absurd hc List.not_mem_nil⟩
    · rename_i hgoes
      obtain ⟨hrun, hrest⟩ := Prod.mk.inj h
      obtain ⟨hcs, hall⟩ := ih (Prod.ext rfl hrest)
      rw [Bool.or_eq_true, not_or] at hgoes
      rw [← hrun]
      refine ⟨congrArg (c :: ·) hcs, List.forall_mem_cons.2 ⟨?_, hall⟩⟩
      exact Bool.eq_false_iff.2 hgoes.2

/-- The host that a text is read as. -/
def hostOf (kind : Kind) (run : List Char) : Except Error Host :=
  if kind.isSpecial then Host.ofSpecial run else Host.ofOther run

/-- A text that is read as a host name is read as the qualified name with a dot behind it. -/
theorem hostOf_concat_dot {run name : List Char} (hhost : hostOf kind run = .ok (.name name))
    (hne : name ≠ []) (hlast : name.getLast? ≠ some '.') :
    run ≠ [] ∧ hostOf kind (run ++ ['.']) = .ok (.name (name ++ ['.'])) := by
  unfold hostOf at hhost ⊢
  by_cases hspecial : kind.isSpecial = true
  · rw [if_pos hspecial] at hhost ⊢
    exact ⟨(Host.ofSpecial_eq_name_iff.1 hhost).1, Host.ofSpecial_concat_dot hhost hlast⟩
  · rw [if_neg hspecial] at hhost ⊢
    have hrun : run ≠ [] := by
      rintro rfl
      exact hne (Host.ofOther_eq_name_iff.1 hhost).2.2
    exact ⟨hrun, Host.ofOther_concat_dot hhost hrun⟩

/-- A host with the port that follows it. -/
def withPort (scheme : String) (host : Host) (rest : List Char) :
    Except Error (Host × Option Nat × List Char) :=
  match rest with
  | ':' :: rest =>
    if host = .name [] then .error .emptyHost
    else do
      let (port, rest) ← readPort rest
      .ok (host, port.filter fun n => defaultPort? scheme ≠ some n, rest)
  | rest => .ok (host, none, rest)

theorem hostAndPort_eq {scheme : String} {cs run rest : List Char}
    (hrun : hostRun kind false cs = (run, rest)) :
    hostAndPort kind scheme cs = hostOf kind run >>= fun host => withPort scheme host rest := by
  unfold hostAndPort hostOf
  rw [hrun]
  by_cases hspecial : kind.isSpecial = true
  · simp only [if_pos hspecial]
    rfl
  · simp only [if_neg hspecial]
    rfl

/-- The port does not depend on the host. -/
theorem withPort_cases {scheme : String} {host host' : Host} {rest after : List Char}
    {port : Option Nat} (h : withPort scheme host rest = .ok (host', port, after)) :
    host' = host ∧ ∀ other, other ≠ .name [] →
      withPort scheme other rest = .ok (other, port, after) := by
  unfold withPort at h
  -- A port is read behind a colon, which asks for a host that is not empty; nothing else about the
  -- host counts.
  split at h
  · rename_i digits
    split at h
    · cases h
    obtain ⟨⟨number, behind⟩, hread, h⟩ := Except.bind_ok_iff.1 h
    cases h
    refine ⟨rfl, fun other hother => ?_⟩
    rw [withPort, if_neg hother, hread]
    rfl
  · rename_i hcolon
    cases h
    refine ⟨rfl, fun other _ => ?_⟩
    unfold withPort
    split
    · exact absurd rfl (hcolon _)
    · rfl

theorem hostAndPort_qualified {scheme : String} {cs name after : List Char} {port : Option Nat}
    (h : hostAndPort kind scheme cs = .ok (.name name, port, after)) (hne : name ≠ [])
    (hlast : name.getLast? ≠ some '.') :
    ∃ run rest, cs = run ++ rest ∧ run ≠ [] ∧ (∀ c ∈ run, kind.endsAuthority c = false) ∧
      hostAndPort kind scheme (run ++ '.' :: rest) = .ok (.name (name ++ ['.']), port, after) := by
  obtain ⟨run, rest, hrun⟩ : ∃ run rest, hostRun kind false cs = (run, rest) := ⟨_, _, rfl⟩
  obtain ⟨hcs, hpass⟩ := hostRun_append hrun
  rw [hostAndPort_eq hrun] at h
  obtain ⟨host, hhost, h⟩ := Except.bind_ok_iff.1 h
  obtain ⟨rfl, hport⟩ := withPort_cases h
  obtain ⟨hne', hdotted⟩ := hostOf_concat_dot hhost hne hlast
  refine ⟨run, rest, hcs, hne', hpass, ?_⟩
  rw [hostAndPort_eq (hostRun_concat_dot hrun), hdotted]
  exact hport _ (by simp)

/-! ## URLs with an authority -/

/-- The URL with the fully qualified form of its host, if that is a name. -/
def qualified (url : Url) : Url := { url with host := url.host.map Host.qualified }

theorem assemble_host_eq_name {scheme : String} {host : Option Host} {port : Option Nat}
    {path rest name : List Char}
    (h : (assemble scheme host port path rest).host = some (.name name)) :
    host = some (.name name) ∧ name ≠ [] := by
  have hfilter : host.filter (· ≠ .name []) = some (.name name) := h
  obtain ⟨hsome, hfull⟩ := Option.filter_eq_some_iff.1 hfilter
  refine ⟨hsome, ?_⟩
  rintro rfl
  exact of_decide_eq_true hfull rfl

theorem assemble_qualified (scheme : String) (port : Option Nat) (path rest : List Char)
    {name : List Char} (hne : name ≠ []) :
    assemble scheme (some (.name (name ++ ['.']))) port path rest =
      (assemble scheme (some (.name name)) port path rest).qualified := by
  have hkept : ∀ {cs : List Char}, cs ≠ [] →
      (some (Host.name cs)).filter (· ≠ .name []) = some (.name cs) := by
    intro cs hcs
    exact Option.filter_eq_some_iff.2 ⟨rfl, decide_eq_true (by simpa using hcs)⟩
  unfold qualified assemble
  rw [hkept hne, hkept (by simp)]
  rfl

/-- A text with an authority in which one dot more makes the host fully qualified, and changes
nothing else. -/
theorem withAuthority_qualified {scheme : String} {cs name : List Char} {url : Url}
    (h : withAuthority kind scheme cs = .ok url) (hhost : url.host = some (.name name))
    (hlast : name.getLast? ≠ some '.') :
    ∃ front back, cs = front ++ back ∧ front ≠ [] ∧
      withAuthority kind scheme (front ++ '.' :: back) = .ok url.qualified := by
  unfold withAuthority at h
  obtain ⟨⟨given, behind⟩, hgiven, h⟩ := Except.bind_ok_iff.1 h
  obtain ⟨⟨host, port, after⟩, hport, h⟩ := Except.bind_ok_iff.1 h
  dsimp only at h
  split at h
  · cases h
  cases h
  obtain ⟨hname, hne⟩ := assemble_host_eq_name hhost
  cases hname
  -- The credentials and the port are read as before, so it is enough to put the dot behind the host
  -- and to read it there.
  obtain ⟨front, hcs, -, hnone, hcredentials⟩ := credentials_cases hgiven
  obtain ⟨run, rest, hbehind, hrun, hpass, hdotted⟩ := hostAndPort_qualified hport hne hlast
  -- The dot stands in the authority, and is no at sign.
  have hauthority := authority_insert hpass (endsAuthority_dot kind) rest
  have hat : '@' ∉ authority kind (run ++ '.' :: rest) := by
    rw [hbehind, authority_append hpass, List.mem_append, not_or] at hnone
    rw [hauthority, List.mem_append, List.mem_cons]
    rintro (hrun | hdot | hrest)
    · exact hnone.1 hrun
    · exact absurd hdot (by decide)
    · exact hnone.2 hrest
  have hgiven' := hcredentials (run ++ '.' :: rest) (by simp [hauthority]) hat
  refine ⟨front ++ run, rest, by rw [hcs, hbehind, List.append_assoc], by simp [hrun], ?_⟩
  unfold withAuthority
  rw [List.append_assoc, hgiven']
  refine Except.bind_ok_iff.2 ⟨_, rfl, Except.bind_ok_iff.2 ⟨_, hdotted, ?_⟩⟩
  dsimp only
  rw [if_neg (by simp), assemble_qualified scheme port _ _ hne]

/-! ## `file` URLs -/

/-- A `file` URL keeps its host unless its path starts with a drive letter. -/
theorem file_ofPath_host_eq_name {host : Option Host} {cs name : List Char}
    (h : (file.ofPath host cs).host = some (.name name)) :
    host = some (.name name) ∧
      file.ofPath (some (.name (name ++ ['.']))) cs = (file.ofPath host cs).qualified := by
  unfold file.ofPath at h ⊢
  dsimp only at h ⊢
  obtain ⟨hhost, hne⟩ := assemble_host_eq_name h
  by_cases hdrive : (Path.read .file (if cs.head?.any (Kind.isSlash .file) then cs.drop 1 else cs)
      ⟨['/'], [], false⟩).1.drive = true
  · rw [if_pos hdrive] at hhost
    cases hhost
  · rw [if_neg hdrive] at hhost ⊢
    rw [if_neg hdrive, hhost, assemble_qualified _ _ _ _ hne]
    exact ⟨rfl, rfl⟩

/-- After two slashes a `file` URL has an authority. -/
theorem file_of_slashes {a b : Char} (ha : Kind.isSlash .file a = true)
    (hb : Kind.isSlash .file b = true) (rest : List Char) :
    file (a :: b :: rest) =
      if (authority .file rest).isEmpty || Path.isDriveLike (authority .file rest) then
        .ok (file.ofPath none rest)
      else Host.ofSpecial (authority .file rest) >>= fun host =>
        .ok (file.ofPath (if host = .name "localhost".toList then none else some host)
          (afterAuthority .file rest)) := by
  unfold file
  exact if_pos (Bool.and_eq_true_iff.2 ⟨ha, hb⟩)

theorem isDriveLike_concat_dot (cs : List Char) : Path.isDriveLike (cs ++ ['.']) = false := by
  rcases cs with _ | ⟨c, _ | ⟨d, cs⟩⟩
  · rfl
  · show (Text.isLetter c && ('.' == ':' || '.' == '|')) = false
    rw [Bool.and_eq_false_iff]
    exact .inr (by decide)
  · cases cs with
    | nil => rfl
    | cons e cs => rfl

/-- A `file` URL with a name as its host has an authority, which is read as that name. -/
theorem file_cases {cs name : List Char} {url : Url} (h : file cs = .ok url)
    (hhost : url.host = some (.name name)) :
    ∃ a b rest, cs = a :: b :: rest ∧ Kind.isSlash .file a = true ∧ Kind.isSlash .file b = true ∧
      Host.ofSpecial (authority .file rest) = .ok (.name name) ∧
      url = file.ofPath (some (.name name)) (afterAuthority .file rest) := by
  -- Without an authority, or with an empty one, there is no host.
  have hnone : ∀ cs, (file.ofPath none cs).host ≠ some (.name name) := by
    intro cs hname
    cases (file_ofPath_host_eq_name hname).1
  obtain ⟨a, b, rest, rfl, ha, hb⟩ : ∃ a b rest, cs = a :: b :: rest ∧
      Kind.isSlash .file a = true ∧ Kind.isSlash .file b = true := by
    unfold file at h
    dsimp only at h
    split at h
    · rename_i a b rest
      by_cases hslashes : (Kind.isSlash .file a && Kind.isSlash .file b) = true
      · rw [Bool.and_eq_true] at hslashes
        exact ⟨a, b, rest, rfl, hslashes.1, hslashes.2⟩
      · rw [if_neg hslashes] at h
        cases h
        exact absurd hhost (hnone _)
    · cases h
      exact absurd hhost (hnone _)
  refine ⟨a, b, rest, rfl, ha, hb, ?_⟩
  rw [file_of_slashes ha hb] at h
  split at h
  · cases h
    exact absurd hhost (hnone _)
  obtain ⟨host, hread, h⟩ := Except.bind_ok_iff.1 h
  cases h
  have hname := (file_ofPath_host_eq_name hhost).1
  split at hname
  · cases hname
  · rename_i hother
    cases hname
    exact ⟨hread, by rw [if_neg hother]⟩

theorem file_qualified {cs name : List Char} {url : Url} (h : file cs = .ok url)
    (hhost : url.host = some (.name name)) (hlast : name.getLast? ≠ some '.') :
    ∃ front back, cs = front ++ back ∧ file (front ++ '.' :: back) = .ok url.qualified := by
  obtain ⟨a, b, rest, rfl, ha, hb, hread, rfl⟩ := file_cases h hhost
  have hpass : ∀ c ∈ authority .file rest, Kind.endsAuthority .file c = false := by
    intro c hc
    exact endsAuthority_of_mem hc
  -- With the dot the authority is neither empty nor a drive letter, and the name not this machine.
  have hauthority : authority .file (authority .file rest ++ '.' :: afterAuthority .file rest) =
      authority .file rest ++ ['.'] := by
    rw [authority_insert hpass (endsAuthority_dot .file), authority_afterAuthority]
  have hafter : afterAuthority .file (authority .file rest ++ '.' :: afterAuthority .file rest) =
      afterAuthority .file rest := by
    rw [afterAuthority_insert hpass (endsAuthority_dot .file), afterAuthority_idem]
  have hfull : ((authority .file rest ++ ['.']).isEmpty ||
      Path.isDriveLike (authority .file rest ++ ['.'])) = false := by
    rw [isDriveLike_concat_dot]
    simp
  have hother : Host.name (name ++ ['.']) ≠ .name "localhost".toList := by
    intro hlocal
    have hends := congrArg List.getLast? (Host.name.inj hlocal)
    rw [List.getLast?_concat] at hends
    revert hends
    decide
  refine ⟨a :: b :: authority .file rest, afterAuthority .file rest, ?_, ?_⟩
  · rw [List.cons_append, List.cons_append, authority_append_after]
  · rw [List.cons_append, List.cons_append, file_of_slashes ha hb, hauthority, hafter, hfull,
      if_neg Bool.false_ne_true, Host.ofSpecial_concat_dot hread hlast,
      ← (file_ofPath_host_eq_name hhost).2]
    show Except.ok (file.ofPath (if _ then none else some _) _) = _
    rw [if_neg hother]

/-! ## The whole -/

/-- A scheme is a word that starts with a letter, up to the first colon. -/
theorem splitScheme?_eq_some_iff {cs rest : List Char} {scheme : String} :
    splitScheme? cs = some (scheme, rest) ↔ ∃ word, cs = word ++ ':' :: rest ∧
      word.head?.any Text.isLetter = true ∧ (∀ c ∈ word, isSchemeChar c = true) ∧
      scheme = String.ofList (word.map Text.lower) := by
  unfold splitScheme?
  constructor
  · intro h
    -- A scheme is a run of its characters up to a colon, of which the first is a letter.
    split at h
    · cases h
    rename_i hletter
    split at h
    · rename_i rest' hcolon
      cases h
      have hwhole := List.takeWhile_append_dropWhile (p := isSchemeChar) (l := cs)
      rw [hcolon] at hwhole
      refine ⟨_, hwhole.symm, ?_, fun c hc => List.mem_takeWhile_imp hc, rfl⟩
      -- The letter in front is part of the word.
      cases cs with
      | nil => exact absurd rfl hletter
      | cons c cs =>
        have hc : Text.isLetter c = true := by simpa using hletter
        have hword : isSchemeChar c = true := by simp [isSchemeChar, Text.isAlphanumeric, hc]
        rw [List.takeWhile_cons_of_pos hword]
        exact hc
    · cases h
  · rintro ⟨word, rfl, hletter, hword, rfl⟩
    have hne : word ≠ [] := by
      rintro rfl
      cases hletter
    have hcolon : isSchemeChar ':' = false := by decide
    rw [List.head?_append_of_ne_nil _ hne, hletter, List.dropWhile_append_of_pos hword,
      List.takeWhile_append_of_pos hword, List.takeWhile_cons_of_neg (by simp [hcolon]),
      List.dropWhile_cons_of_neg (by simp [hcolon]), List.append_nil]
    rfl

theorem afterScheme_qualified {scheme : String} {cs name : List Char} {url : Url}
    (h : afterScheme scheme cs = .ok url) (hhost : url.host = some (.name name))
    (hlast : name.getLast? ≠ some '.') :
    ∃ front back, cs = front ++ back ∧
      afterScheme scheme (front ++ '.' :: back) = .ok url.qualified := by
  -- A URL without an authority has no host.
  have hnone : ∀ path rest, (assemble scheme none none path rest).host ≠ some (.name name) := by
    intro path rest hname
    cases (assemble_host_eq_name hname).1
  unfold afterScheme at h ⊢
  -- Only a special scheme lets slashes stand in front of the authority, and they stay in front.
  cases hkind : Kind.ofScheme scheme with
  | file =>
    rw [hkind] at h
    exact file_qualified h hhost hlast
  | special =>
    rw [hkind] at h
    obtain ⟨front, back, hrest, hfront, hdotted⟩ := withAuthority_qualified h hhost hlast
    refine ⟨cs.takeWhile (Kind.isSlash .special) ++ front, back, ?_, ?_⟩
    · rw [List.append_assoc, ← hrest, List.takeWhile_append_dropWhile]
    · dsimp only
      rw [List.append_assoc, Text.dropWhile_insert hrest hfront, hdotted]
  | other =>
    rw [hkind] at h
    dsimp only at h
    split at h
    · obtain ⟨front, back, rfl, -, hdotted⟩ := withAuthority_qualified h hhost hlast
      exact ⟨'/' :: '/' :: front, back, rfl, hdotted⟩
    · cases h
      exact absurd hhost (hnone _ _)
    · cases h
      exact absurd hhost (hnone _ _)

/-- A place in the characters that a URL is read from, other than their start, is a place in its
text. -/
theorem readable_insert {s : String} {front back : List Char} (h : readable s = front ++ back)
    (hfront : front ≠ []) :
    ∃ front' back', s = front' ++ back' ∧
      readable (front' ++ "." ++ back') = front ++ '.' :: back := by
  obtain ⟨kept, kept', hstrip, rfl, rfl⟩ := List.filter_eq_append_iff.1 h
  have hkept : kept ≠ [] := by
    rintro rfl
    exact hfront rfl
  obtain ⟨lead, trail, hs, hdotted⟩ := Text.strip_insert (x := '.') hstrip hkept (by decide)
  refine ⟨String.ofList lead, String.ofList trail, ?_, ?_⟩
  · rw [← String.ofList_append, ← hs, String.ofList_toList]
  · have htext : (String.ofList lead ++ "." ++ String.ofList trail).toList =
        lead ++ '.' :: trail := by
      simp
    rw [readable, htext, hdotted, List.filter_append, List.filter_cons_of_pos (by decide)]

/-- A URL whose host is a name has a place in its text where a dot makes the host fully qualified,
and leaves the rest of the URL as it is. -/
theorem exists_parse_qualified {s : String} {name : List Char} {url : Url} (h : parse s = .ok url)
    (hhost : url.host = some (.name name)) (hlast : name.getLast? ≠ some '.') :
    ∃ front back, s = front ++ back ∧ parse (front ++ "." ++ back) = .ok url.qualified := by
  obtain ⟨scheme, rest, hsplit, hafter⟩ := parse_eq_ok_iff.1 h
  obtain ⟨word, hword, hscheme⟩ := splitScheme?_eq_some_iff.1 hsplit
  obtain ⟨front, back, rfl, hdotted⟩ := afterScheme_qualified hafter hhost hlast
  -- The place is behind the colon of the scheme, so it is not the start of what is read.
  have hreadable : readable s = (word ++ ':' :: front) ++ back := by simp [hword]
  obtain ⟨front', back', hs, hinsert⟩ := readable_insert hreadable (by simp)
  refine ⟨front', back', hs, parse_eq_ok_iff.2 ⟨scheme, front ++ '.' :: back, ?_, hdotted⟩⟩
  rw [hinsert, splitScheme?_eq_some_iff]
  exact ⟨word, by simp, hscheme⟩

/-- A URL has no host rather than an empty one. -/
theorem parse_host_ne {s : String} {url : Url} (h : parse s = .ok url) :
    url.host ≠ some (.name []) := by
  obtain ⟨scheme, rest, -, hafter⟩ := parse_eq_ok_iff.1 h
  obtain ⟨host, port, path, rest, rfl⟩ := afterScheme_assembled hafter
  intro hempty
  exact (assemble_host_eq_name hempty).2 rfl

end Url

end WalletGate
