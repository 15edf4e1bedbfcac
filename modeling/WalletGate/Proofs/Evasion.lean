import WalletGate.Proofs.Injection
import WalletGate.Proofs.Qualified
/-!
# Denylists and fully qualified hosts

A host and its fully qualified form, which has a dot behind it, are one name to the network. A
denylist compares what is written: the dot is one more label, which is empty, and behind it the
labels of no other entry are the last ones. So an entry covers the fully qualified form of a host
only if the entry is written that way itself, and a page that a list avoids is admitted under the
other spelling.

* `labels_qualified`, `Entry.matchesHost_qualified`: what the dot does to the labels;
* `Denylist.blocks_qualified`: which entries are left for a host with a dot;
* `Denylist.admits_qualified`: which documents are admitted under the fully qualified form of their
  host.
-/

namespace WalletGate

namespace Url

theorem Host.text_ne_empty {host : Host} (hne : host ≠ .name []) : host.text ≠ "" := by
  intro hempty
  have hlist : host.text.toList = [] := congrArg String.toList hempty
  cases host with
  | name cs =>
    have hcs : cs = [] := by simpa [Host.text] using hlist
    exact hne (congrArg Host.name hcs)
  | v4 address =>
    have hdot : '.' ∈ (v4 address).text.toList := by simp [Host.text, Net.V4.text]
    rw [hlist] at hdot
    cases hdot
  | v6 address =>
    have hbracket : '[' ∈ (v6 address).text.toList := by simp [Host.text]
    rw [hlist] at hbracket
    cases hbracket

/-- The dot stands behind the text of the host, in lower case as well. -/
theorem lowerText_qualified (name : List Char) :
    Text.lowerText (Host.text (.name (name ++ ['.']))) =
      Text.lowerText (Host.text (.name name)) ++ "." := by
  have hdot : Text.lower '.' = '.' := by decide
  rw [← String.toList_inj]
  simp [Text.lowerText, Host.text, hdot]

end Url

namespace Page

/-! ## Entries -/

/-- A dot behind a host adds an empty label. -/
theorem labels_qualified (host : String) : labels (host ++ ".") = labels host ++ [[]] := by
  have htext : (host ++ ".").toList = host.toList ++ ['.'] := by simp
  rw [labels, labels, htext, List.splitOn_append_cons_self, List.splitOn_nil]

/-- The last label of a host is empty if the host ends in a dot. -/
theorem exists_parent_of_labels {host : String} (hne : host ≠ "") {front : List (List Char)}
    (hlabels : labels host = front ++ [[]]) :
    ∃ parent, host = parent ++ "." ∧ front = labels parent := by
  have htext := intercalate_labels host
  -- The empty label alone would be the empty host.
  have hfront : front ≠ [] := by
    rintro rfl
    rw [hlabels, List.nil_append, List.intercalate_singleton] at htext
    exact hne (String.toList_inj.1 htext.symm)
  rw [hlabels, intercalate_append '.' front [[]] hfront (List.cons_ne_nil _ _),
    List.intercalate_singleton] at htext
  have hhost : host = String.ofList (['.'].intercalate front) ++ "." := by
    rw [← String.toList_inj, ← htext]
    simp
  have hsame : front ++ [[]] = labels (String.ofList (['.'].intercalate front)) ++ [[]] := by
    rw [← labels_qualified, ← hhost, hlabels]
  exact ⟨_, hhost, List.append_cancel_right hsame⟩

namespace Entry

/-- An entry that was read has a host. -/
theorem host_ne_empty {text : String} {e : Entry} (h : parse text = .ok e) : e.host ≠ "" := by
  unfold parse at h
  dsimp only at h
  -- An entry is made only where all checks passed, and then its host is that of a URL.
  split at h
  · cases h
  rename_i url hurl
  split at h
  · cases h
  split at h
  · cases h
  rename_i host hhost
  cases h
  obtain ⟨address, haddress, rfl⟩ := Option.map_eq_some_iff.1 hhost
  have hne : address ≠ .name [] := by
    rintro rfl
    exact Url.parse_host_ne hurl haddress
  intro hempty
  refine Url.Host.text_ne_empty hne ?_
  simpa [Text.lowerText] using hempty

/-- An entry covers the fully qualified form of a host if it is written fully qualified itself. -/
theorem matchesHost_qualified {e : Entry} (hne : e.host ≠ "") (host : String) :
    e.matchesHost (host ++ ".") = true ↔
      ∃ parent, e.host = parent ++ "." ∧ labels parent <:+ labels host := by
  rw [matchesHost_iff, labels_qualified, List.suffix_concat_iff]
  constructor
  · rintro (hnil | ⟨front, hlabels, hfront⟩)
    · exact absurd hnil (labels_ne_nil e.host)
    · obtain ⟨parent, hparent, rfl⟩ := exists_parent_of_labels hne hlabels
      exact ⟨parent, hparent, hfront⟩
  · rintro ⟨parent, hparent, hfront⟩
    refine .inr ⟨labels parent, ?_, hfront⟩
    rw [hparent, labels_qualified]

end Entry

/-! ## Lists -/

namespace Denylist

/-- The entries that cover a host with a dot behind it are those that are written with one. -/
theorem blocks_qualified {raw : List String} {d : Denylist} (hparse : parse raw = .ok d)
    (host path : String) : d.blocks (host ++ ".") path = true ↔
      ∃ text ∈ raw, ∃ e parent, Entry.parse text = .ok e ∧ e.host = parent ++ "." ∧
        labels parent <:+ labels host ∧ (e.path = "/" ∨ e.path = path) := by
  rw [blocks_iff hparse]
  constructor
  · rintro ⟨text, htext, e, hentry, hlabels, hpath⟩
    rw [← Entry.matchesHost_iff,
      Entry.matchesHost_qualified (Entry.host_ne_empty hentry)] at hlabels
    obtain ⟨parent, hparent, hlabels⟩ := hlabels
    exact ⟨text, htext, e, parent, hentry, hparent, hlabels, hpath⟩
  · rintro ⟨text, htext, e, parent, hentry, hparent, hlabels, hpath⟩
    refine ⟨text, htext, e, hentry, ?_, hpath⟩
    rw [← Entry.matchesHost_iff, Entry.matchesHost_qualified (Entry.host_ne_empty hentry)]
    exact ⟨parent, hparent, hlabels⟩

/-- Without a list, the type, the root and the ending of the path decide. -/
theorem admits_nil_iff (x : Document) : (⟨[]⟩ : Denylist).admits x = true ↔
    x.hasHtmlType = true ∧ x.hasHtmlRoot = true ∧
      ∃ u, Url.parse x.url = .ok u ∧ namesFile u.path = false := by
  rw [admits_eq_true_iff]
  simp [blocks]

/-- Under the fully qualified form of its host a document is checked as before, except that the list
is asked about the host with a dot behind it. -/
theorem admits_of_qualified (d : Denylist) {x : Document} {u : Url} (hu : Url.parse x.url = .ok u)
    {name : List Char} (hhost : u.host = some (.name name)) {address : String}
    (haddress : Url.parse address = .ok u.qualified) :
    d.admits { x with url := address } = true ↔ (⟨[]⟩ : Denylist).admits x = true ∧
      d.blocks (Text.lowerText (Url.Host.text (.name name)) ++ ".") u.path = false := by
  -- With the dot the host is compared in lower case like any other, and nothing else about the URL
  -- has changed.
  have hdotted : Text.lowerText (u.qualified.hostText?.getD "") =
      Text.lowerText (Url.Host.text (.name name)) ++ "." := by
    rw [Url.hostText?, Url.qualified, hhost]
    exact Url.lowerText_qualified name
  rw [admits_eq_true_iff, admits_nil_iff]
  constructor
  · rintro ⟨htype, hroot, v, hv, hfile, hblocks⟩
    cases haddress.symm.trans hv
    rw [hdotted] at hblocks
    exact ⟨⟨htype, hroot, u, hu, hfile⟩, hblocks⟩
  · rintro ⟨⟨htype, hroot, v, hv, hfile⟩, hblocks⟩
    cases hu.symm.trans hv
    refine ⟨htype, hroot, u.qualified, haddress, hfile, ?_⟩
    rw [hdotted]
    exact hblocks

/-- Take a document with a URL whose host is a name without a dot behind it. One dot in the text of
the URL makes its host fully qualified and leaves the rest of the URL as it is. Whichever text is
read as that URL, under it a list admits the document if it would be admitted without a list and no
entry that is itself written with a dot behind its host covers it: the labels before that dot are
the last labels of the host, and the path of the entry is the root or that of the document. So a
list without such entries has no say in the matter. -/
theorem admits_qualified {raw : List String} {d : Denylist} (hparse : parse raw = .ok d)
    {x : Document} {u : Url} (hu : Url.parse x.url = .ok u) {name : List Char}
    (hhost : u.host = some (.name name)) (hlast : name.getLast? ≠ some '.') :
    (∃ front back, x.url = front ++ back ∧
      Url.parse (front ++ "." ++ back) = .ok u.qualified) ∧
    ∀ address, Url.parse address = .ok u.qualified →
      (d.admits { x with url := address } = true ↔
        (⟨[]⟩ : Denylist).admits x = true ∧
        ¬ ∃ text ∈ raw, ∃ e parent, Entry.parse text = .ok e ∧ e.host = parent ++ "." ∧
          labels parent <:+ labels (Text.lowerText (Url.Host.text (.name name))) ∧
          (e.path = "/" ∨ e.path = u.path)) ∧
      ((∀ e ∈ d.entries, ∀ parent, e.host ≠ parent ++ ".") →
        d.admits { x with url := address } = (⟨[]⟩ : Denylist).admits x) := by
  refine ⟨Url.exists_parse_qualified hu hhost hlast, fun address haddress => ⟨?_, fun hplain => ?_⟩⟩
  · rw [d.admits_of_qualified hu hhost haddress, ← Bool.not_eq_true, blocks_qualified hparse]
  · rw [Bool.eq_iff_iff, d.admits_of_qualified hu hhost haddress, ← Bool.not_eq_true,
      blocks_qualified hparse]
    refine and_iff_left ?_
    rintro ⟨text, htext, e, parent, hentry, hparent, -⟩
    exact hplain e ((mem_entries_iff hparse e).2 ⟨text, htext, hentry⟩) parent hparent

/-- Of a list with one host as it is and another fully qualified, the fully qualified form of the
second alone is avoided. -/
theorem admits_dropbox_not_ipfs :
    parse ["https://dropbox.com/", "https://ipfs.io./"] =
        .ok ⟨[⟨"dropbox.com", "/"⟩, ⟨"ipfs.io.", "/"⟩]⟩ ∧
      Url.parse "https://www.dropbox.com/s?q" =
        .ok ⟨"https", some (.name "www.dropbox.com".toList), none, "/s", true, false⟩ ∧
      admits ⟨[⟨"dropbox.com", "/"⟩, ⟨"ipfs.io.", "/"⟩]⟩ (.html "https://www.dropbox.com./s?q") =
        true ∧
      Url.parse "https://app.ipfs.io:8080/x" =
        .ok ⟨"https", some (.name "app.ipfs.io".toList), some 8080, "/x", false, false⟩ ∧
      admits ⟨[⟨"dropbox.com", "/"⟩, ⟨"ipfs.io.", "/"⟩]⟩ (.html "https://app.ipfs.io.:8080/x") =
        false := by
  have hparse : parse ["https://dropbox.com/", "https://ipfs.io./"] =
      .ok ⟨[⟨"dropbox.com", "/"⟩, ⟨"ipfs.io.", "/"⟩]⟩ := by decide +kernel
  have hipfs : Entry.parse "https://ipfs.io./" = .ok ⟨"ipfs.io.", "/"⟩ := by decide +kernel
  have hfile : Url.parse "https://www.dropbox.com/s?q" =
      .ok ⟨"https", some (.name "www.dropbox.com".toList), none, "/s", true, false⟩ := by
    decide +kernel
  have hpage : Url.parse "https://app.ipfs.io:8080/x" =
      .ok ⟨"https", some (.name "app.ipfs.io".toList), some 8080, "/x", false, false⟩ := by
    decide +kernel
  obtain ⟨-, hfiles⟩ := admits_qualified hparse (x := .html "https://www.dropbox.com/s?q") hfile rfl
    (by decide)
  obtain ⟨-, hpages⟩ := admits_qualified hparse (x := .html "https://app.ipfs.io:8080/x") hpage rfl
    (by decide)
  refine ⟨hparse, hfile, (hfiles _ (by decide +kernel)).1.2 ⟨by decide +kernel, ?_⟩, hpage,
    Bool.eq_false_iff.2 fun hadmits => ?_⟩
  · -- The only entry with a dot behind its host is that of the other host.
    rintro ⟨text, htext, e, parent, hentry, hparent, hlabels, -⟩
    have he := (mem_entries_iff hparse e).2 ⟨text, htext, hentry⟩
    have hdot := congrArg labels hparent
    rw [labels_qualified] at hdot
    have hlast : [] ∈ labels e.host := by simp [hdot]
    have hfront : labels parent = (labels e.host).dropLast := by rw [hdot, List.dropLast_concat]
    rw [hfront] at hlabels
    rcases List.mem_cons.1 he with rfl | he
    · revert hlast
      decide +kernel
    · rw [List.mem_singleton.1 he] at hlabels
      revert hlabels
      decide +kernel
  · obtain ⟨-, hnone⟩ := (hpages _ (by decide +kernel)).1.1 hadmits
    exact hnone ⟨_, List.mem_cons_of_mem _ (List.mem_singleton_self _), _, "ipfs.io", hipfs,
      by decide +kernel, by decide +kernel, .inl rfl⟩

/-- A list that has a host as it is avoids its pages, but not under the fully qualified form of the
host. -/
theorem admits_dropbox_qualified :
    parse ["https://dropbox.com/"] = .ok ⟨[⟨"dropbox.com", "/"⟩]⟩ ∧
      Url.parse "https://dropbox.com/" =
        .ok ⟨"https", some (.name "dropbox.com".toList), none, "/", false, false⟩ ∧
      Url.parse "https://dropbox.com./" =
        .ok (Url.qualified ⟨"https", some (.name "dropbox.com".toList), none, "/", false, false⟩) ∧
      blocks ⟨[⟨"dropbox.com", "/"⟩]⟩ "dropbox.com" "/" = true ∧
      admits ⟨[⟨"dropbox.com", "/"⟩]⟩ (.html "https://dropbox.com/") = false ∧
      admits ⟨[⟨"dropbox.com", "/"⟩]⟩ (.html "https://dropbox.com./") = true := by
  decide +kernel

end Denylist

end Page

end WalletGate
