import Mathlib.Data.Set.List
import WalletGate.Page.Injection
import WalletGate.Proofs.Basic
/-!
# The injection gate

Denylists are matched by the ends of texts, while what is meant are the labels of hosts: an entry
covers a host if the labels of the entry are the last labels of the host. The two agree, so a host
that only looks like the host of an entry is not covered by it.

* `labels_suffix_iff`: the last labels of a host, in terms of the text of the host;
* `Denylist.parse_eq_ok_iff`, `Denylist.blocks_iff`: what a list blocks, in terms of the texts that
  it was read from;
* `Denylist.admits_iff`: which documents a list admits, and what this depends on.
-/

namespace WalletGate.Page

/-! ## Labels -/

/-- The labels of a host, which are separated by dots. -/
def labels (host : String) : List (List Char) := host.toList.splitOn '.'

/-- The dots and labels of a host are all of it. -/
theorem intercalate_labels (host : String) : ['.'].intercalate (labels host) = host.toList :=
  List.intercalate_splitOn '.'

theorem labels_ne_nil (host : String) : labels host ≠ [] := List.splitOn_ne_nil '.' _

/-- The labels of a host end in those of a parent if the host is the parent, or ends in a dot and
the parent. -/
theorem labels_suffix_iff (host parent : String) :
    labels parent <:+ labels host ↔ host = parent ∨ '.' :: parent.toList <:+ host.toList := by
  constructor
  · rintro ⟨front, hlabels⟩
    have htext : ['.'].intercalate (front ++ labels parent) = host.toList := by
      rw [hlabels, intercalate_labels]
    -- Either nothing stands in front, or what does is joined to the parent by a dot.
    by_cases hfront : front = []
    · left
      rw [hfront, List.nil_append, intercalate_labels] at htext
      exact String.toList_inj.mp htext.symm
    · right
      rw [intercalate_append '.' front _ hfront (labels_ne_nil parent), intercalate_labels] at htext
      exact ⟨_, htext⟩
  · rintro (rfl | ⟨front, htext⟩)
    · exact List.suffix_rfl
    · -- Splitting at that dot leaves the labels of the parent whole.
      rw [labels, labels, ← htext, List.splitOn_append_cons_self]
      exact List.suffix_append _ _

namespace Entry

theorem matchesHost_iff (e : Entry) (host : String) :
    e.matchesHost host = true ↔ labels e.host <:+ labels host := by
  rw [labels_suffix_iff, matchesHost, Bool.or_eq_true, beq_iff_eq, List.isSuffixOf_iff_suffix]

/-- An entry blocks the paths it covers, of the hosts whose last labels are its own. -/
theorem blocks_iff (e : Entry) (host path : String) :
    e.blocks host path = true ↔
      labels e.host <:+ labels host ∧ (e.path = "/" ∨ e.path = path) := by
  rw [blocks, Bool.and_eq_true, matchesHost_iff, isRoot, Bool.or_eq_true, beq_iff_eq, beq_iff_eq,
    eq_comm (a := path)]

end Entry

/-! ## Lists -/

namespace Denylist

/-- A list is read entry by entry. -/
theorem parse_eq_ok_iff (raw : List String) (d : Denylist) :
    parse raw = .ok d ↔ raw.map Entry.parse = d.entries.map .ok := by
  rw [← Except.mapM_ok_iff, parse]
  cases raw.mapM Entry.parse with
  | error fault => exact iff_of_false (fun h => by cases h) (fun h => by cases h)
  | ok entries =>
    constructor
    · intro h
      cases h
      rfl
    · intro h
      cases h
      rfl

/-- The entries of a list are what its texts are read as. -/
theorem mem_entries_iff {raw : List String} {d : Denylist} (hparse : parse raw = .ok d)
    (e : Entry) : e ∈ d.entries ↔ ∃ text ∈ raw, Entry.parse text = .ok e := by
  have hmap := (parse_eq_ok_iff raw d).mp hparse
  have hmem : e ∈ d.entries ↔ Except.ok e ∈ raw.map Entry.parse := by
    rw [hmap]
    simp
  rw [hmem, List.mem_map]

/-- A list is accepted if each of its texts is. -/
theorem exists_parse_eq_ok_iff (raw : List String) :
    (∃ d, parse raw = .ok d) ↔ ∀ text ∈ raw, ∃ e, Entry.parse text = .ok e := by
  constructor
  · rintro ⟨d, hparse⟩ text htext
    have hmem : Entry.parse text ∈ d.entries.map .ok := by
      rw [← (parse_eq_ok_iff raw d).mp hparse]
      exact List.mem_map_of_mem htext
    obtain ⟨e, _, he⟩ := List.mem_map.mp hmem
    exact ⟨e, he.symm⟩
  · intro hall
    -- Each text gives some entry, so the list of what they give is the image of a list of entries.
    have hrange : raw.map Entry.parse ∈ Set.range (List.map Except.ok) := by
      rw [Set.range_list_map]
      intro result hresult
      obtain ⟨text, htext, rfl⟩ := List.mem_map.mp hresult
      obtain ⟨e, he⟩ := hall text htext
      exact ⟨e, he.symm⟩
    obtain ⟨entries, hentries⟩ := hrange
    exact ⟨⟨entries⟩, (parse_eq_ok_iff raw ⟨entries⟩).mpr hentries.symm⟩

/-- Nothing is left out of the standard list. -/
theorem parse_standardTexts : parse standardTexts = .ok standard := by decide +kernel

/-- What a list blocks, in terms of the texts that it was read from. -/
theorem blocks_iff {raw : List String} {d : Denylist} (hparse : parse raw = .ok d)
    (host path : String) : d.blocks host path = true ↔
      ∃ text ∈ raw, ∃ e, Entry.parse text = .ok e ∧
        labels e.host <:+ labels host ∧ (e.path = "/" ∨ e.path = path) := by
  rw [blocks, List.any_eq_true]
  constructor
  · rintro ⟨e, he, hblocks⟩
    obtain ⟨text, htext, hentry⟩ := (mem_entries_iff hparse e).mp he
    exact ⟨text, htext, e, hentry, (e.blocks_iff host path).mp hblocks⟩
  · rintro ⟨text, htext, e, hentry, hblocks⟩
    exact ⟨e, (mem_entries_iff hparse e).mpr ⟨text, htext, hentry⟩,
      (e.blocks_iff host path).mpr hblocks⟩

end Denylist

/-! ## Documents -/

theorem Document.hasHtmlType_iff (x : Document) :
    x.hasHtmlType = true ↔ x.doctypeName = none ∨ x.doctypeName = some "html" := by
  unfold hasHtmlType
  cases x.doctypeName with
  | none => simp
  | some name => simp

theorem Document.hasHtmlRoot_iff (x : Document) :
    x.hasHtmlRoot = true ↔ ∀ root, x.rootElement = some root → Text.lowerText root = "html" := by
  have hword (root : String) :
      Text.eqIgnoringCase root "html" = true ↔ Text.lowerText root = "html" := by
    have hhtml : "html".toList.map Text.lower = "html".toList := by decide
    rw [Text.eqIgnoringCase, beq_iff_eq, hhtml, ← String.toList_inj, Text.lowerText]
    simp only [String.toList_ofList]
  unfold hasHtmlRoot
  simp only [Option.all_eq_true, hword]

theorem namesFile_iff (path : String) :
    namesFile path = true ↔
      ".xml".toList <:+ (Text.lowerText path).toList ∨
        ".pdf".toList <:+ (Text.lowerText path).toList := by
  simp [namesFile, fileEndings, List.isSuffixOf_iff_suffix]

namespace Denylist

/-- A page that is admitted has a URL; of this, the host and the path decide. -/
theorem admits_eq_true_iff (d : Denylist) (x : Document) :
    d.admits x = true ↔ x.hasHtmlType = true ∧ x.hasHtmlRoot = true ∧
      ∃ u, Url.parse x.url = .ok u ∧ namesFile u.path = false ∧
        d.blocks (Text.lowerText (u.hostText?.getD "")) u.path = false := by
  unfold admits
  cases Url.parse x.url with
  | error reason => simp
  | ok u => simp [and_assoc]

/-- Lists that were read from the same texts give the same answers, whatever the order. -/
theorem admits_eq_of_texts {raw raw' : List String} {d d' : Denylist} (hparse : parse raw = .ok d)
    (hparse' : parse raw' = .ok d') (hmem : ∀ text, text ∈ raw' ↔ text ∈ raw) (x : Document) :
    d'.admits x = d.admits x := by
  have hblocks (host path : String) : d'.blocks host path = d.blocks host path := by
    rw [Bool.eq_iff_iff, blocks_iff hparse, blocks_iff hparse']
    simp only [hmem]
  unfold admits
  simp only [hblocks]

/-- Of a URL only the host and the path matter. -/
theorem admits_eq_of_url (d : Denylist) {x y : Document} (htype : y.doctypeName = x.doctypeName)
    (hroot : y.rootElement = x.rootElement) {u v : Url} (hu : Url.parse x.url = .ok u)
    (hv : Url.parse y.url = .ok v) (hhost : v.hostText? = u.hostText?) (hpath : v.path = u.path) :
    d.admits y = d.admits x := by
  unfold admits Document.hasHtmlType Document.hasHtmlRoot
  rw [htype, hroot, hu, hv]
  simp only [hhost, hpath]

/-- A list that was read from texts admits exactly the documents that have no type or that of HTML,
have no root or that of HTML in either case, and have a URL whose path does not end like that of a
file, in either case, and whose host and path no entry covers: the labels of the entry are not the
last labels of the host, or the path of the entry is neither the root nor that path. Neither the
order of the texts nor how often each is given matters, and of the URL nothing but the host and the
path. -/
theorem admits_iff {raw : List String} {d : Denylist} (hparse : parse raw = .ok d)
    (x : Document) :
    (d.admits x = true ↔
      (x.doctypeName = none ∨ x.doctypeName = some "html") ∧
      (∀ root, x.rootElement = some root → Text.lowerText root = "html") ∧
      ∃ u, Url.parse x.url = .ok u ∧
        (¬ ".xml".toList <:+ (Text.lowerText u.path).toList ∧
          ¬ ".pdf".toList <:+ (Text.lowerText u.path).toList) ∧
        ¬ ∃ text ∈ raw, ∃ e, Entry.parse text = .ok e ∧
          labels e.host <:+ labels (Text.lowerText (u.hostText?.getD "")) ∧
          (e.path = "/" ∨ e.path = u.path)) ∧
    (∀ raw', (∀ text, text ∈ raw' ↔ text ∈ raw) →
      ∃ d', parse raw' = .ok d' ∧ d'.admits x = d.admits x) ∧
    (∀ y u v, y.doctypeName = x.doctypeName → y.rootElement = x.rootElement →
      Url.parse x.url = .ok u → Url.parse y.url = .ok v → v.hostText? = u.hostText? →
      v.path = u.path → d.admits y = d.admits x) := by
  refine ⟨?_, fun raw' hmem => ?_, fun y u v htype hroot hu hv hhost hpath =>
    d.admits_eq_of_url htype hroot hu hv hhost hpath⟩
  -- Both the file and the denylist are decided as truth values; here they are said as what they
  -- decide.
  · have hfile (path : String) : namesFile path = false ↔
        ¬ ".xml".toList <:+ (Text.lowerText path).toList ∧
          ¬ ".pdf".toList <:+ (Text.lowerText path).toList := by
      rw [← Bool.not_eq_true, namesFile_iff, not_or]
    have hcovered (host path : String) : d.blocks host path = false ↔
        ¬ ∃ text ∈ raw, ∃ e, Entry.parse text = .ok e ∧
          labels e.host <:+ labels host ∧ (e.path = "/" ∨ e.path = path) := by
      rw [← Bool.not_eq_true, blocks_iff hparse]
    rw [admits_eq_true_iff, Document.hasHtmlType_iff, Document.hasHtmlRoot_iff]
    simp only [hfile, hcovered]
  · -- The other list has only texts that are accepted, so it is read as well.
    have haccepted : ∀ text ∈ raw', ∃ e, Entry.parse text = .ok e := by
      intro text htext
      exact (exists_parse_eq_ok_iff raw).mp ⟨d, hparse⟩ text ((hmem text).mp htext)
    obtain ⟨d', hparse'⟩ := (exists_parse_eq_ok_iff raw').mpr haccepted
    exact ⟨d', hparse', admits_eq_of_texts hparse hparse' hmem x⟩

/-- A host that only ends like the host of an entry has other labels. -/
theorem admits_not_dropbox :
    parse ["Dropbox.com"] = .ok ⟨[⟨"dropbox.com", "/"⟩]⟩ ∧
      admits ⟨[⟨"dropbox.com", "/"⟩]⟩ (.html "https://not-dropbox.com/") = true ∧
      admits ⟨[⟨"dropbox.com", "/"⟩]⟩ (.html "https://evil.dropbox.com/x") = false := by
  have hparse : parse ["Dropbox.com"] = .ok ⟨[⟨"dropbox.com", "/"⟩]⟩ := by decide +kernel
  have hentry : Entry.parse "Dropbox.com" = .ok ⟨"dropbox.com", "/"⟩ := by decide +kernel
  refine ⟨hparse, (admits_iff hparse _).1.mpr ?_, Bool.eq_false_iff.mpr fun hadmits => ?_⟩
  · refine ⟨.inr rfl, ?_, ⟨"https", some (.name "not-dropbox.com".toList), none, "/", false, false⟩,
      by decide +kernel, by decide +kernel, ?_⟩
    · intro root hroot
      cases hroot
      decide +kernel
    · rintro ⟨text, htext, e, he, hlabels, -⟩
      rw [List.mem_singleton.mp htext, hentry] at he
      cases he
      revert hlabels
      decide +kernel
  · obtain ⟨-, -, u, hu, -, hblocked⟩ := (admits_iff hparse _).1.mp hadmits
    have hurl : Url.parse "https://evil.dropbox.com/x" =
        .ok ⟨"https", some (.name "evil.dropbox.com".toList), none, "/x", false, false⟩ := by
      decide +kernel
    cases hurl.symm.trans hu
    exact hblocked ⟨_, List.mem_singleton_self _, _, hentry, by decide +kernel, .inl rfl⟩

end Denylist

end WalletGate.Page
