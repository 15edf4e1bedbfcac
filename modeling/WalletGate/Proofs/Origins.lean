import WalletGate.Url.Origin
import WalletGate.Port.Platform
import WalletGate.Proofs.Basic
/-!
# Origins of pages and of the extension

Origins belong to the schemes of the web alone. The pages of the extension have a scheme of their
own, so no text that names the extension has an origin, and no page is ever written as the
extension:

* `parse_eq_ok_iff`: a URL is read in two steps, the scheme first;
* `afterScheme_assembled`: all URLs are put together in the same way;
* `scheme_of_parse`: the scheme of a URL is the one that its text starts with;
* `originOf?_platform`: the extension's pages have no origin;
* `originOf?_ne_platform`: no origin is written as that of the extension.
-/

namespace WalletGate

namespace Url

/-! ## What URLs are read from -/

/-- The characters of a text that a URL is read from. -/
def readable (s : String) : List Char :=
  (Text.strip (·.toNat ≤ 0x20) s.toList).filter (· ∉ ['\t', '\n', '\r'])

/-- Reads what follows the colon of a scheme. -/
def afterScheme (scheme : String) (cs : List Char) : Except Error Url :=
  match Kind.ofScheme scheme with
  | .file => file cs
  | .special => withAuthority .special scheme (cs.dropWhile (Kind.isSlash .special))
  | .other =>
    match cs with
    | '/' :: '/' :: rest => withAuthority .other scheme rest
    | '/' :: rest =>
      let (draft, rest) := Path.read .other rest ⟨['/'], [], false⟩
      .ok (assemble scheme none none draft.done rest)
    | _ =>
      let path := cs.takeWhile fun c => c != '?' && c != '#'
      let rest := cs.dropWhile fun c => c != '?' && c != '#'
      .ok (assemble scheme none none (Text.escape Host.isUnseen path) rest)

/-- A URL is read in two steps, the scheme first. -/
theorem parse_eq_ok_iff {s : String} {url : Url} :
    parse s = .ok url ↔ ∃ scheme rest,
      splitScheme? (readable s) = some (scheme, rest) ∧ afterScheme scheme rest = .ok url := by
  constructor
  · intro h
    unfold parse at h
    dsimp only at h
    split at h
    · cases h
    · rename_i scheme rest hsplit
      exact ⟨scheme, rest, hsplit, h⟩
  · rintro ⟨scheme, rest, hsplit, h⟩
    unfold readable at hsplit
    unfold parse
    dsimp only
    rw [hsplit]
    exact h

/-! ## What all URLs are put together from -/

/-- The URL is put together from a scheme and further parts. -/
def Assembled (scheme : String) (url : Url) : Prop :=
  ∃ host port path rest, url = assemble scheme host port path rest

theorem Assembled.scheme_eq {scheme : String} {url : Url} (h : Assembled scheme url) :
    url.scheme = scheme := by
  obtain ⟨host, port, path, rest, rfl⟩ := h
  rfl

theorem withAuthority_assembled {kind : Kind} {scheme : String} {cs : List Char} {url : Url}
    (h : withAuthority kind scheme cs = .ok url) : Assembled scheme url := by
  unfold withAuthority at h
  obtain ⟨⟨given, rest⟩, _, h⟩ := Except.bind_ok_iff.1 h
  obtain ⟨⟨host, port, rest⟩, _, h⟩ := Except.bind_ok_iff.1 h
  dsimp only at h
  split at h
  · cases h
  · cases h
    exact ⟨_, _, _, _, rfl⟩

theorem file_assembled {cs : List Char} {url : Url} (h : file cs = .ok url) :
    Assembled "file" url := by
  have hpath (host : Option Host) (cs : List Char) : Assembled "file" (file.ofPath host cs) :=
    ⟨_, _, _, _, rfl⟩
  unfold file at h
  dsimp only at h
  -- The cases of the reader: with or without a host, and with a host that may be refused. Each
  -- success ends in the same record.
  split at h
  · split at h
    · split at h
      · cases h
        exact hpath _ _
      · obtain ⟨host, _, h⟩ := Except.bind_ok_iff.1 h
        cases h
        exact hpath _ _
    · cases h
      exact hpath _ _
  · cases h
    exact hpath _ _

theorem eq_file_of_kind {scheme : String} (h : Kind.ofScheme scheme = .file) : scheme = "file" := by
  unfold Kind.ofScheme at h
  split at h
  · assumption
  · split at h <;> exact absurd h (by decide)

theorem afterScheme_assembled {scheme : String} {cs : List Char} {url : Url}
    (h : afterScheme scheme cs = .ok url) : Assembled scheme url := by
  unfold afterScheme at h
  -- A file, a special scheme and any other each have a reader of their own.
  split at h
  · rename_i hkind
    rw [eq_file_of_kind hkind]
    exact file_assembled h
  · exact withAuthority_assembled h
  · split at h
    · exact withAuthority_assembled h
    · cases h
      exact ⟨_, _, _, _, rfl⟩
    · cases h
      exact ⟨_, _, _, _, rfl⟩

/-- The scheme of a URL is the one that its text starts with. -/
theorem scheme_of_parse {s : String} {url : Url} (h : parse s = .ok url) :
    ∃ rest, splitScheme? (readable s) = some (url.scheme, rest) := by
  obtain ⟨scheme, rest, hsplit, hafter⟩ := parse_eq_ok_iff.1 h
  refine ⟨rest, ?_⟩
  rw [hsplit, (afterScheme_assembled hafter).scheme_eq]

/-! ## Origins -/

theorem originWithin_scheme {depth : Nat} {url : Url} {o : Origin}
    (h : originWithin depth url = some o) : Kind.ofScheme o.scheme = .special := by
  induction depth generalizing url with
  | zero =>
    unfold originWithin at h
    grind
  | succ depth ih =>
    unfold originWithin at h
    split at h
    · obtain ⟨inner, _, hinner⟩ := Option.bind_eq_some_iff.1 h
      exact ih hinner
    · grind

theorem origin?_eq_none {url : Url} (hblob : url.scheme ≠ "blob")
    (hkind : Kind.ofScheme url.scheme ≠ .special) : origin? url = none := by
  unfold origin? originWithin
  rw [if_neg hblob, if_neg hkind]

theorem readable_scheme (p : Platform) (rest : String) :
    ∃ rest', readable (p.scheme ++ "://" ++ rest) = p.scheme.toList ++ ':' :: rest' := by
  -- Neither the stripping nor the filter touches the front, for it has no blank and no control
  -- character.
  have hvisible : ∀ c ∈ (p.scheme ++ "://").toList, (decide (c.toNat ≤ 0x20)) = false := by
    cases p <;> simp [Platform.scheme]
  have hsome : (p.scheme ++ "://").toList ≠ [] := by
    rw [String.toList_append]
    simp
  obtain ⟨rest', hstrip⟩ := Text.strip_append hsome hvisible rest.toList
  have hkeep : (p.scheme ++ "://").toList.filter (· ∉ ['\t', '\n', '\r'])
      = p.scheme.toList ++ [':', '/', '/'] := by
    cases p <;> decide
  refine ⟨'/' :: '/' :: rest'.filter (· ∉ ['\t', '\n', '\r']), ?_⟩
  unfold readable
  rw [String.toList_append, hstrip, List.filter_append, hkeep]
  simp

theorem splitScheme?_platform (p : Platform) (rest : List Char) :
    splitScheme? (p.scheme.toList ++ ':' :: rest) = some (p.scheme, rest) := by
  cases p <;> rfl

theorem originOf?_platform (p : Platform) (id : String) :
    originOf? (p.scheme ++ "://" ++ id) = none := by
  unfold originOf?
  -- Suppose it parsed: then its scheme is the platform's, and that one has no origin.
  cases hparse : parse (p.scheme ++ "://" ++ id) with
  | error e => rfl
  | ok url =>
    obtain ⟨rest, hsplit⟩ := scheme_of_parse hparse
    obtain ⟨rest', hread⟩ := readable_scheme p id
    rw [hread, splitScheme?_platform] at hsplit
    have hscheme : url.scheme = p.scheme := by
      simp only [Option.some.injEq, Prod.mk.injEq] at hsplit
      exact hsplit.1.symm
    have hnone : origin? url = none :=
      origin?_eq_none (by rw [hscheme]; cases p <;> decide) (by rw [hscheme]; cases p <;> decide)
    simp [Except.toOption, hnone]

theorem mem_of_kind_special {scheme : String} (h : Kind.ofScheme scheme = .special) :
    scheme ∈ ["http", "https", "ws", "wss", "ftp"] := by
  unfold Kind.ofScheme at h
  split at h
  · exact absurd h (by decide)
  · split at h
    · assumption
    · exact absurd h (by decide)

theorem Origin.toList_text (o : Origin) :
    ∃ rest, o.text.toList = o.scheme.toList ++ ':' :: rest := by
  unfold Origin.text
  simp only
  split
  · exact ⟨'/' :: '/' :: o.host.text.toList, by simp⟩
  · exact ⟨'/' :: '/' :: (o.host.text.toList ++ ':' :: (Text.decimal o.port).toList), by simp⟩

theorem originOf?_ne_platform {s o : String} (h : originOf? s = some o) (p : Platform)
    (id : String) : o ≠ p.scheme ++ "://" ++ id := by
  obtain ⟨origin, horigin, rfl⟩ := Option.map_eq_some_iff.1 h
  obtain ⟨url, _, hurl⟩ := Option.bind_eq_some_iff.1 horigin
  have hweb := mem_of_kind_special (originWithin_scheme hurl)
  obtain ⟨rest, htext⟩ := origin.toList_text
  intro heq
  have hlist : origin.scheme.toList ++ ':' :: rest =
      p.scheme.toList ++ ':' :: ("//" ++ id).toList := by
    rw [← htext, heq]
    simp
  -- Both texts are split at the first colon, and what is in front of it is a web scheme in the one
  -- and an extension's in the other.
  have hsplit := congrArg splitScheme? hlist
  have hscheme : splitScheme? (origin.scheme.toList ++ ':' :: rest) =
      some (origin.scheme, rest) := by
    generalize origin.scheme = scheme at hweb
    simp only [List.mem_cons, List.not_mem_nil, or_false] at hweb
    rcases hweb with rfl | rfl | rfl | rfl | rfl <;> rfl
  rw [hscheme, splitScheme?_platform] at hsplit
  simp only [Option.some.injEq, Prod.mk.injEq] at hsplit
  rw [hsplit.1] at hweb
  revert hweb
  cases p <;> decide

end Url

end WalletGate
