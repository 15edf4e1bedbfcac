import WalletGate.Proofs.Reading
import WalletGate.Session.Directory
/-!
# Session files as a map

The store in files is used as a map from keys to values: set a key, get a key, open the store anew.
Every key has a file and a temporary file of its own, in one directory, and no two of these names
are the same.

* `mapReplies`: what a map answers to uses, given the longest key that a file can be named after;
* `setFile_cases`: all that storing a value can do to a directory;
* `getFile_setFile_of_ne`: storing under one key does not show under another, in whatever place;
* `Holds`: a directory holds the map that some uses have made; `Holds.setFile`, `Holds.getFile`:
  what is stored in it and what is looked up, under any key; `Holds.use`, `Holds.uses_from`: one
  use, and then any uses, are answered as by the map and leave a directory that holds it;
* `files_hold_map`: the whole of it, from an empty directory on;
* `set_longKey`: why keys have a longest length.
-/

namespace WalletGate.Session

variable {σ : Type}

/-! ## Uses of a store -/

/-- A use of a store. -/
inductive Use where
  | set (key : String) (value : Json)
  | get (key : String)
  /-- The store is opened anew on what is there. -/
  | reopen

/-- What a use is answered by. -/
inductive Reply where
  | set (r : Except Fault Unit)
  | get (r : Except Fault (Option Json))
  | reopened

namespace Store

/-- Uses a store once; `opened` opens it anew. -/
def use (store : Store σ) (opened : σ → σ) (s : σ) : Use → Reply × σ
  | .set key value => (.set (store.set key value s).1, (store.set key value s).2)
  | .get key => (.get (store.get key s), s)
  | .reopen => (.reopened, opened s)

/-- Uses a store time after time and collects what it answers. -/
def uses (store : Store σ) (opened : σ → σ) (s : σ) : List Use → List Reply × σ
  | [] => ([], s)
  | u :: rest =>
    let (reply, s) := store.use opened s u
    let (replies, s) := store.uses opened s rest
    (reply :: replies, s)

end Store

/-! ## The map -/

/-- The value that a use sets a key to. -/
def Use.valueOf? (key : String) : Use → Option Json
  | .set key' value => if key' = key then some value else none
  | _ => none

/-- The value that a key was last set to. -/
def lastSet? (key : String) (uses : List Use) : Option Json :=
  (uses.filterMap (Use.valueOf? key)).getLast?

/-- The longest key whose file has a name that files can have, in bytes. -/
def maxKeySize : Nat := 250

/-- What is answered under a key: a key that names no files is refused, and one that is too long for
the name of a file cannot be stored under. -/
def underKey {α : Type} (key : String) (answer : α) : Except Fault α :=
  if isKey key then
    if key.utf8ByteSize ≤ maxKeySize then .ok answer else .error .storage
  else .error (.invalidKey key)

/-- What a map from keys to values answers after some uses. -/
def mapReply (before : List Use) : Use → Reply
  | .set key _ => .set (underKey key ())
  | .get key => .get (underKey key (lastSet? key before))
  | .reopen => .reopened

/-- What a map answers to one use after the other. -/
def mapReplies (before : List Use) : List Use → List Reply
  | [] => []
  | u :: rest => mapReply before u :: mapReplies (before ++ [u]) rest

theorem lastSet?_concat (key : String) (uses : List Use) (u : Use) :
    lastSet? key (uses ++ [u]) = (u.valueOf? key).or (lastSet? key uses) := by
  unfold lastSet?
  rw [List.filterMap_append]
  cases hvalue : u.valueOf? key with
  | none => simp [hvalue]
  | some v => simp [hvalue]

theorem lastSet?_concat_set (key key' : String) (value : Json) (uses : List Use) :
    lastSet? key (uses ++ [.set key' value]) =
      if key = key' then some value else lastSet? key uses := by
  rw [lastSet?_concat, Use.valueOf?]
  by_cases h : key = key'
  · rw [if_pos h.symm, if_pos h, Option.some_or]
  · rw [if_neg (Ne.symm h), if_neg h, Option.none_or]

theorem Use.valueOf?_eq_some_iff {key : String} {u : Use} {value : Json} :
    u.valueOf? key = some value ↔ u = .set key value := by
  cases u with
  | set key' value' =>
    simp only [valueOf?, Use.set.injEq]
    split
    · rename_i hkey
      simp [hkey]
    · rename_i hkey
      simp [hkey]
  | get key' => simp [valueOf?]
  | reopen => simp [valueOf?]

/-- What a key holds was set under it. -/
theorem mem_of_lastSet? {key : String} {value : Json} {uses : List Use}
    (h : lastSet? key uses = some value) : .set key value ∈ uses := by
  obtain ⟨u, hmem, hvalue⟩ := List.mem_filterMap.1 (List.mem_of_getLast? h)
  rw [← Use.valueOf?_eq_some_iff.1 hvalue]
  exact hmem

/-- A key holds a value if one was ever set. -/
theorem lastSet?_isSome_iff {key : String} {uses : List Use} :
    (lastSet? key uses).isSome = true ↔ ∃ value, .set key value ∈ uses := by
  constructor
  · intro h
    obtain ⟨value, hvalue⟩ := Option.isSome_iff_exists.1 h
    exact ⟨value, mem_of_lastSet? hvalue⟩
  · rintro ⟨value, hmem⟩
    have hset : value ∈ uses.filterMap (Use.valueOf? key) :=
      List.mem_filterMap.2 ⟨_, hmem, Use.valueOf?_eq_some_iff.2 rfl⟩
    exact List.getLast?_isSome.2 (List.ne_nil_of_mem hset)

/-! ## Names of files -/

/-- The first character of a key is none that the directory or its parent is named by. -/
theorem exists_cons_of_isKey {key : String} (hkey : isKey key = true) :
    ∃ c cs, key.toList = c :: cs ∧ c ≠ '.' := by
  unfold isKey at hkey
  obtain ⟨hne, hall⟩ := Bool.and_eq_true_iff.1 hkey
  cases hlist : key.toList with
  -- A key is never empty, so it has a first character, and a dot may not stand in a key at all.
  | nil =>
    have hempty : key = "" := by
      rw [← String.toList_inj]
      exact hlist
    simp [hempty] at hne
  | cons c cs =>
    refine ⟨c, cs, rfl, ?_⟩
    rintro rfl
    have hdot : ¬(Text.isAlphanumeric '.' || '.' == '-' || '.' == '_') = true := by decide
    rw [hlist] at hall
    exact hdot (List.all_eq_true.1 hall '.' List.mem_cons_self)

/-- A character of a key may stand in the name of a file. -/
theorem mayStand_of_isKey {key : String} (hkey : isKey key = true) {c : Char}
    (hc : c ∈ key.toList) : (c != '/' && c.toNat != 0) = true := by
  unfold isKey at hkey
  have hallowed := List.all_eq_true.1 (Bool.and_eq_true_iff.1 hkey).2 c hc
  by_cases hslash : c = '/'
  · rw [hslash] at hallowed
    exact absurd hallowed (by decide)
  · by_cases hzero : c.toNat = 0
    · have hnul : c = Char.ofNat 0 := by
        rw [← hzero, Char.ofNat_toNat]
      rw [hnul] at hallowed
      exact absurd hallowed (by decide)
    · simp [hslash, hzero]

/-- A key with an extension names a file unless it is too long. -/
theorem isName_append {key : String} (hkey : isKey key = true) {extension : String}
    (hextension : extension.toList.all (fun c => c != '/' && c.toNat != 0) = true) :
    Place.isName (key ++ extension) = decide ((key ++ extension).utf8ByteSize ≤ 255) := by
  obtain ⟨c, cs, hlist, hdot⟩ := exists_cons_of_isKey hkey
  -- The two names that a directory has of its own are the empty one and those of dots; a key begins
  -- with neither.
  have hother {s : String} (hs : s.toList.head? = none ∨ s.toList.head? = some '.') :
      key ++ extension ≠ s := by
    rintro rfl
    rw [String.toList_append, hlist] at hs
    simp [hdot] at hs
  have hall : (key ++ extension).toList.all (fun c => c != '/' && c.toNat != 0) = true := by
    rw [String.toList_append, List.all_append, hextension, Bool.and_true, List.all_eq_true]
    intro c hc
    exact mayStand_of_isKey hkey hc
  unfold Place.isName
  rw [hall]
  simp [hother (s := "") (.inl rfl), hother (s := ".") (.inr rfl), hother (s := "..") (.inr rfl)]

theorem isName_fileName {key : String} (hkey : isKey key = true) :
    Place.isName (fileName key) = decide (key.utf8ByteSize ≤ maxKeySize) := by
  unfold fileName
  rw [isName_append hkey (by decide)]
  have hsize : (key ++ ".json").utf8ByteSize = key.utf8ByteSize + 5 := String.utf8ByteSize_append
  rw [hsize, decide_eq_decide]
  unfold maxKeySize
  omega

theorem isName_temporaryName {key : String} (hkey : isKey key = true)
    (hsize : key.utf8ByteSize ≤ maxKeySize) : Place.isName (temporaryName key) = true := by
  unfold temporaryName
  rw [isName_append hkey (by decide)]
  have happend : (key ++ ".tmp").utf8ByteSize = key.utf8ByteSize + 4 := String.utf8ByteSize_append
  rw [happend, decide_eq_true_eq]
  unfold maxKeySize at hsize
  omega

theorem fileName_inj {key key' : String} : fileName key = fileName key' ↔ key = key' := by
  unfold fileName
  rw [← String.toList_inj, String.toList_append, String.toList_append, List.append_cancel_right_eq,
    String.toList_inj]

theorem temporaryName_inj {key key' : String} :
    temporaryName key = temporaryName key' ↔ key = key' := by
  unfold temporaryName
  rw [← String.toList_inj, String.toList_append, String.toList_append, List.append_cancel_right_eq,
    String.toList_inj]

/-- No file of a key is the temporary file of any key: their names end differently. -/
theorem fileName_ne_temporaryName (key key' : String) : fileName key ≠ temporaryName key' := by
  intro h
  have hlast := congrArg (fun s => s.toList.getLast?) h
  simp [fileName, temporaryName] at hlast

/-! ## One operation on the directory -/

/-- The directory after a value has been written to the temporary file of a key and moved. -/
def putFile (nodes : Dict Node) (key : String) (value : Json) : Dict Node :=
  ((nodes.put (temporaryName key) (.file value.written)).remove (temporaryName key)).put
    (fileName key) (.file value.written)

theorem find?_putFile (nodes : Dict Node) (key : String) (value : Json) (name : String) :
    (putFile nodes key value).find? name =
      if name = fileName key then some (.file value.written)
      else if name = temporaryName key then none else nodes.find? name := by
  unfold putFile
  rw [Dict.find?_put, Dict.find?_remove, Dict.find?_put]
  by_cases hfile : name = fileName key
  · rw [if_pos hfile, if_pos hfile]
  · rw [if_neg hfile, if_neg hfile]
    by_cases htemporary : name = temporaryName key
    · rw [if_pos htemporary, if_pos htemporary]
    · rw [if_neg htemporary, if_neg htemporary, if_neg htemporary]

theorem setFile_of_not_isKey {key : String} (hkey : isKey key = false) (value : Json)
    (place : Place) : setFile key value place = (.error (.invalidKey key), place) := by
  simp [setFile, hkey]

theorem getFile_of_not_isKey {key : String} (hkey : isKey key = false) (place : Place) :
    getFile key place = .error (.invalidKey key) := by
  simp [getFile, hkey]

section Directory

variable {nodes : Dict Node} {key : String}

/-- In a directory that holds nothing but files, a value is stored under a key that fits. -/
theorem setFile_of_fits (hfiles : ∀ name, nodes.find? name ≠ some .directory)
    (hkey : isKey key = true) (hsize : key.utf8ByteSize ≤ maxKeySize) (value : Json) :
    setFile key value (.directory nodes) = (.ok (), .directory (putFile nodes key value)) := by
  have hwrite : (Place.directory nodes).write? (temporaryName key) value.written =
      some (.directory (nodes.put (temporaryName key) (.file value.written))) := by
    simp [Place.write?, isName_temporaryName hkey hsize, hfiles]
  have hrename : (Place.directory (nodes.put (temporaryName key) (.file value.written))).rename?
      (temporaryName key) (fileName key) = some (.directory (putFile nodes key value)) := by
    simp [Place.rename?, isName_fileName hkey, hsize, hfiles, fileName_ne_temporaryName, putFile]
  unfold setFile
  rw [if_pos hkey, hwrite]
  simp only [hrename]

/-- A value is stored, or nothing is, or nothing but the temporary file of the key. -/
theorem setFile_cases (key : String) (value : Json) (place : Place) :
    (∃ fault, setFile key value place = (.error fault, place)) ∨
      ∃ nodes, place = .directory nodes ∧ isKey key = true ∧
        (setFile key value place =
            (.error .storage, .directory (nodes.put (temporaryName key) (.file value.written))) ∨
          (Place.isName (fileName key) = true ∧
            setFile key value place = (.ok (), .directory (putFile nodes key value)))) := by
  -- Writing fails outright unless the key may be used, the place is a directory and the temporary
  -- file can be written; what is left is whether the file can be moved.
  cases hkey : isKey key with
  | false => exact .inl ⟨_, setFile_of_not_isKey hkey value place⟩
  | true =>
    cases place with
    | absent => exact .inl ⟨.storage, by simp [setFile, hkey, Place.write?]⟩
    | file text => exact .inl ⟨.storage, by simp [setFile, hkey, Place.write?]⟩
    | directory nodes =>
      by_cases hwrite : (Place.isName (temporaryName key) &&
          decide (nodes.find? (temporaryName key) ≠ some .directory)) = true
      · refine .inr ⟨nodes, rfl, rfl, ?_⟩
        by_cases hmove : (Place.isName (fileName key) &&
            decide (nodes.find? (fileName key) ≠ some .directory)) = true
        · refine .inr ⟨(Bool.and_eq_true_iff.1 hmove).1, ?_⟩
          simp only [setFile, hkey, if_true, Place.write?, hwrite, Place.rename?, Dict.find?_put,
            fileName_ne_temporaryName, if_false, hmove, putFile]
        · refine .inl ?_
          simp only [setFile, hkey, if_true, Place.write?, hwrite, Place.rename?, Dict.find?_put,
            fileName_ne_temporaryName, if_false, hmove, Bool.false_eq_true]
      · exact .inl ⟨.storage, by
          simp only [setFile, hkey, if_true, Place.write?, hwrite, if_false, Bool.false_eq_true]⟩

/-- Under a key that is too long nothing is stored; at most its temporary file is written. -/
theorem setFile_of_long (nodes : Dict Node) (hkey : isKey key = true)
    (hsize : maxKeySize < key.utf8ByteSize) (value : Json) :
    setFile key value (.directory nodes) = (.error .storage, .directory nodes) ∨
      setFile key value (.directory nodes) =
        (.error .storage, .directory (nodes.put (temporaryName key) (.file value.written))) := by
  -- The temporary name may still fit when the name proper does not, and then the temporary file
  -- stays.
  have hlong : Place.isName (fileName key) = false := by
    rw [isName_fileName hkey, decide_eq_false_iff_not]
    omega
  have hfault : ∀ fault, setFile key value (.directory nodes) = (.error fault, .directory nodes) →
      fault = .storage := by
    intro fault hset
    unfold setFile at hset
    rw [if_pos hkey] at hset
    split at hset
    · exact (Except.error.inj (congrArg Prod.fst hset)).symm
    · split at hset
      · exact (Except.error.inj (congrArg Prod.fst hset)).symm
      · cases congrArg Prod.fst hset
  rcases setFile_cases key value (.directory nodes) with ⟨fault, hset⟩ | ⟨nodes', hplace, _, hset⟩
  -- It failed, and there is but one fault for it.
  · exact .inl (hfault fault hset ▸ hset)
  · obtain rfl := Place.directory.inj hplace
    rcases hset with hset | ⟨hname, _⟩
    · exact .inr hset
    · rw [hlong] at hname
      cases hname

theorem getFile_directory (hkey : isKey key = true) (hsize : key.utf8ByteSize ≤ maxKeySize) :
    getFile key (.directory nodes) =
      match nodes.find? (fileName key) with
      | none => .ok none
      | some .directory => .error .storage
      | some (.file text) =>
        match Json.parse? text with
        | some value => .ok (some value)
        | none => .error .content := by
  have hname : Place.isName (fileName key) = true := by
    rw [isName_fileName hkey, decide_eq_true hsize]
  unfold getFile
  simp only [hkey, if_true, Place.read, hname]
  -- What is found under the name decides: nothing, a directory, or a file that is read.
  cases nodes.find? (fileName key) with
  | none => rfl
  | some node =>
    cases node with
    | file text => rfl
    | directory => rfl

theorem getFile_of_long (hkey : isKey key = true) (hsize : maxKeySize < key.utf8ByteSize) :
    getFile key (.directory nodes) = .error .storage := by
  have hlong : Place.isName (fileName key) = false := by
    rw [isName_fileName hkey, decide_eq_false_iff_not]
    omega
  unfold getFile
  simp only [hkey, if_true, Place.read, hlong, if_false, Bool.false_eq_true]

/-- What is found under a key depends on the file of the key alone. -/
theorem getFile_congr {nodes' : Dict Node}
    (hsame : nodes.find? (fileName key) = nodes'.find? (fileName key)) :
    getFile key (.directory nodes) = getFile key (.directory nodes') := by
  unfold getFile Place.read
  simp only [hsame]

/-- Under one key nothing is found but what was stored under it. -/
theorem getFile_setFile_of_ne {key' : String} (hne : key ≠ key') (value : Json) (place : Place) :
    getFile key (setFile key' value place).2 = getFile key place := by
  rcases setFile_cases key' value place with ⟨fault, hset⟩ | ⟨nodes, rfl, _, hset | ⟨_, hset⟩⟩
  · rw [hset]
  · rw [hset]
    apply getFile_congr
    rw [Dict.find?_put, if_neg (fileName_ne_temporaryName key key')]
  · rw [hset]
    apply getFile_congr
    rw [find?_putFile, if_neg (mt fileName_inj.1 hne),
      if_neg (fileName_ne_temporaryName key key')]

end Directory

/-! ## Directories that hold a map -/

/-- A key that names a file and is not too long for it. -/
structure Fits (key : String) : Prop where
  isKey : isKey key = true
  size : key.utf8ByteSize ≤ maxKeySize

/-- A key of which only the length is not right. -/
structure IsLong (key : String) : Prop where
  isKey : Session.isKey key = true
  size : maxKeySize < key.utf8ByteSize

/-- The directory holds the values that were set. -/
structure Holds (uses : List Use) (nodes : Dict Node) : Prop where
  value : ∀ key, Fits key →
    nodes.find? (fileName key) = (lastSet? key uses).map fun value => .file value.written
  /-- Nothing else is there, unless it is the temporary file of a key that is too long. -/
  other : ∀ name, (∀ key, Fits key → name ≠ fileName key) →
    (∀ key, IsLong key → name ≠ temporaryName key) → nodes.find? name = none
  noDirectory : ∀ name, nodes.find? name ≠ some .directory

/-- Every value that was set is read back as it was written. -/
def Readable (uses : List Use) : Prop :=
  ∀ key value, .set key value ∈ uses → Json.parse? value.written = some value

namespace Holds

variable {uses : List Use} {nodes : Dict Node}

theorem empty : Holds [] ∅ := ⟨fun _ _ => rfl, fun _ _ _ => rfl, fun _ => by simp⟩

/-- A use that sets no key that fits leaves the values as they are. -/
theorem silent (h : Holds uses nodes) {u : Use} (hu : ∀ key, Fits key → u.valueOf? key = none) :
    Holds (uses ++ [u]) nodes := by
  refine ⟨fun key hkey => ?_, h.other, h.noDirectory⟩
  rw [lastSet?_concat, hu key hkey, Option.none_or]
  exact h.value key hkey

theorem putFile (h : Holds uses nodes) {key : String} (hkey : Fits key) (value : Json) :
    Holds (uses ++ [.set key value]) (Session.putFile nodes key value) := by
  constructor
  -- The three clauses of the invariant: the files of keys, that there is nothing besides, and that
  -- nothing is a directory.
  · intro key' hkey'
    rw [find?_putFile, lastSet?_concat_set]
    by_cases hsame : key' = key
    · rw [if_pos (by rw [hsame]), if_pos hsame]
      rfl
    · rw [if_neg (mt fileName_inj.1 hsame), if_neg (fileName_ne_temporaryName key' key),
        if_neg hsame]
      exact h.value key' hkey'
  · intro name hfile htemporary
    rw [find?_putFile, if_neg (hfile key hkey)]
    split
    · rfl
    · exact h.other name hfile htemporary
  · intro name
    rw [find?_putFile]
    split
    · simp
    · split
      · simp
      · exact h.noDirectory name

/-- The temporary file of a key that is too long stands in the way of no value. -/
theorem putTemporary (h : Holds uses nodes) {key : String} (hkey : IsLong key) (text : String) :
    Holds uses (nodes.put (temporaryName key) (.file text)) := by
  constructor
  · intro key' hkey'
    rw [Dict.find?_put, if_neg (fileName_ne_temporaryName key' key)]
    exact h.value key' hkey'
  · intro name hfile htemporary
    rw [Dict.find?_put, if_neg (htemporary key hkey)]
    exact h.other name hfile htemporary
  · intro name
    rw [Dict.find?_put]
    split
    · simp
    · exact h.noDirectory name

/-- A key that fits holds the value that it was last set to. -/
theorem getFile_of_fits (h : Holds uses nodes) (hread : Readable uses) {key : String}
    (hkey : Fits key) : Session.getFile key (.directory nodes) = .ok (lastSet? key uses) := by
  rw [getFile_directory hkey.isKey hkey.size, h.value key hkey]
  cases hlast : lastSet? key uses with
  | none => rfl
  | some value =>
    simp only [Option.map_some, hread key value (mem_of_lastSet? hlast)]

theorem contains_iff (h : Holds uses nodes) {name : String}
    (hname : ∀ key, IsLong key → name ≠ temporaryName key) :
    nodes.contains name = true ↔
      ∃ key, Fits key ∧ name = fileName key ∧ ∃ value, .set key value ∈ uses := by
  unfold Dict.contains
  constructor
  · intro hfound
    -- A name that is no key's file is neither in the directory nor asked for.
    by_cases hfile : ∃ key, Fits key ∧ name = fileName key
    · obtain ⟨key, hkey, rfl⟩ := hfile
      rw [h.value key hkey, Option.isSome_map, lastSet?_isSome_iff] at hfound
      exact ⟨key, hkey, rfl, hfound⟩
    · have hnone : nodes.find? name = none :=
        h.other name (fun key hkey heq => hfile ⟨key, hkey, heq⟩) hname
      rw [hnone] at hfound
      cases hfound
  · rintro ⟨key, hkey, rfl, hset⟩
    rw [h.value key hkey, Option.isSome_map, lastSet?_isSome_iff]
    exact hset

/-- Storing a value under any key is answered as by the map and leaves a directory that holds it. -/
theorem setFile (h : Holds uses nodes) (key : String) (value : Json) :
    ∃ nodes', Session.setFile key value (.directory nodes) =
        (underKey key (), .directory nodes') ∧ Holds (uses ++ [.set key value]) nodes' := by
  -- A set that is refused leaves every key that can be used with the value it had.
  have hsilent (hkey : ¬Fits key) : Holds (uses ++ [.set key value]) nodes := by
    refine h.silent fun key' hfits => if_neg ?_
    rintro rfl
    exact hkey hfits
  unfold underKey
  by_cases hkey : isKey key = true
  · rw [if_pos hkey]
    by_cases hsize : key.utf8ByteSize ≤ maxKeySize
    · rw [if_pos hsize]
      exact ⟨_, setFile_of_fits h.noDirectory hkey hsize value, h.putFile ⟨hkey, hsize⟩ value⟩
    · -- Nothing is stored, whether or not the temporary file could be written.
      have hlong : IsLong key := ⟨hkey, Nat.lt_of_not_le hsize⟩
      have hholds := hsilent fun hfits => hsize hfits.size
      rw [if_neg hsize]
      rcases setFile_of_long nodes hkey hlong.size value with hset | hset
      · exact ⟨nodes, hset, hholds⟩
      · exact ⟨_, hset, hholds.putTemporary hlong _⟩
  · rw [if_neg hkey]
    exact ⟨nodes, setFile_of_not_isKey (Bool.eq_false_iff.2 hkey) value _,
      hsilent fun hfits => hkey hfits.isKey⟩

/-- Looking up any key is answered as by the map. -/
theorem getFile (h : Holds uses nodes) (hread : Readable uses) (key : String) :
    Session.getFile key (.directory nodes) = underKey key (lastSet? key uses) := by
  unfold underKey
  by_cases hkey : isKey key = true
  · rw [if_pos hkey]
    by_cases hsize : key.utf8ByteSize ≤ maxKeySize
    · rw [if_pos hsize]
      exact h.getFile_of_fits hread ⟨hkey, hsize⟩
    · rw [if_neg hsize]
      exact getFile_of_long hkey (Nat.lt_of_not_le hsize)
  · rw [if_neg hkey]
    exact getFile_of_not_isKey (Bool.eq_false_iff.2 hkey) _

/-- A use of the directory is answered as by a map, and the directory holds the map after it. -/
theorem use (h : Holds uses nodes) (hread : Readable uses) (u : Use) :
    ∃ nodes', files.use Place.opened (.directory nodes) u = (mapReply uses u, .directory nodes') ∧
      Holds (uses ++ [u]) nodes' := by
  cases u with
  | set key value =>
    obtain ⟨nodes', hset, hholds⟩ := h.setFile key value
    exact ⟨nodes', by simp only [Store.use, files, hset, mapReply], hholds⟩
  | get key =>
    refine ⟨nodes, ?_, h.silent fun _ _ => rfl⟩
    simp only [Store.use, files, mapReply, h.getFile hread key]
  | reopen => exact ⟨nodes, rfl, h.silent fun _ _ => rfl⟩

/-- So are any uses, one after the other. -/
theorem uses_from {before : List Use} (h : Holds before nodes) (later : List Use)
    (hread : Readable (before ++ later)) :
    ∃ nodes', files.uses Place.opened (.directory nodes) later =
        (mapReplies before later, .directory nodes') ∧ Holds (before ++ later) nodes' := by
  -- Induction on the uses to come, for any uses before them.
  induction later generalizing before nodes with
  | nil => exact ⟨nodes, rfl, by rw [List.append_nil]; exact h⟩
  | cons u rest ih =>
    have hbefore : Readable before := fun key value hmem =>
      hread key value (List.mem_append_left _ hmem)
    obtain ⟨nodes₁, hfirst, hholds⟩ := h.use hbefore u
    have hsplit : before ++ u :: rest = (before ++ [u]) ++ rest := by simp
    rw [hsplit] at hread ⊢
    obtain ⟨nodes₂, hrest, hend⟩ := ih hholds hread
    refine ⟨nodes₂, ?_, hend⟩
    simp only [Store.uses, hfirst, hrest, mapReplies]

end Holds

/-! ## The store in memory -/

/-- Used under keys that fit and never opened anew, the store in memory answers as a map. -/
theorem memory_uses_from {before later : List Use} {d : Dict Json} (opened : Dict Json → Dict Json)
    (hd : ∀ key, Fits key → d.find? key = lastSet? key before)
    (hlater : ∀ u ∈ later, ∃ key, Fits key ∧ (u = .get key ∨ ∃ value, u = .set key value)) :
    (memory.uses opened d later).1 = mapReplies before later := by
  -- As for files, the induction is on the uses to come; here the map itself is what is kept.
  induction later generalizing before d with
  | nil => rfl
  | cons u rest ih =>
    obtain ⟨key, hkey, huse⟩ := hlater u List.mem_cons_self
    have hunder {α : Type} (answer : α) : underKey key answer = .ok answer := by
      simp [underKey, hkey.isKey, hkey.size]
    have hrest := fun u hu => hlater u (List.mem_cons_of_mem _ hu)
    rcases huse with rfl | ⟨value, rfl⟩
    · have hafter : ∀ key', Fits key' → d.find? key' = lastSet? key' (before ++ [.get key]) := by
        intro key' hkey'
        rw [lastSet?_concat]
        exact hd key' hkey'
      simp only [Store.uses, Store.use, memory, mapReplies, mapReply, hunder, hd key hkey]
      exact congrArg _ (ih hafter hrest)
    · have hafter : ∀ key', Fits key' →
          (d.put key value).find? key' = lastSet? key' (before ++ [.set key value]) := by
        intro key' hkey'
        rw [Dict.find?_put, lastSet?_concat_set, hd key' hkey']
      simp only [Store.uses, Store.use, memory, mapReplies, mapReply, hunder]
      exact congrArg _ (ih hafter hrest)

/-! ## The rule as a whole -/

theorem Holds.find?_temporaryName {uses : List Use} {nodes : Dict Node} (h : Holds uses nodes)
    {key : String} (hkey : Fits key) : nodes.find? (temporaryName key) = none := by
  refine h.other _ (fun key' _ => (fileName_ne_temporaryName key' key).symm)
    fun key' hlong heq => ?_
  rw [temporaryName_inj.1 heq] at hkey
  exact absurd hkey.size (Nat.not_le_of_lt hlong.size)

/-- Session files are a map from keys to values that outlives the store. From an empty directory
on, each use is answered as by a map, in whatever order keys are set and looked up, and however
often the store is opened anew: a key that is empty or has another character than letters, digits,
hyphens and underscores is refused, under any other key of at most 250 bytes the last value is
found, and under a longer one nothing can be stored. The directory then holds one file for each key
that has a value and no temporary file of such a key. A key that is refused changes nothing, in
whatever place, and no key is affected by what is stored under another. The store in memory answers
such uses in the same way, as long as it is not opened anew. -/
theorem files_hold_map (uses : List Use)
    (hplain : ∀ key value, .set key value ∈ uses → Json.Plain Json.maxDepth value) :
    let run := files.uses Place.opened (.directory ∅) uses
    run.1 = mapReplies [] uses ∧
    (∃ nodes, run.2 = .directory nodes ∧
      (∀ name, (∀ key, IsLong key → name ≠ temporaryName key) →
        (nodes.contains name = true ↔
          ∃ key, Fits key ∧ name = fileName key ∧ ∃ value, .set key value ∈ uses)) ∧
      (∀ key, Fits key → nodes.find? (temporaryName key) = none) ∧
      (∀ name, nodes.find? name ≠ some .directory)) ∧
    (∀ key value place, isKey key = false →
      files.set key value place = (.error (.invalidKey key), place) ∧
        files.get key place = .error (.invalidKey key)) ∧
    (∀ key key' value place, key ≠ key' →
      files.get key (files.set key' value place).2 = files.get key place) ∧
    ((∀ u ∈ uses, ∃ key, Fits key ∧ (u = .get key ∨ ∃ value, u = .set key value)) →
      (memory.uses (fun _ => ∅) ∅ uses).1 = run.1) := by
  intro run
  -- The values can be read back from what is written of them, and that is all that is needed of
  -- them.
  have hread : Readable ([] ++ uses) := fun key value hset => (hplain key value hset).parse?_written
  obtain ⟨nodes, hrun, hholds⟩ := Holds.empty.uses_from uses hread
  rw [List.nil_append] at hholds
  have hanswers : run.1 = mapReplies [] uses := congrArg Prod.fst hrun
  refine ⟨hanswers, ⟨nodes, congrArg Prod.snd hrun, fun name hname => hholds.contains_iff hname,
    fun key hkey => hholds.find?_temporaryName hkey, hholds.noDirectory⟩, ?_, ?_, ?_⟩
  · intro key value place hkey
    exact ⟨setFile_of_not_isKey hkey value place, getFile_of_not_isKey hkey place⟩
  · intro key key' value place hne
    exact getFile_setFile_of_ne hne value place
  · intro hfit
    rw [hanswers]
    exact memory_uses_from _ (fun _ _ => rfl) hfit

/-- Some uses under three keys, of which one is refused. -/
def sampleUses : List Use :=
  [.set "state"
      (.object [("isUnlocked", .bool true), ("list", .array [.whole (-1), .text "a\nb"])]),
    .set "../state" .null, .get "other", .reopen, .set "other" (.whole 7), .get "other",
    .get "state"]

/-- The last value of each key is found, also after the store was opened anew. -/
theorem files_hold_sampleUses :
    (∀ key value, .set key value ∈ sampleUses → Json.Plain Json.maxDepth value) ∧
      (files.uses Place.opened (.directory ∅) sampleUses).1 =
        [.set (.ok ()), .set (.error (.invalidKey "../state")), .get (.ok none), .reopened,
          .set (.ok ()), .get (.ok (some (.whole 7))),
          .get (.ok (some (.object
            [("isUnlocked", .bool true), ("list", .array [.whole (-1), .text "a\nb"])])))] := by
  have hlist : Json.Plain 126 (.array [.whole (-1), .text "a\nb"]) := by
    refine .array fun v hv => ?_
    simp only [List.mem_cons, List.not_mem_nil, or_false] at hv
    rcases hv with rfl | rfl
    · exact .whole _ (by decide) (by decide)
    · exact .text _ _
  have hstate : Json.Plain Json.maxDepth
      (.object [("isUnlocked", .bool true), ("list", .array [.whole (-1), .text "a\nb"])]) := by
    refine .object_of_sorted (List.pairwise_pair.2 (by decide)) fun field hfield => ?_
    simp only [List.mem_cons, List.not_mem_nil, or_false] at hfield
    rcases hfield with rfl | rfl
    · exact .bool _ true
    · exact hlist
  have hplain : ∀ key value, .set key value ∈ sampleUses → Json.Plain Json.maxDepth value := by
    intro key value hset
    simp only [sampleUses, List.mem_cons, Use.set.injEq, reduceCtorEq, List.not_mem_nil, or_false,
      false_or] at hset
    rcases hset with ⟨_, rfl⟩ | ⟨_, rfl⟩ | ⟨_, rfl⟩
    · exact hstate
    · exact .null _
    · exact .whole _ (by decide) (by decide)
  exact ⟨hplain, (files_hold_map sampleUses hplain).1.trans rfl⟩

/-- Under a key that is too long a value can neither be stored nor looked up. -/
theorem IsLong.not_stored {key : String} (h : IsLong key) (value : Json) (nodes : Dict Node) :
    (files.set key value (.directory nodes)).1 = .error .storage ∧
      files.get key (.directory nodes) = .error .storage := by
  refine ⟨?_, getFile_of_long h.isKey h.size⟩
  rcases setFile_of_long nodes h.isKey h.size value with hset | hset
  · exact congrArg Prod.fst hset
  · exact congrArg Prod.fst hset

/-- A letter, however often it is repeated, makes a key. -/
theorem isKey_replicate (n : Nat) : isKey (String.ofList (List.replicate (n + 1) 'a')) = true := by
  have hne : String.ofList (List.replicate (n + 1) 'a') ≠ "" := by
    rw [Ne, ← String.toList_inj, String.toList_ofList]
    exact List.cons_ne_nil _ _
  have hall : ∀ c ∈ (String.ofList (List.replicate (n + 1) 'a')).toList,
      (Text.isAlphanumeric c || c == '-' || c == '_') = true := by
    intro c hc
    rw [String.toList_ofList] at hc
    rw [List.eq_of_mem_replicate hc]
    decide
  unfold isKey
  rw [List.all_eq_true.2 hall, decide_eq_true hne, Bool.and_self]

/-- A key that is too long even for its temporary file. -/
def longKey : String := String.ofList (List.replicate 252 'a')

/-- Nothing can be stored under it, though none of its characters is wrong. -/
theorem set_longKey :
    isKey longKey = true ∧ (files.set longKey (.whole 1) (.directory ∅)).1 = .error .storage ∧
      files.get longKey (.directory ∅) = .error .storage := by
  have hlong : IsLong longKey := ⟨isKey_replicate 251, by decide +kernel⟩
  exact ⟨hlong.isKey, hlong.not_stored (.whole 1) ∅⟩

end WalletGate.Session
