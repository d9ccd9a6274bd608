import ModuleGraph.Proofs.Path.Parent
import ModuleGraph.Proofs.Resolution.Candidates

/-! A dotted name leads to the first file of one list. Without leading dots the list goes through the
base directory and the further roots. With dots it stays below one directory, so many steps above
the importing file as there are dots, and ends with that directory's own package file for a name of
one part. This last file is never the importing one. -/

namespace ModuleGraph.Resolution

open ModuleGraph.Path

namespace Dotted

variable {w : World} {file directory base found : Path} {parts suffixes roots : List Text}
  {level : ℕ}

structure IsPart (part : Text) : Prop where
  ne_nil : part ≠ []
  dot : '.' ∉ part
  slash : '/' ∉ part

instance : DecidablePred IsPart := fun part =>
  decidable_of_iff (part ≠ [] ∧ '.' ∉ part ∧ '/' ∉ part)
    ⟨fun ⟨hne, hdot, hslash⟩ => ⟨hne, hdot, hslash⟩, fun h => ⟨h.ne_nil, h.dot, h.slash⟩⟩

theorem IsPart.isAbsolute_append {part : Text} (h : IsPart part) (rest : Text) :
    isAbsolute (part ++ rest) = false := by
  obtain ⟨x, part, rfl⟩ := List.exists_cons_of_ne_nil h.ne_nil
  simpa [isAbsolute] using (List.ne_of_not_mem_cons h.slash).symm

def name (level : ℕ) (parts : List Text) : Text :=
  List.replicate level '.' ++ Text.joined ['.'] parts

theorem joined_head {part : Text} (h : part ≠ []) (rest : List Text) :
    (Text.joined ['.'] (part :: rest)).head? = part.head? := by
  obtain ⟨x, part, rfl⟩ := List.exists_cons_of_ne_nil h
  cases rest with
  | nil => rfl
  | cons next more =>
    rw [Text.joined_cons (List.cons_ne_nil _ _)]
    rfl

theorem split_name (level : ℕ) (h : ∀ part ∈ parts, IsPart part) :
    split (name level parts) = (level, parts) := by
  have hdots : (name level parts).takeWhile (· = '.') = List.replicate level '.' := by
    rw [name, List.takeWhile_append_of_pos (by simp)]
    cases parts with
    | nil => simp [Text.joined]
    | cons part rest =>
      obtain ⟨hne, hdot, -⟩ := h part List.mem_cons_self
      have hhead := joined_head hne rest
      obtain ⟨x, part, rfl⟩ := List.exists_cons_of_ne_nil hne
      obtain ⟨y, text, htext⟩ : ∃ y text, Text.joined ['.'] ((x :: part) :: rest) = y :: text :=
        List.exists_cons_of_ne_nil fun hnil => by simp [hnil] at hhead
      rw [htext] at hhead ⊢
      obtain rfl : y = x := Option.some.inj hhead
      simp [Ne.symm (List.ne_of_not_mem_cons hdot)]
  have hname : (name level parts).drop level = Text.joined ['.'] parts := by
    rw [name, List.drop_left' List.length_replicate]
  simp only [split, hdots, List.length_replicate, hname]
  cases parts with
  | nil => rfl
  | cons part rest =>
    have hpart := (h part List.mem_cons_self).ne_nil
    have hhead := joined_head hpart rest
    have hne : (Text.joined ['.'] (part :: rest)).isEmpty = false := by
      obtain ⟨x, part, rfl⟩ := List.exists_cons_of_ne_nil hpart
      cases htext : Text.joined ['.'] ((x :: part) :: rest) with
      | nil => simp [htext] at hhead
      | cons => rfl
    have hfields := Text.fields_joined (List.cons_ne_nil part rest) fun piece hpiece =>
      (h piece hpiece).dot
    simp only [hne, Bool.false_eq_true, if_false, hfields]

theorem climb_eq (k : ℕ) (p : Path) : climb k p = parent^[k] p := by
  induction k generalizing p with
  | zero => rfl
  | succ k ih => exact ih (parent p)

/-- The path that a dotted name stands for below a base: the parts behind the base, with slashes
between them. -/
def below (base : Path) (parts : List Text) : Path :=
  if parts = [] then base else join base (Text.joined ['/'] parts)

def withSlash (base : Path) : Path :=
  if base.isEmpty || base.getLast? = some '/' then base else base ++ ['/']

theorem join_eq {p : Path} (h : isAbsolute p = false) : join base p = withSlash base ++ p := by
  unfold join withSlash
  rw [if_neg (by simp [h])]
  split <;> simp

theorem IsPart.withSlash_append {part : Text} (h : IsPart part) (start : Text) :
    withSlash (start ++ part) = start ++ part ++ ['/'] := by
  have hlast : (start ++ part).getLast? ≠ some '/' := by
    rw [List.getLast?_append_of_ne_nil _ h.ne_nil]
    exact fun hslash => h.slash (List.mem_of_getLast? hslash)
  rw [withSlash, if_neg (by simpa [h.ne_nil] using hlast)]

theorem join_join {part tail : Text} (h : IsPart part) (htail : isAbsolute tail = false) :
    join (join base part) tail = join base (part ++ '/' :: tail) := by
  have hpart : isAbsolute part = false := List.append_nil part ▸ h.isAbsolute_append []
  rw [join_eq htail, join_eq hpart, join_eq (h.isAbsolute_append _), h.withSlash_append]
  simp

theorem joinAll_eq_below (h : ∀ part ∈ parts, IsPart part) :
    joinAll base parts = below base parts := by
  induction parts generalizing base with
  | nil => rfl
  | cons part rest ih =>
    obtain ⟨hpart, hrest⟩ := List.forall_mem_cons.mp h
    rw [joinAll, List.foldl_cons, ← joinAll, ih hrest]
    cases rest with
    | nil => rfl
    | cons next more =>
      have hnext := hrest next List.mem_cons_self
      have htail : isAbsolute (Text.joined ['/'] (next :: more)) = false := by
        cases more with
        | nil => exact List.append_nil next ▸ hnext.isAbsolute_append []
        | cons _ _ =>
          rw [Text.joined_cons (List.cons_ne_nil _ _)]
          exact hnext.isAbsolute_append _
      simp only [below, List.cons_ne_nil, if_false]
      rw [join_join hpart htail, Text.joined_cons (List.cons_ne_nil _ _)]

def places (suffixes : List Text) (parts : List Text) (base : Path) : List Path :=
  (if parts = [] then [] else suffixes.map (below base parts ++ ·)) ++
    Family.python.indexNames.map (join (below base parts))

theorem locate_eq_firstFile (h : ∀ part ∈ parts, IsPart part) : locate w base parts suffixes =
    firstFile w (places suffixes parts base) := by
  rw [places, firstFile_append, locate]
  simp only [List.isEmpty_iff, joinAll_eq_below h]
  cases firstFile w (if parts = [] then [] else suffixes.map (below base parts ++ ·)) <;> rfl

def ownFile? (w : World) (suffixes : List Text) (file base : Path) : Option Path :=
  (firstFile w (places suffixes [] base)).filter fun package => w.absolute package ≠ w.absolute file

def candidates (w : World) (suffixes roots : List Text) (file directory : Path)
    (parts : List Text) : (level : ℕ) → List Path
  | 0 => (directory :: roots.map (join directory)).flatMap (places suffixes parts)
  | level + 1 =>
    let base := parent^[level + 1] file
    places suffixes parts base ++
      if parts.length = 1 then (ownFile? w suffixes file base).toList else []

theorem firstFile_ownFile : firstFile w (ownFile? w suffixes file base).toList =
    ownFile? w suffixes file base := by
  cases hown : ownFile? w suffixes file base with
  | none => rfl
  | some found =>
    have hfile : w.isFile found = true := isFile_of_firstFile (Option.filter_eq_some_iff.mp hown).1
    simp [firstFile, hfile]

theorem relative_eq_firstFile (h : ∀ part ∈ parts, IsPart part) (level : ℕ) :
    relative w (level + 1) parts file suffixes =
      firstFile w (candidates w suffixes roots file directory parts (level + 1)) := by
  have hbase : climb level (parent file) = parent^[level + 1] file := climb_eq level _
  have hnone : ∀ part ∈ ([] : List Text), IsPart part := by simp
  simp only [relative, candidates, Nat.add_sub_cancel, hbase, locate_eq_firstFile h,
    locate_eq_firstFile hnone]
  rw [firstFile_append]
  cases firstFile w (places suffixes parts (parent^[level + 1] file)) with
  | some found => rfl
  | none =>
    rw [Option.none_or]
    dsimp only
    by_cases hone : parts.length = 1
    · rw [if_pos hone, if_pos hone]
      exact firstFile_ownFile.symm
    · rw [if_neg hone, if_neg hone]
      rfl

theorem value_resolve {c : Config} (h : ∀ part ∈ parts, IsPart part)
    (hsuffixes : c.suffixesFor .python = .ok suffixes) (hroots : c.pythonPaths = .ok roots) :
    (resolve w (name level parts) file directory c).value =
      .ok (firstFile w (candidates w suffixes roots file directory parts level)) := by
  unfold resolve
  rw [Search.value_bind_of_ok hsuffixes, split_name level h]
  dsimp only
  cases level with
  | zero =>
    rw [if_pos rfl, Search.value_bind_of_ok hroots, candidates, firstFile_flatMap]
    simp only [locate_eq_firstFile h]
    rfl
  | succ level =>
    rw [if_neg (Nat.succ_ne_zero level), ← relative_eq_firstFile h]
    rfl

/-- The package file of a directory above the importing file is another file, wherever it stands. -/
theorem ownFile_elsewhere (hfile : isAbsolute file = true)
    (h : ownFile? w suffixes file (parent^[level] file) = some found) :
    w.absolute found ≠ w.absolute file ∧ ∀ loc e e', w.lookup file = .ok (loc, e) →
      w.lookup (w.absolute found) ≠ .ok (loc, e') := by
  obtain ⟨hfound, hne⟩ := Option.filter_eq_some_iff.mp h
  have hne : w.absolute found ≠ w.absolute file := of_decide_eq_true hne
  refine ⟨hne, fun loc e e' hlookup hlookup' => hne ?_⟩
  have hbase := isAbsolute_parent_iterate hfile level
  obtain ⟨index, hindex, rfl⟩ : ∃ index ∈ Family.python.indexNames,
      join (parent^[level] file) index = found := by
    have hmem := List.mem_of_find?_eq_some hfound
    simpa [places, below] using hmem
  have hrelative := isAbsolute_of_mem_indexNames hindex
  have hnil : index ≠ [] := ne_nil_of_mem_indexNames hindex
  have habsolute := isAbsolute_join index hbase
  rw [World.lookup_of_isAbsolute hfile] at hlookup
  have hleading : leadingSlashes (join (parent^[level] file) index) = leadingSlashes file :=
    (leadingSlashes_join hbase hnil hrelative).trans (leadingSlashes_parent_iterate hfile level)
  simp only [World.absolute, Path.absolute, if_pos habsolute, if_pos hfile] at hlookup' ⊢
  rw [World.lookup_of_isAbsolute (isAbsolute_normal habsolute)] at hlookup'
  refine World.eq_of_lookup (isAbsolute_normal habsolute) (isAbsolute_normal hfile)
    (normal_normal habsolute) (normal_normal hfile) hlookup'
    (FileSystem.lookup_normal hfile hlookup) ?_
  rw [leadingSlashes_normal habsolute, leadingSlashes_normal hfile, hleading]

theorem ownFile_of_places_eq_none (hlevel : level ≠ 0)
    (hnone : firstFile w (places suffixes parts (parent^[level] file)) = none)
    (h : firstFile w (candidates w suffixes roots file directory parts level) = some found) :
    ownFile? w suffixes file (parent^[level] file) = some found := by
  obtain ⟨level, rfl⟩ := Nat.exists_eq_succ_of_ne_zero hlevel
  rw [candidates, firstFile_append, hnone, Option.none_or] at h
  split at h
  · rw [← h]
    exact firstFile_ownFile.symm
  · cases h

/-- A dotted name with so many leading dots resolves to the first file of its candidates. The
directory that the dots lead to is so many names shorter than the path of the importing file, or the
root. Where no file stands below it, what is found is not the importing file, however that is
spelled. -/
theorem dotted_name_leads_to_first_file {o : Json.Object} (ho : Config.WellTyped o)
    (hfile : isAbsolute file = true) (hfamily : Family.of? file = some .python) (level : ℕ)
    (hparts : ∀ part ∈ parts, IsPart part) (directory : Path) :
    (normal file = file → names (parent^[level] file) = (names file).drop level) ∧
    ∃ suffixes roots, (Config.ofObject o).suffixesFor .python = .ok suffixes ∧
      (Config.ofObject o).pythonPaths = .ok roots ∧ ∀ w,
      let value := (Resolution.resolve w (name level parts) file directory (.ofObject o)).value
      value = .ok ((firstFile w (candidates w suffixes roots file directory parts level)).map
        w.absolute) ∧
      (level ≠ 0 → firstFile w (places suffixes parts (parent^[level] file)) = none →
        ∀ found, value = .ok (some found) → found ≠ w.absolute file ∧
          ∀ loc e e', w.lookup file = .ok (loc, e) → w.lookup found ≠ .ok (loc, e')) := by
  refine ⟨fun hnormal => names_parent_iterate hfile hnormal level, ?_⟩
  obtain ⟨suffixes, hsuffixes⟩ := ho.exists_suffixes .python
  obtain ⟨roots, hroots⟩ := ho.exists_pythonPaths
  refine ⟨suffixes, roots, hsuffixes, hroots, fun w => ?_⟩
  intro value
  have hvalue : value = .ok
      ((firstFile w (candidates w suffixes roots file directory parts level)).map w.absolute) := by
    show (Resolution.resolve w (name level parts) file directory (.ofObject o)).value = _
    rw [value_resolve_eq_map, familySearch_of_python hfamily, value_resolve hparts hsuffixes hroots]
    rfl
  refine ⟨hvalue, fun hlevel hnone found hfound => ?_⟩
  obtain ⟨package, hpackage, rfl⟩ :=
    Option.map_eq_some_iff.mp (Except.ok.inj (hvalue.symm.trans hfound))
  exact ownFile_elsewhere hfile (ownFile_of_places_eq_none hlevel hnone hpackage)

namespace OneModule

def world : World where
  files := ⟨[([['p']], .directory), (["__init__.py".toList, ['p']], .file []),
    (["a.py".toList, ['p']], .file []), ([['q'], ['p']], .directory),
    (["c.py".toList, ['q'], ['p']], .file []), (["lib".toList], .directory),
    ([['r'], "lib".toList], .directory), (["__init__.pyi".toList, ['r'], "lib".toList], .file [])]⟩
  workingDirectory := ['/']
  environment := .empty
  nesting := 100
  isCharacterName _ := false

def object : Json.Object := [("python_paths".toList, .arr [.str "lib".toList])]

theorem wellTyped : Config.WellTyped object := by
  constructor <;> intro v hv <;> cases hv
  exact ⟨["lib".toList], rfl⟩

end OneModule

/-- The name `.q.c` leads to a module below the package, `.b` from a module to the package itself and
from the package to nothing, and `r` to a package below the further root. -/
theorem names_in_one_package :
    let value := fun level parts file =>
      (Resolution.resolve OneModule.world (name level parts) file ['/']
        (.ofObject OneModule.object)).value
    value 1 [['q'], ['c']] "/p/a.py".toList = .ok (some "/p/q/c.py".toList) ∧
    value 1 [['b']] "/p/a.py".toList = .ok (some "/p/__init__.py".toList) ∧
    value 1 [['b']] "/p/__init__.py".toList = .ok none ∧
    value 0 [['r']] "/p/a.py".toList = .ok (some "/lib/r/__init__.pyi".toList) := by
  intro value
  have hvalue : ∀ level parts file, (∀ part ∈ parts, IsPart part) → isAbsolute file = true →
      Family.of? file = some .python →
      value level parts file = .ok ((firstFile OneModule.world (candidates OneModule.world
        Family.python.suffixes ["lib".toList] file ['/'] parts level)).map
          OneModule.world.absolute) := by
    intro level parts file hparts hfile hfamily
    obtain ⟨-, suffixes, roots, hsuffixes, hroots, hall⟩ := dotted_name_leads_to_first_file
      OneModule.wellTyped hfile hfamily level hparts ['/']
    obtain rfl : Family.python.suffixes = suffixes := Except.ok.inj hsuffixes
    obtain rfl : ["lib".toList] = roots := Except.ok.inj hroots
    exact (hall OneModule.world).1
  refine ⟨(hvalue _ _ _ ?_ ?_ ?_).trans ?_, (hvalue _ _ _ ?_ ?_ ?_).trans ?_,
    (hvalue _ _ _ ?_ ?_ ?_).trans ?_, (hvalue _ _ _ ?_ ?_ ?_).trans ?_⟩
  all_goals decide +kernel

end Dotted

end ModuleGraph.Resolution
