import ModuleGraph.Proofs.FileSystem.Growth
import ModuleGraph.Proofs.Path.Parent
import ModuleGraph.Proofs.Resolution.Documents
import ModuleGraph.Proofs.Resolution.Mapped

/-! A specifier that looks like a path leads to the first file of one list. The test whether a base
is a directory hides nothing, since a file below the base shows that it is one. What the list holds
depends on the settings and on the manifests only. As long as these stay, a file that is taken away
makes no difference unless it is the one found, and a file that is added can only take the place of
a later one. -/

namespace ModuleGraph.Resolution

open ModuleGraph.Path

variable {w w' : World} {specifier : Text} {file directory p base : Path} {c : Config} {f : Family}
  {suffixes : List Text} {bases : Bases} {listed : List Path}

theorem firstFile_append (a b : List Path) :
    firstFile w (a ++ b) = (firstFile w a).or (firstFile w b) :=
  List.find?_append

theorem firstFile_flatMap {α : Type} (f : α → List Path) (as : List α) :
    firstFile w (as.flatMap f) = as.findSome? fun a => firstFile w (f a) :=
  List.find?_flatMap

def PathLike.spellings (f : Family) (base : Path) : List Path :=
  if f = .stylesheet ∧ baseName base ≠ [] ∧ (baseName base).head? ≠ some '_' then
    [base, join (parent base) ('_' :: baseName base)]
  else [base]

/-- The paths that are tried for a base: those names, each followed by itself with the suffixes, then
the index files of the directory that it may be. -/
def PathLike.probes (suffixes : List Text) (f : Family) (base : Path) : List Path :=
  (spellings f base).flatMap (fun name => name :: suffixes.map (name ++ ·)) ++
    f.indexNames.map (join base)

theorem PathLike.fileCandidates_eq (base : Path) (suffixes : List Text) (f : Family) :
    fileCandidates base suffixes f =
      (spellings f base).flatMap fun name => name :: suffixes.map (name ++ ·) := by
  unfold fileCandidates spellings
  have htail : (f = .stylesheet && !(split base).2.isEmpty && (split base).2.head? ≠ some '_') =
      true ↔ f = .stylesheet ∧ baseName base ≠ [] ∧ (baseName base).head? ≠ some '_' := by
    simp [baseName, and_assoc]
  simp only [htail]
  split <;> simp [parent, baseName]

theorem isAbsolute_of_mem_indexNames {name : Text} (h : name ∈ f.indexNames) :
    isAbsolute name = false := by
  revert name
  cases f <;> decide

theorem ne_nil_of_mem_indexNames {name : Text} (h : name ∈ f.indexNames) : name ≠ [] := by
  revert name
  cases f <;> decide

theorem PathLike.probe_eq_firstFile (hbase : isAbsolute base = true) :
    probe w base suffixes f = firstFile w (probes suffixes f base) := by
  rw [probes, ← fileCandidates_eq, firstFile_append, probe]
  cases firstFile w (fileCandidates base suffixes f) with
  | some found => rfl
  | none =>
    rw [Option.none_or]
    dsimp only
    split
    · rfl
    · next hdirectory =>
      -- an index file would show that the base is a directory
      symm
      rw [firstFile, List.find?_eq_none]
      rintro q hq hfile
      obtain ⟨name, hname, rfl⟩ := List.mem_map.mp hq
      exact hdirectory (World.isDirectory_of_isFile_join hbase
        (isAbsolute_of_mem_indexNames hname) hfile)

theorem findSome?_probe {places : List Path} (h : ∀ place ∈ places, isAbsolute place = true) :
    (places.findSome? fun place => PathLike.probe w place suffixes f) =
      firstFile w (places.flatMap (PathLike.probes suffixes f)) := by
  rw [firstFile_flatMap]
  induction places with
  | nil => rfl
  | cons place rest ih =>
    obtain ⟨hplace, hrest⟩ := List.forall_mem_cons.mp h
    rw [List.findSome?_cons, List.findSome?_cons, PathLike.probe_eq_firstFile hplace, ih hrest]

namespace Bases

def candidates (w : World) (suffixes : List Text) (f : Family) (b : Bases) : List Path :=
  (b.places ++ b.packages.flatMap (packagePlaces w)).flatMap (PathLike.probes suffixes f)

def packageManifests (b : Bases) : List Path :=
  b.packages.map fun package => join package PathLike.manifestName

def Readable (w : World) (b : Bases) : Prop :=
  ∀ m ∈ b.packageManifests, w.isFile m = true → escaping? w m = none

theorem Readable.findSome?_eq_none (h : bases.Readable w) :
    (bases.manifests w suffixes f).findSome? (escaping? w) = none := by
  refine List.findSome?_eq_none_iff.mpr fun m hm => ?_
  unfold manifests at hm
  split at hm
  · cases hm
  · obtain ⟨package, hpackage, hmanifest⟩ := List.mem_filterMap.mp hm
    unfold manifest? at hmanifest
    split at hmanifest
    · next hfile =>
      cases hmanifest
      exact h _ (List.mem_map_of_mem (upToFirst_subset _ _ hpackage)) hfile
    · cases hmanifest

structure Absolute (b : Bases) : Prop where
  places : ∀ place ∈ b.places, isAbsolute place = true
  packages : ∀ package ∈ b.packages, isAbsolute package = true

theorem Absolute.file?_eq (h : bases.Absolute) :
    bases.file? w suffixes f = firstFile w (bases.candidates w suffixes f) := by
  refine findSome?_probe fun place hplace => ?_
  rcases List.mem_append.mp hplace with hplace | hplace
  · exact h.places place hplace
  · obtain ⟨package, hpackage, hplace⟩ := List.mem_flatMap.mp hplace
    have hpackage := h.packages package hpackage
    rcases List.mem_append.mp hplace with hplace | hplace
    · obtain ⟨entry, -, rfl⟩ := List.mem_map.mp hplace
      exact isAbsolute_normal (isAbsolute_join entry hpackage)
    · exact List.mem_singleton.mp hplace ▸ hpackage

theorem absolute_of {mapped : List Path} (dirs : List Text) (hfile : isAbsolute file = true)
    (hdirectory : isAbsolute directory = true) (hmapped : ∀ place ∈ mapped, isAbsolute place = true) :
    (of specifier file directory mapped dirs f).Absolute := by
  have hsource := isAbsolute_parent hfile
  unfold of
  dsimp only
  split
  · refine ⟨fun place hplace => ?_, by simp⟩
    rw [List.mem_singleton.mp hplace]
    exact isAbsolute_normal (isAbsolute_join specifier hsource)
  · constructor
    · intro place hplace
      rcases List.mem_append.mp hplace with hplace | hplace
      · exact hmapped place hplace
      · obtain ⟨root, hroot, rfl⟩ := List.mem_map.mp hplace
        refine isAbsolute_join specifier ?_
        split at hroot <;> simp only [List.mem_cons, List.not_mem_nil, or_false] at hroot
        · rcases hroot with rfl | rfl <;> assumption
        · exact hroot ▸ hdirectory
    · intro package hpackage
      obtain ⟨dir, -, rfl⟩ := List.mem_map.mp hpackage
      exact isAbsolute_join specifier (isAbsolute_join dir hdirectory)

end Bases

theorem isAbsolute_of_mem_mapped {o : Json.Object} (ho : Config.WellTyped o)
    (hdirectory : isAbsolute directory = true) {mapped : List Path}
    (h : PathLike.mappedCandidates specifier directory (.ofObject o) = .ok mapped) :
    ∀ place ∈ mapped, isAbsolute place = true := by
  obtain ⟨aliases, baseUrl, paths, hmaps⟩ := ho.exists_maps
  rw [PathLike.mappedCandidates_eq specifier directory hmaps] at h
  rw [← Except.ok.inj h]
  intro place hplace
  obtain ⟨target, htarget, rfl⟩ := List.mem_map.mp hplace
  refine isAbsolute_normal ?_
  rcases List.mem_append.mp htarget with htarget | htarget
  · obtain ⟨entry, -, rfl⟩ := List.mem_map.mp htarget
    exact isAbsolute_join _ (isAbsolute_join _ hdirectory)
  · obtain ⟨expanded, -, rfl⟩ := List.mem_map.mp htarget
    exact isAbsolute_join _ (isAbsolute_join _ hdirectory)

theorem Config.LooksAt.absolute {o : Json.Object} (ho : Config.WellTyped o)
    (hfile : isAbsolute file = true) (hdirectory : isAbsolute directory = true)
    (h : (Config.ofObject o).LooksAt specifier file directory f suffixes bases) :
    bases.Absolute := by
  obtain ⟨-, mapped, dirs, hmapped, -, rfl⟩ := h
  exact Bases.absolute_of dirs hfile hdirectory (isAbsolute_of_mem_mapped ho hdirectory hmapped)

/-- If the document can be read in one of the worlds, it can in the other, and it is the same. -/
structure SameDocument (w w' : World) (document : Path) : Prop where
  nesting : w'.nesting = w.nesting
  bytes : ∀ bytes, w'.open_ document = .ok bytes ↔ w.open_ document = .ok bytes

theorem SameDocument.read (h : SameDocument w w' document) : w'.read document = w.read document ∨
    ∃ path path' fault fault', w.read document = .error (.system path fault) ∧
      w'.read document = .error (.system path' fault') := by
  unfold World.read
  split
  · exact Or.inl rfl
  · cases hopen : w.open_ document with
    | ok bytes =>
      rw [(h.bytes bytes).mpr hopen]
      exact Or.inl rfl
    | error fault =>
      cases hopen' : w'.open_ document with
      | ok bytes => cases ((h.bytes bytes).mp hopen').symm.trans hopen
      | error fault' => exact Or.inr ⟨_, _, _, _, rfl, rfl⟩

theorem SameDocument.escaping?_eq (h : SameDocument w w' document) :
    escaping? w' document = escaping? w document := by
  unfold escaping?
  rcases h.read with hread | ⟨_, _, _, _, hread, hread'⟩
  · rw [hread, h.nesting]
  · rw [hread, hread']

theorem SameDocument.document?_eq (h : SameDocument w w' document) :
    document? w' document = document? w document := by
  unfold document?
  rcases h.read with hread | ⟨_, _, _, _, hread, hread'⟩
  · rw [hread, h.nesting]
  · rw [hread, hread']

theorem isFile_of_escaping? {fault : Fault} (h : escaping? w document = some fault) :
    w.isFile document = true ∨ '\x00' ∈ document := by
  by_cases hnul : '\x00' ∈ document
  · exact Or.inr hnul
  · refine Or.inl ?_
    by_contra hfile
    have hfile := Bool.eq_false_iff.mpr hfile
    unfold escaping? World.read World.open_ at h
    unfold World.isFile at hfile
    cases hlookup : w.lookup document with
    | error _ => simp [hlookup, hnul, bind, Except.bind] at h
    | ok found =>
      obtain ⟨loc, e⟩ := found
      cases e <;> simp_all [bind, Except.bind]

theorem Bases.Readable.of_sameDocument (h : bases.Readable w)
    (hsame : ∀ m ∈ bases.packageManifests, SameDocument w w' m) : bases.Readable w' := by
  intro m hm hfile
  rw [(hsame m hm).escaping?_eq]
  cases hfault : escaping? w m with
  | none => rfl
  | some fault =>
    rcases isFile_of_escaping? hfault with hfile' | hnul
    · rw [h m hm hfile'] at hfault
      cases hfault
    · exact absurd hnul (World.not_mem_of_isFile hfile)

theorem candidates_of_sameDocument (h : ∀ m ∈ bases.packageManifests, SameDocument w w' m) :
    bases.candidates w' suffixes f = bases.candidates w suffixes f := by
  have hplaces : bases.packages.flatMap (packagePlaces w') =
      bases.packages.flatMap (packagePlaces w) := by
    refine List.flatMap_congr fun package hpackage => ?_
    unfold packagePlaces
    rw [entryNames, entryNames, (h _ (List.mem_map_of_mem hpackage)).document?_eq]
  unfold Bases.candidates
  rw [hplaces]

theorem firstFile_of_fewer (hgrows : w'.Grows w)
    (hkept : ∀ found, firstFile w listed = some found → w'.isFile found = true) :
    firstFile w' listed = firstFile w listed := by
  unfold firstFile at hkept ⊢
  cases hfound : listed.find? w.isFile with
  | none =>
    rw [List.find?_eq_none] at hfound ⊢
    exact fun q hq hfile => hfound q hq (hgrows.isFile hfile)
  | some found =>
    obtain ⟨-, before, after, rfl, hbefore⟩ := List.find?_eq_some_iff_append.mp hfound
    refine List.find?_eq_some_iff_append.mpr ⟨hkept found hfound, before, after, rfl, ?_⟩
    intro q hq
    have hno := hbefore q hq
    rw [Bool.not_eq_true', Bool.eq_false_iff] at hno ⊢
    exact fun hfile => hno (hgrows.isFile hfile)

theorem firstFile_of_more (hgrows : w.Grows w') :
    firstFile w' listed = firstFile w listed ∨
      ∃ before new after, listed = before ++ new :: after ∧
        (∀ earlier ∈ before ++ [new], w.isFile earlier = false) ∧
        firstFile w' listed = some new := by
  cases hfound : firstFile w' listed with
  | none =>
    left
    rw [← hfound]
    refine (firstFile_of_fewer hgrows fun found hfound' => ?_).symm
    rw [hfound] at hfound'
    cases hfound'
  | some new =>
    by_cases hnew : w.isFile new = true
    · left
      rw [← hfound]
      refine (firstFile_of_fewer hgrows fun found hfound' => ?_).symm
      rw [hfound] at hfound'
      exact Option.some.inj hfound' ▸ hnew
    · right
      obtain ⟨-, before, after, rfl, hbefore⟩ := List.find?_eq_some_iff_append.mp hfound
      refine ⟨before, new, after, rfl, fun earlier hearlier => ?_, rfl⟩
      rw [Bool.eq_false_iff]
      intro hfile
      rcases List.mem_append.mp hearlier with hearlier | hearlier
      · simpa [hgrows.isFile hfile] using hbefore earlier hearlier
      · exact hnew (List.mem_singleton.mp hearlier ▸ hfile)

/-- A specifier of a script or a stylesheet resolves to the first file of its candidates, in every
world in which no manifest has a fault that gets through. A world with fewer files gives the same as
long as the file found is left. A world with more files gives the same or a candidate that is earlier
than all files before. -/
theorem PathLike.first_file_of_candidates {o : Json.Object} (ho : Config.WellTyped o)
    (specifier : Text) (hfile : isAbsolute file = true) (hdirectory : isAbsolute directory = true)
    (hfamily : Family.of? file ≠ some .python) :
    let value := fun w => (Resolution.resolve w specifier file directory (.ofObject o)).value
    let family := (Family.of? file).getD .script
    ∃ suffixes bases,
      (Config.ofObject o).LooksAt specifier file directory family suffixes bases ∧
      ∀ w, bases.Readable w →
        let candidates := bases.candidates w suffixes family
        value w = .ok ((firstFile w candidates).map w.absolute) ∧
        ∀ w', (∀ m ∈ bases.packageManifests, SameDocument w w' m) →
          (w'.Grows w → (∀ found, firstFile w candidates = some found → w'.isFile found = true) →
            value w' = value w) ∧
          (w.Grows w' → value w' = value w ∨
            ∃ before new after, candidates = before ++ new :: after ∧
              (∀ earlier ∈ before ++ [new], w.isFile earlier = false) ∧
              value w' = .ok (some (w.absolute new))) := by
  intro value family
  obtain ⟨suffixes, bases, hlooks⟩ := ho.exists_looksAt specifier file directory family
  have hvalue : ∀ w, bases.Readable w →
      value w = .ok ((firstFile w (bases.candidates w suffixes family)).map w.absolute) := by
    intro w hreadable
    rw [← (hlooks.absolute ho hfile hdirectory).file?_eq]
    exact (hlooks.value_resolve w hfamily).trans (by rw [hreadable.findSome?_eq_none]; rfl)
  refine ⟨suffixes, bases, hlooks, fun w hreadable => ⟨hvalue w hreadable, fun w' hsame => ?_⟩⟩
  have hvalue' := hvalue w' (hreadable.of_sameDocument hsame)
  rw [candidates_of_sameDocument hsame] at hvalue'
  rw [hvalue w hreadable, hvalue']
  constructor
  · intro hgrows hkept
    rw [firstFile_of_fewer hgrows hkept, hgrows.absolute]
  · intro hgrows
    rw [hgrows.absolute]
    rcases firstFile_of_more hgrows with hfirst | ⟨before, new, after, hsplit, hbefore, hfirst⟩
    · exact Or.inl (by rw [hfirst])
    · exact Or.inr ⟨before, new, after, hsplit, hbefore, by rw [hfirst]; rfl⟩

/-! A package with an index file, whose manifest names two entry files. Packages are searched in `lib`
only, and `.ts` is the only suffix. -/

namespace TwoEntries

def object : Json.Object :=
  [("extensions".toList, .arr [.str ".ts".toList]), ("module_dirs".toList, .arr [.str "lib".toList])]

theorem wellTyped : Config.WellTyped object := by
  constructor <;> intro v hv <;> cases hv
  · exact ⟨[".ts".toList], rfl⟩
  · exact ⟨["lib".toList], rfl⟩

def manifest : Text.Utf8.Bytes :=
  "\x7b\"main\": \"n\", \"module\": \"m\"\x7d".toList.map Char.toUInt8

def world (added : List Location) : World where
  files := ⟨added.map (·, .file []) ++
    [(["lib".toList], .directory), (["pkg".toList, "lib".toList], .directory),
      (["package.json".toList, "pkg".toList, "lib".toList], .file manifest),
      (["index.js".toList, "pkg".toList, "lib".toList], .file [])]⟩
  workingDirectory := ['/']
  environment := .empty
  nesting := 100
  isCharacterName _ := false

def besideFile : Location := ["pkg.ts".toList, "lib".toList]

def mainFile : Location := ["n.ts".toList, "pkg".toList, "lib".toList]

def moduleFile : Location := ["m.ts".toList, "pkg".toList, "lib".toList]

theorem grows : (world []).Grows (world [besideFile]) ∧
    (world [besideFile]).Grows (world [mainFile, besideFile]) ∧
    (world [mainFile, besideFile]).Grows (world [moduleFile, mainFile, besideFile]) := by
  refine ⟨⟨rfl, .cons ?_ ?_ ?_⟩, ⟨rfl, .cons ?_ ?_ ?_⟩, ⟨rfl, .cons ?_ ?_ ?_⟩⟩ <;> decide +kernel

theorem looksAt : (Config.ofObject object).LooksAt "pkg".toList ['/', 'a'] ['/'] .script
    [".ts".toList] (.of "pkg".toList ['/', 'a'] ['/'] [] ["lib".toList] .script) :=
  ⟨rfl, [], ["lib".toList], by decide +kernel, rfl, rfl⟩

end TwoEntries

/-- Each file that is added is an earlier candidate than the one found before: the file beside the
package goes before the index file, the main file of the manifest before that one, and its module
before the main file. -/
theorem PathLike.entry_files_found_first :
    let value := fun added => (Resolution.resolve (TwoEntries.world added) "pkg".toList ['/', 'a']
      ['/'] (.ofObject TwoEntries.object)).value
    ((TwoEntries.world []).Grows (TwoEntries.world [TwoEntries.besideFile]) ∧
      (TwoEntries.world [TwoEntries.besideFile]).Grows
        (TwoEntries.world [TwoEntries.mainFile, TwoEntries.besideFile]) ∧
      (TwoEntries.world [TwoEntries.mainFile, TwoEntries.besideFile]).Grows
        (TwoEntries.world [TwoEntries.moduleFile, TwoEntries.mainFile, TwoEntries.besideFile])) ∧
    value [] = .ok (some "/lib/pkg/index.js".toList) ∧
    value [TwoEntries.besideFile] = .ok (some "/lib/pkg.ts".toList) ∧
    value [TwoEntries.mainFile, TwoEntries.besideFile] = .ok (some "/lib/pkg/n.ts".toList) ∧
    value [TwoEntries.moduleFile, TwoEntries.mainFile, TwoEntries.besideFile] =
      .ok (some "/lib/pkg/m.ts".toList) := by
  intro value
  have hfile : isAbsolute ['/', 'a'] = true := by decide
  have hdirectory : isAbsolute ['/'] = true := by decide
  obtain ⟨suffixes, bases, hlooks, hall⟩ := first_file_of_candidates TwoEntries.wellTyped
    "pkg".toList hfile hdirectory (by decide)
  obtain ⟨rfl, rfl⟩ := hlooks.unique TwoEntries.looksAt
  have hvalue : ∀ added, escaping? (TwoEntries.world added) "/lib/pkg/package.json".toList = none →
      value added = _ := fun added hnone =>
    (hall (TwoEntries.world added) (fun m hm _ => List.mem_singleton.mp hm ▸ hnone)).1
  refine ⟨TwoEntries.grows, (hvalue [] ?_).trans ?_, (hvalue _ ?_).trans ?_,
    (hvalue _ ?_).trans ?_, (hvalue _ ?_).trans ?_⟩
  all_goals decide +kernel

end ModuleGraph.Resolution
