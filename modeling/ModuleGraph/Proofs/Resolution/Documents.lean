import ModuleGraph.Proofs.Resolution.Search
import ModuleGraph.Proofs.Resolution.WellTyped
import ModuleGraph.Proofs.Settings.Validation
import ModuleGraph.Proofs.Walk.Reports

/-! Documents that cannot be used. A manifest that cannot be opened or is no JSON document names no
entry file, and a file of settings that is such is rejected. Some documents get past this: those
that are no text in UTF-8, and those with an integer of too many digits or with too many arrays and
objects inside each other. They break off the search that reads them, or the run. -/

namespace ModuleGraph

open ModuleGraph.Path

namespace World

variable {w : World} {p : Path}

theorem read_of_not_isFile (h : w.isFile p = false) : ∃ fault, w.read p = .error fault := by
  unfold isFile at h
  unfold read open_
  split
  · exact ⟨_, rfl⟩
  · cases hlookup : w.lookup p with
    | error fault => exact ⟨_, rfl⟩
    | ok found =>
      cases found with
      | mk loc e =>
        cases e with
        | directory => exact ⟨_, rfl⟩
        | file bytes => simp [hlookup] at h
        | unreadable => simp [hlookup] at h

end World

namespace Resolution

variable {w : World} {specifier : Text} {file directory document : Path} {c : Config} {f : Family}
  {suffixes : List Text}

def document? (w : World) (document : Path) : Option Json.Value :=
  match w.read document with
  | .error _ => none
  | .ok doc => (Json.parse w.nesting doc).toOption

/-- The fault of a document that gets past those who read it. -/
def escaping? (w : World) (document : Path) : Option Fault :=
  match w.read document with
  | .error (.encoding fault) => some (.undecodable fault)
  | .error .nullCharacter => some .nullCharacter
  | .error (.system _ _) => none
  | .ok doc =>
    match Json.parse w.nesting doc with
    | .ok _ => none
    | .error fault =>
      match fault.complaint with
      | .hugeInteger digits => some (.hugeInteger digits)
      | .tooDeep => some .tooDeep
      | _ => none

namespace Document

inductive Loads (w : World) (document : Path) : Except Document.Fault Json.Value → Prop
  | usable {v : Json.Value} (hv : document? w document = some v)
      (hnone : escaping? w document = none) : Loads w document (.ok v)
  | caught {reason : String} (hv : document? w document = none)
      (hnone : escaping? w document = none) : Loads w document (.error (.caught reason))
  | escaping {fault : Resolution.Fault} (hv : document? w document = none)
      (hfault : escaping? w document = some fault) : Loads w document (.error (.escaping fault))

theorem loads (w : World) (document : Path) : Loads w document (load w document) := by
  unfold load
  cases hread : w.read document with
  | error fault =>
    cases fault with
    | system path fault => exact .caught (by simp [document?, hread]) (by simp [escaping?, hread])
    | encoding fault => exact .escaping (by simp [document?, hread]) (by simp [escaping?, hread])
    | nullCharacter => exact .escaping (by simp [document?, hread]) (by simp [escaping?, hread])
  | ok doc =>
    dsimp only
    cases hparse : Json.parse w.nesting doc with
    | ok v =>
      exact .usable (by simp [document?, hread, hparse, Except.toOption])
        (by simp [escaping?, hread, hparse])
    | error fault =>
      have hv : document? w document = none := by simp [document?, hread, hparse, Except.toOption]
      simp only [Except.mapError, ofParsing]
      split
      · next hhuge => exact .escaping hv (by simp [escaping?, hread, hparse, hhuge])
      · next hdeep => exact .escaping hv (by simp [escaping?, hread, hparse, hdeep])
      · exact .caught hv (by simp only [escaping?, hread, hparse])

end Document

def textMember? (name : Text) : Json.Value → Option Text
  | .obj o =>
    match Table.get? o name with
    | some (.str s) => some s
    | _ => none
  | _ => none

/-- The entry files that a manifest names: the one of its `module`, then the one of its `main`. -/
def entryNames (w : World) (manifest : Path) : List Text :=
  ((document? w manifest).bind (textMember? "module".toList)).toList ++
    ((document? w manifest).bind (textMember? "main".toList)).toList

theorem entriesOf_eq (v : Json.Value) : PathLike.entriesOf v =
    (textMember? "module".toList v).toList ++ (textMember? "main".toList v).toList := by
  cases v with
  | obj o =>
    have hfields : PathLike.entriesOf (.obj o) =
        ["module".toList, "main".toList].filterMap fun name => textMember? name (.obj o) := rfl
    rw [hfields, List.filterMap_cons, List.filterMap_cons, List.filterMap_nil]
    cases textMember? "module".toList (.obj o) <;> cases textMember? "main".toList (.obj o) <;> rfl
  | _ => rfl

theorem value_packageEntries (w : World) (manifest : Path) :
    (PathLike.packageEntries w manifest).value =
      unlessFault (escaping? w manifest) (entryNames w manifest) := by
  have hloads := Document.loads w manifest
  unfold PathLike.packageEntries entryNames
  generalize Document.load w manifest = loaded at hloads ⊢
  cases hloads with
  | usable hv hnone =>
    rw [hv, hnone]
    exact congrArg Except.ok (entriesOf_eq _)
  | caught hv hnone =>
    rw [hv, hnone]
    rfl
  | escaping hv hfault =>
    rw [hv, hfault]
    rfl

def packagePlaces (w : World) (package : Path) : List Path :=
  (entryNames w (join package PathLike.manifestName)).map (fun entry => normal (join package entry))
    ++ [package]

def packageFile? (w : World) (suffixes : List Text) (f : Family) (package : Path) : Option Path :=
  (packagePlaces w package).findSome? fun place => PathLike.probe w place suffixes f

def manifest? (w : World) (package : Path) : Option Path :=
  if w.isFile (join package PathLike.manifestName) then
    some (join package PathLike.manifestName)
  else none

theorem value_resolvePackage (w : World) (package : Path) (suffixes : List Text) (f : Family) :
    (PathLike.resolvePackage w package suffixes f).value =
      unlessFault ((manifest? w package).bind (escaping? w)) (packageFile? w suffixes f package) := by
  have hplaces : ∀ entries : List Text, (entries.findSome? fun entry =>
      PathLike.probe w (normal (join package entry)) suffixes f).or
        (PathLike.probe w package suffixes f) =
      ((entries.map fun entry => normal (join package entry)) ++ [package]).findSome?
        fun place => PathLike.probe w place suffixes f := by
    intro entries
    rw [List.findSome?_append, List.findSome?_map, List.findSome?_singleton]
    rfl
  unfold PathLike.resolvePackage packageFile? packagePlaces manifest?
  dsimp only
  split
  · have hentries := value_packageEntries w (join package PathLike.manifestName)
    rw [Option.bind_some]
    cases hfault : escaping? w (join package PathLike.manifestName) with
    | some fault =>
      rw [hfault] at hentries
      exact Search.value_bind_of_error hentries _
    | none =>
      rw [hfault] at hentries
      rw [Search.value_bind_of_ok hentries, ← hplaces]
      rfl
  · next hfile =>
    -- where no manifest stands, none is read
    obtain ⟨fault, hread⟩ := World.read_of_not_isFile (Bool.eq_false_iff.mpr hfile)
    simp only [entryNames, document?, hread]
    rw [← hplaces]
    rfl

def PointsTo (specifier : Text) : Prop :=
  specifier = ['.'] ∨ specifier = ['.', '.'] ∨
    ∃ start ∈ [['.', '/'], ['.', '.', '/'], ['/']], start <+: specifier

instance : DecidablePred PointsTo := fun _ => inferInstanceAs (Decidable (_ ∨ _ ∨ _))

theorem isRelative_iff : PathLike.isRelative specifier = true ↔ PointsTo specifier := by
  have habsolute : isAbsolute specifier = true ↔ ['/'] <+: specifier := by
    cases specifier with
    | nil => simp [isAbsolute]
    | cons x rest => simp [isAbsolute, List.cons_prefix_cons, eq_comm]
  simp only [PathLike.isRelative, Text.beginsWith, Bool.or_eq_true, decide_eq_true_eq,
    List.isPrefixOf_iff_prefix, habsolute, or_assoc]
  simp [PointsTo, here, parentName]

/-- Where a specifier is looked up: the places that come first, and the packages after them. -/
structure Bases where
  places : List Path
  packages : List Path

namespace Bases

/-- The bases of a specifier: the place that a relative or absolute one points to, or else the
places that it is mapped to, those below the roots, and the packages. -/
def of (specifier : Text) (file directory : Path) (mapped : List Path) (dirs : List Text)
    (f : Family) : Bases :=
  if PointsTo specifier then ⟨[normal (join (parent file) specifier)], []⟩
  else
    let roots := if f = .stylesheet then [parent file, directory] else [directory]
    ⟨mapped ++ roots.map fun root => join root specifier,
      dirs.map fun dir => join (join directory dir) specifier⟩

def file? (w : World) (suffixes : List Text) (f : Family) (b : Bases) : Option Path :=
  (b.places ++ b.packages.flatMap (packagePlaces w)).findSome? fun place =>
    PathLike.probe w place suffixes f

/-- The manifests that are read on the way to the first file. -/
def manifests (w : World) (suffixes : List Text) (f : Family) (b : Bases) : List Path :=
  if (b.places.findSome? fun place => PathLike.probe w place suffixes f).isSome then []
  else (upToFirst (packageFile? w suffixes f) b.packages).filterMap (manifest? w)

end Bases

theorem value_firstPackage (w : World) (suffixes : List Text) (f : Family) (packages : List Path) :
    (Search.first (fun package => PathLike.resolvePackage w package suffixes f) packages).value =
      unlessFault (((upToFirst (packageFile? w suffixes f) packages).filterMap
          (manifest? w)).findSome? (escaping? w))
        ((packages.flatMap (packagePlaces w)).findSome? fun place =>
          PathLike.probe w place suffixes f) := by
  rw [Search.value_first (value_resolvePackage w · suffixes f), ← List.head?_filterMap,
    ← List.filterMap_filterMap, List.head?_filterMap]
  congr 1
  induction packages with
  | nil => rfl
  | cons package rest ih =>
    rw [List.findSome?_cons, List.flatMap_cons, List.findSome?_append, ← ih, ← packageFile?]
    cases packageFile? w suffixes f package <;> rfl

structure Config.LooksAt (c : Config) (specifier : Text) (file directory : Path) (f : Family)
    (suffixes : List Text) (bases : Bases) : Prop where
  suffixes : c.suffixesFor f = .ok suffixes
  bases : ∃ mapped dirs, PathLike.mappedCandidates specifier directory c = .ok mapped ∧
    c.moduleDirs = .ok (dirs.map Except.ok) ∧
    bases = .of specifier file directory mapped dirs f

theorem Config.LooksAt.unique {suffixes' : List Text} {bases bases' : Bases}
    (h : c.LooksAt specifier file directory f suffixes bases)
    (h' : c.LooksAt specifier file directory f suffixes' bases') :
    suffixes = suffixes' ∧ bases = bases' := by
  obtain ⟨hsuffixes, mapped, dirs, hmapped, hdirs, rfl⟩ := h
  obtain ⟨hsuffixes', mapped', dirs', hmapped', hdirs', rfl⟩ := h'
  obtain rfl : mapped = mapped' := Except.ok.inj (hmapped.symm.trans hmapped')
  obtain rfl : dirs = dirs' :=
    List.map_injective_iff.mpr (fun _ _ => Except.ok.inj) (Except.ok.inj (hdirs.symm.trans hdirs'))
  exact ⟨Except.ok.inj (hsuffixes.symm.trans hsuffixes'), rfl⟩

/-- A search for a specifier that looks like a path finds what its bases lead to, unless one of the
manifests on the way gets through. -/
theorem PathLike.value_resolve {bases : Bases} (w : World)
    (h : c.LooksAt specifier file directory f suffixes bases) :
    (resolve w specifier file directory c f).value =
      unlessFault ((bases.manifests w suffixes f).findSome? (escaping? w))
        (bases.file? w suffixes f) := by
  obtain ⟨hsuffixes, mapped, dirs, hmapped, hdirs, rfl⟩ := h
  unfold resolve Bases.of searchRoots
  rw [Search.value_bind_of_ok hsuffixes]
  simp only [isRelative_iff]
  split
  · have hplace : (if isAbsolute specifier then specifier else join (parent file) specifier) =
        join (parent file) specifier := by
      split
      · next habsolute => rw [join_of_isAbsolute _ habsolute]
      · rfl
    simp only [hplace, Bases.manifests, Bases.file?, List.flatMap_nil, List.append_nil, upToFirst,
      List.filterMap_nil, ite_self, List.findSome?_nil, List.findSome?_singleton]
    rfl
  · -- a bare specifier
    have hpackages : (Search.ofExcept c.moduleDirs >>= fun dirs => Search.first (fun dir => do
          let package := join (join directory (← .ofExcept dir)) specifier
          resolvePackage w package suffixes f) dirs).value =
        (Search.first (fun package => resolvePackage w package suffixes f)
          (dirs.map fun dir => join (join directory dir) specifier)).value := by
      rw [Search.value_bind_of_ok hdirs, Search.first_map, Search.first_map]
      rfl
    rw [Search.value_bind_of_ok hmapped]
    simp only [Bases.manifests, Bases.file?, List.findSome?_append]
    rw [List.findSome?_map (f := fun root => join root specifier), Function.comp_def]
    cases mapped.findSome? fun candidate => probe w candidate suffixes f with
    | some found => rfl
    | none =>
      cases (if f = .stylesheet then [parent file, directory] else [directory]).findSome?
          fun root => probe w (join root specifier) suffixes f with
      | some found => rfl
      | none => exact hpackages.trans (value_firstPackage w suffixes f _)

theorem Config.WellTyped.exists_looksAt {o : Json.Object} (ho : WellTyped o) (specifier : Text)
    (file directory : Path) (f : Family) :
    ∃ suffixes bases, (ofObject o).LooksAt specifier file directory f suffixes bases := by
  obtain ⟨suffixes, hsuffixes⟩ := ho.exists_suffixes f
  obtain ⟨mapped, hmapped⟩ := ho.exists_mapped specifier directory
  obtain ⟨dirs, hdirs⟩ := ho.exists_moduleDirs
  exact ⟨suffixes, _, hsuffixes, mapped, dirs, hmapped, hdirs, rfl⟩

theorem Config.LooksAt.value_resolve {bases : Bases} (w : World)
    (h : c.LooksAt specifier file directory ((Family.of? file).getD .script) suffixes bases)
    (hfamily : Family.of? file ≠ some .python) :
    let family := (Family.of? file).getD .script
    (resolve w specifier file directory c).value =
      unlessFault ((bases.manifests w suffixes family).findSome? (escaping? w))
        ((bases.file? w suffixes family).map w.absolute) := by
  intro family
  rw [value_resolve_eq_map, familySearch_of_ne_python hfamily, PathLike.value_resolve w h]
  unfold unlessFault
  cases (bases.manifests w suffixes family).findSome? (escaping? w) <;> rfl

end Resolution

namespace Settings

end Settings

namespace Run

open Resolution

variable {w : World} {config : Json.Value} {s : Settings} {fault : ConfigFile.Fault}

end Run

namespace Resolution

namespace OnePackage

def world (bytes : Text.Utf8.Bytes) : World where
  files := ⟨[(["node_modules".toList], .directory),
    (["pkg".toList, "node_modules".toList], .directory),
    (["package.json".toList, "pkg".toList, "node_modules".toList], .file bytes),
    (["index.js".toList, "pkg".toList, "node_modules".toList], .file []),
    ([['c']], .file bytes)]⟩
  workingDirectory := ['/']
  environment := .empty
  nesting := 100
  isCharacterName _ := false

def index : Path := "/node_modules/pkg/index.js".toList

def json : Json.Value := .obj [(Settings.Field.resolverConfigPath.key, .str ['c'])]

def settings : Settings := { Settings.default ['/'] with resolverConfigPath := ['c'] }

theorem looksAt : (Config.ofObject []).LooksAt "pkg".toList ['/', 'a'] ['/'] .script
    Family.script.suffixes (.of "pkg".toList ['/', 'a'] ['/'] [] ["node_modules".toList] .script) :=
  ⟨rfl, [], ["node_modules".toList], by decide +kernel, rfl, rfl⟩

end OnePackage

end Resolution
end ModuleGraph
