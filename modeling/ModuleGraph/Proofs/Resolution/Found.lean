import ModuleGraph.Proofs.Resolution.Search
import ModuleGraph.Proofs.Walk.Context

/-! What the resolver finds is a file. A candidate is tested as it is spelled, with all its dots and
slashes, and given as its absolute normal form; the two lead to the same entry. -/

namespace ModuleGraph

open ModuleGraph.Path

namespace World

variable {w : World} {p : Path} {loc : Location} {e : Entry}

theorem lookup_absolute (hcwd : isAbsolute w.workingDirectory = true)
    (h : w.lookup p = .ok (loc, e)) :
    w.lookup (w.absolute p) = .ok (loc, e) ∧ normal (w.absolute p) = w.absolute p := by
  have habsolute : w.absolute p = normal (join w.workingDirectory p) := by
    unfold absolute Path.absolute
    split
    · next hp => rw [join_of_isAbsolute _ hp]
    · rfl
  have hjoin : isAbsolute (join w.workingDirectory p) = true := isAbsolute_join p hcwd
  have hlookup : w.files.lookup (join w.workingDirectory p) = .ok (loc, e) := by
    unfold lookup at h
    split at h
    · cases h
    · exact h
  rw [habsolute, lookup_of_isAbsolute (isAbsolute_normal hjoin)]
  exact ⟨FileSystem.lookup_normal hjoin hlookup, normal_normal hjoin⟩

theorem isFile_iff : w.isFile p = true ↔ ∃ loc e, w.lookup p = .ok (loc, e) ∧ e ≠ .directory := by
  unfold isFile
  cases w.lookup p with
  | error fault => simp
  | ok found => cases found with | mk loc e => cases e <;> simp

theorem not_mem_of_isFile (h : w.isFile p = true) : '\x00' ∉ p := by
  obtain ⟨loc, e, hlookup, -⟩ := isFile_iff.mp h
  unfold lookup at hlookup
  split at hlookup
  · cases hlookup
  · obtain ⟨-, hnul, -⟩ := FileSystem.lookup_eq_ok_iff.mp hlookup
    exact fun hmem => hnul (by unfold join; split_ifs <;> simp [hmem])

theorem isDirectory_of_isFile (h : w.isFile p = true) : w.isDirectory p = false := by
  obtain ⟨loc, e, hlookup, hfile⟩ := isFile_iff.mp h
  unfold isDirectory
  split
  · next hdirectory =>
    rw [hdirectory] at hlookup
    cases hlookup
    exact absurd rfl hfile
  · rfl

theorem pathExists_of_isFile (h : w.isFile p = true) : w.pathExists p = true := by
  obtain ⟨loc, e, hlookup, -⟩ := isFile_iff.mp h
  rw [pathExists, hlookup]
  rfl

end World

namespace Resolution

variable {w : World} {α : Type} {search : Search (Option Path)} {base file directory p : Path}
  {suffixes : List Text} {f : Family} {specifier : Text} {c : Config}

/-- Whatever the search finds is a file. -/
def Search.FindsFiles (w : World) (search : Search (Option Path)) : Prop :=
  ∀ p, search.value = .ok (some p) → w.isFile p = true

namespace Search.FindsFiles

theorem pure {found : Option Path} (h : ∀ p, found = some p → w.isFile p = true) :
    FindsFiles w (Pure.pure found) :=
  fun p hp => h p (Except.ok.inj hp)

theorem bind {x : Search α} {next : α → Search (Option Path)} (h : ∀ a, FindsFiles w (next a)) :
    FindsFiles w (x >>= next) := by
  intro p hp
  obtain ⟨a, -, ha⟩ := Search.of_bind hp
  exact h a p ha

theorem first {f : α → Search (Option Path)} (h : ∀ a, FindsFiles w (f a)) (as : List α) :
    FindsFiles w (Search.first f as) := by
  induction as with
  | nil => exact pure fun p hp => by cases hp
  | cons a rest ih =>
    refine fun p hp => ?_
    obtain ⟨found, hfound, hrest⟩ := Search.of_bind hp
    cases found with
    | none => exact ih p hrest
    | some p' => exact h a p (hfound.trans hrest)

end Search.FindsFiles

theorem isFile_of_firstFile {candidates : List Path} (h : firstFile w candidates = some p) :
    w.isFile p = true :=
  List.find?_some h

theorem isFile_of_findSome? {places : List Path} {find : Path → Option Path}
    (hfind : ∀ place, find place = some p → w.isFile p = true)
    (h : places.findSome? find = some p) : w.isFile p = true := by
  obtain ⟨place, -, hplace⟩ := List.exists_of_findSome?_eq_some h
  exact hfind place hplace

namespace PathLike

theorem isFile_of_probe (h : probe w base suffixes f = some p) : w.isFile p = true := by
  unfold probe at h
  split at h
  · next hfound =>
    obtain rfl := Option.some.inj h
    exact isFile_of_firstFile hfound
  · split at h
    · exact isFile_of_firstFile h
    · cases h

theorem resolvePackage_findsFiles (w : World) (package : Path) (suffixes : List Text) (f : Family) :
    (resolvePackage w package suffixes f).FindsFiles w := by
  unfold resolvePackage
  dsimp only
  split
  all_goals
    refine .bind fun entries => .pure fun p hp => ?_
    rcases Option.or_eq_some_iff.mp hp with hp | ⟨-, hp⟩
    · obtain ⟨entry, -, hentry⟩ := List.exists_of_findSome?_eq_some hp
      exact isFile_of_probe hentry
    · exact isFile_of_probe hp

theorem resolve_findsFiles (w : World) (specifier : Text) (file directory : Path) (c : Config)
    (f : Family) : (resolve w specifier file directory c f).FindsFiles w := by
  refine .bind fun suffixes => ?_
  dsimp only
  split
  · -- a relative or absolute specifier
    exact .pure fun p => isFile_of_probe
  · refine .bind fun mapped => ?_
    split
    · next hfound =>
      refine .pure fun p hp => ?_
      obtain rfl := Option.some.inj hp
      exact isFile_of_findSome? (fun _ => isFile_of_probe) hfound
    · split
      · next hfound =>
        refine .pure fun p hp => ?_
        obtain rfl := Option.some.inj hp
        exact isFile_of_findSome? (fun _ => isFile_of_probe) hfound
      · exact .bind fun dirs => .first (fun dir => .bind fun _ =>
          resolvePackage_findsFiles w _ suffixes f) dirs

end PathLike

namespace Dotted

theorem isFile_of_locate {parts : List Text} (h : locate w base parts suffixes = some p) :
    w.isFile p = true := by
  unfold locate at h
  dsimp only at h
  split at h
  · next hfound =>
    obtain rfl := Option.some.inj h
    exact isFile_of_firstFile hfound
  · exact isFile_of_firstFile h

theorem isFile_of_relative {level : Nat} {parts : List Text}
    (h : relative w level parts file suffixes = some p) : w.isFile p = true := by
  unfold relative at h
  dsimp only at h
  split at h
  · next hfound =>
    obtain rfl := Option.some.inj h
    exact isFile_of_locate hfound
  · split at h
    · exact isFile_of_locate (Option.filter_eq_some_iff.mp h).1
    · cases h

theorem resolve_findsFiles (w : World) (specifier : Text) (file directory : Path) (c : Config) :
    (resolve w specifier file directory c).FindsFiles w := by
  refine .bind fun suffixes => ?_
  dsimp only
  split
  · exact .bind fun more => .pure fun p => isFile_of_findSome? fun _ => isFile_of_locate
  · exact .pure fun p => isFile_of_relative

end Dotted

theorem familySearch_findsFiles (w : World) (specifier : Text) (file directory : Path)
    (c : Config) : (familySearch w specifier file directory c).FindsFiles w := by
  unfold familySearch
  split
  · exact Dotted.resolve_findsFiles w specifier file directory c
  · exact PathLike.resolve_findsFiles w specifier file directory c _

/-- An absolute path in normal form, of a file that is no directory. -/
structure Sound (w : World) (p : Path) : Prop where
  isAbsolute : isAbsolute p = true
  normal : normal p = p
  isFile : w.isFile p = true
  isDirectory : w.isDirectory p = false

theorem sound_of_resolve (hcwd : isAbsolute w.workingDirectory = true)
    (h : (resolve w specifier file directory c).value = .ok (some p)) : Sound w p := by
  obtain ⟨found, hfound, rfl⟩ := exists_of_resolve h
  obtain ⟨loc, e, hlookup, hentry⟩ :=
    World.isFile_iff.mp (familySearch_findsFiles w specifier file directory c found hfound)
  obtain ⟨habsolute, hnormal⟩ := World.lookup_absolute hcwd hlookup
  have hfile := World.isFile_iff.mpr ⟨loc, e, habsolute, hentry⟩
  exact ⟨World.isAbsolute_absolute hcwd found, hnormal, hfile,
    World.isDirectory_of_isFile hfile⟩

end Resolution

theorem Walk.Context.Fits.resolve_eq_ok_iff {w : World} {o : Walk.Options} {x : Walk.Context}
    (hx : Walk.Context.Fits w o x) (hresolver : o.resolver = .absent) {specifier : Text}
    {file : Path} {found : Option Path} :
    (x.collaborators.resolve specifier file).value = .ok found ↔
      (Resolution.resolve w specifier file x.directory (.ofObject o.resolverConfig)).value =
        .ok found := by
  simp only [hx.resolve hresolver, Walk.Options.bundledResolver]
  cases (Resolution.resolve w specifier file x.directory (.ofObject o.resolverConfig)).value <;>
    simp [Except.mapError]

end ModuleGraph
