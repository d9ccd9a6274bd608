import ModuleGraph.FileSystem.World
import ModuleGraph.Proofs.Path.Normal

/-! Looking a path up and taking its normal form come to the same place: where the walk along an
absolute path succeeds, it ends at the location that the names of the path make, and so does the
walk along its normal form. -/

namespace ModuleGraph

open ModuleGraph.Path

namespace FileSystem

variable {fs : FileSystem} {loc loc' : Location}

/-- A location to which the walk can come: all that it lies in are directories. -/
def Standing (fs : FileSystem) : Location → Prop
  | [] => True
  | _ :: outer => fs.entry? outer = some .directory ∧ Standing fs outer

theorem Standing.tail (h : fs.Standing loc) : fs.Standing loc.tail := by
  cases loc with
  | nil => trivial
  | cons _ _ => exact h.2

theorem step_eq_ok_iff {part : Text} : fs.step loc part = .ok loc' ↔
    fs.entry? loc = some .directory ∧ loc' =
      if part.isEmpty || part = here then loc
      else if part = parentName then loc.tail
      else part :: loc := by
  unfold step
  split
  · next hnone => simp [hnone]
  · next hdirectory => split_ifs <;> simp [hdirectory, eq_comm]
  · next e hne he =>
    simp only [he, Option.some.injEq, reduceCtorEq, false_iff, not_and]
    exact fun hdirectory => (hne hdirectory).elim

theorem step_eq_push {part : Text} (h : fs.step loc part = .ok loc')
    (hnames : ∀ n ∈ loc, IsName n) (hstanding : fs.Standing loc) :
    loc' = push true loc part ∧ fs.Standing loc' := by
  obtain ⟨hdirectory, rfl⟩ := step_eq_ok_iff.mp h
  unfold push
  split
  · exact ⟨rfl, hstanding⟩
  · split
    · refine ⟨?_, hstanding.tail⟩
      cases loc with
      | nil => rfl
      | cons top outer =>
        have htop := (hnames top List.mem_cons_self).ne_parentName
        simp [htop]
    · exact ⟨rfl, hdirectory, hstanding⟩

/-- Where the walk along some components succeeds, it ends where their normal form does. -/
theorem walk_eq_push {parts : List Text} (h : parts.foldlM fs.step loc = .ok loc')
    (hparts : ∀ part ∈ parts, '/' ∉ part) (hnames : ∀ n ∈ loc, IsName n)
    (hstanding : fs.Standing loc) : loc' = parts.foldl (push true) loc ∧ fs.Standing loc' := by
  induction parts generalizing loc with
  | nil =>
    cases h
    exact ⟨rfl, hstanding⟩
  | cons part rest ih =>
    obtain ⟨hpart, hrest⟩ := List.forall_mem_cons.mp hparts
    rw [List.foldlM_cons] at h
    cases hstep : fs.step loc part with
    | error e =>
      rw [hstep] at h
      cases h
    | ok next =>
      rw [hstep] at h
      obtain ⟨rfl, hnext⟩ := step_eq_push hstep hnames hstanding
      exact ih h hrest (isName_of_mem_push hnames hpart) hnext

theorem walk_names (hnames : ∀ n ∈ loc, IsName n) (hstanding : fs.Standing loc) :
    loc.reverse.foldlM fs.step [] = .ok loc := by
  induction loc with
  | nil => rfl
  | cons n outer ih =>
    obtain ⟨hn, houter⟩ := List.forall_mem_cons.mp hnames
    rw [List.reverse_cons, List.foldlM_append, ih houter hstanding.2]
    simp [bind, Except.bind, pure, Except.pure, step, hstanding.1, hn.ne_nil, hn.ne_here,
      hn.ne_parentName]

theorem walk_replicate (k : Nat) : (List.replicate k []).foldlM fs.step [] = .ok [] := by
  induction k with
  | zero => rfl
  | succ k ih =>
    rw [List.replicate_succ, List.foldlM_cons]
    exact ih

theorem lookup_eq_ok_iff {p : Path} {e : Entry} : fs.lookup p = .ok (loc, e) ↔
    p ≠ [] ∧ '\x00' ∉ p ∧ (components p).foldlM fs.step [] = .ok loc ∧ fs.entry? loc = some e := by
  unfold lookup
  by_cases hne : p = []
  · simp [hne]
  by_cases hnul : '\x00' ∈ p
  · simp [hnul]
  rw [if_neg (by simp [hne, hnul])]
  cases hwalk : (components p).foldlM fs.step [] with
  | error fault => simp [bind, Except.bind]
  | ok last =>
    cases hentry : fs.entry? last with
    | none => simp only [bind, Except.bind, hentry]; grind
    | some found => simp only [bind, Except.bind, hentry]; grind

/-- An absolute path that leads somewhere leads to the location that its names make. -/
theorem lookup_eq_names {p : Path} {e : Entry} (h : fs.lookup p = .ok (loc, e)) :
    loc = names p ∧ fs.Standing loc ∧ fs.entry? loc = some e ∧ '\x00' ∉ p := by
  obtain ⟨-, hnul, hwalk, hentry⟩ := lookup_eq_ok_iff.mp h
  obtain ⟨hend, hstanding⟩ := walk_eq_push hwalk
    (fun part hpart hslash => (Text.mem_of_mem_fields hpart hslash).2 rfl) (by simp) trivial
  exact ⟨hend, hstanding, hentry, hnul⟩

theorem lookup_spelled (twice : Bool) {e : Entry} (hnames : ∀ n ∈ loc, IsName n)
    (hnul : ∀ n ∈ loc, '\x00' ∉ n) (hstanding : fs.Standing loc) (hentry : fs.entry? loc = some e) :
    fs.lookup (spelled twice loc) = .ok (loc, e) := by
  have hread : (spelled twice loc).contains '\x00' = false := by
    simpa using not_mem_spelled (by decide) twice hnul
  have hne : (spelled twice loc).isEmpty = false := by cases twice <;> rfl
  obtain ⟨k, hk⟩ := components_spelled twice hnames
  rw [lookup, hread, hne, hk, List.foldlM_append, walk_replicate]
  simp only [Bool.or_false, Bool.false_eq_true, if_false, bind, Except.bind,
    walk_names hnames hstanding, hentry]

theorem lookup_normal {p : Path} (habs : isAbsolute p = true) {e : Entry}
    (h : fs.lookup p = .ok (loc, e)) : fs.lookup (normal p) = .ok (loc, e) := by
  obtain ⟨rfl, hstanding, hentry, hnul⟩ := lookup_eq_names h
  obtain ⟨twice, -, hnormal⟩ := normal_eq_spelled habs
  rw [hnormal]
  exact lookup_spelled twice (fun n hn => isName_of_mem_names hn)
    (fun n hn => not_mem_of_mem_names hnul hn) hstanding hentry

end FileSystem

namespace World

variable {w : World}

theorem lookup_of_isAbsolute {p : Path} (h : isAbsolute p = true) :
    w.lookup p = w.files.lookup p := by
  have hne : p.isEmpty = false := by cases p <;> simp_all [isAbsolute]
  rw [lookup, hne, join_of_isAbsolute _ h]
  rfl

theorem canonical_of_anchor {anchor : Path} (h : isAbsolute anchor = true) (p : Path) :
    w.canonical p (some anchor) = normal (join anchor p) := by
  cases anchor with
  | nil => cases h
  | cons _ _ => rfl

theorem canonical_of_isAbsolute {p : Path} {anchor : Option Path} (h : isAbsolute p = true) :
    w.canonical p anchor = normal p := by
  unfold canonical
  split
  · rw [Path.canonical, join_of_isAbsolute _ h]
  · rw [Path.canonical, join_of_isAbsolute _ h]

theorem isAbsolute_absolute (h : isAbsolute w.workingDirectory = true) (p : Path) :
    isAbsolute (w.absolute p) = true := by
  unfold absolute Path.absolute
  split
  · next hp => exact isAbsolute_normal hp
  · exact isAbsolute_normal (isAbsolute_join p h)

theorem exists_lookup {p : Path} (habs : isAbsolute p = true) (h : w.pathExists p = true) :
    ∃ loc e, w.files.lookup p = .ok (loc, e) := by
  rw [pathExists, lookup_of_isAbsolute habs] at h
  cases hlookup : w.files.lookup p with
  | error e => simp [hlookup, Except.isOk, Except.toBool] at h
  | ok found => exact ⟨found.1, found.2, rfl⟩

theorem lookup_normal {p : Path} (habs : isAbsolute p = true) (h : w.pathExists p = true) :
    w.lookup (normal p) = w.lookup p := by
  obtain ⟨loc, e, hlookup⟩ := exists_lookup habs h
  rw [lookup_of_isAbsolute (isAbsolute_normal habs), lookup_of_isAbsolute habs, hlookup]
  exact FileSystem.lookup_normal habs hlookup

theorem pathExists_normal {p : Path} (habs : isAbsolute p = true) (h : w.pathExists p = true) :
    w.pathExists (normal p) = true := by
  rw [pathExists, lookup_normal habs h]
  exact h

/-- Paths that are their own normal forms and lead to the same place are equal, but for the slashes
with which they begin. -/
theorem eq_of_lookup {a b : Path} {loc : Location} {e e' : Entry} (ha : isAbsolute a = true)
    (hb : isAbsolute b = true) (hna : normal a = a) (hnb : normal b = b)
    (hla : w.files.lookup a = .ok (loc, e)) (hlb : w.files.lookup b = .ok (loc, e'))
    (hslashes : leadingSlashes a = leadingSlashes b) : a = b := by
  obtain ⟨hnames, -, -, -⟩ := FileSystem.lookup_eq_names hla
  obtain ⟨hnames', -, -, -⟩ := FileSystem.lookup_eq_names hlb
  obtain ⟨twice, htwice, hspelled⟩ := normal_eq_spelled ha
  obtain ⟨twice', htwice', hspelled'⟩ := normal_eq_spelled hb
  have hsame : slashes twice = slashes twice' := by rw [← htwice, ← htwice', hslashes]
  calc a = slashes twice ++ Text.joined ['/'] (names a).reverse := hna.symm.trans hspelled
    _ = slashes twice' ++ Text.joined ['/'] (names b).reverse := by rw [hsame, ← hnames, hnames']
    _ = b := hspelled'.symm.trans hnb

end World
end ModuleGraph
