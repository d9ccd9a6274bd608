import ModuleGraph.Resolution.Resolve

/-! What a search gives, apart from the notes that it leaves: of one step after another, of a search
among some elements, and of the search for a specifier. -/

namespace ModuleGraph.Resolution

variable {α β γ : Type} {w : World} {specifier : Text} {file directory p : Path} {c : Config}

def unlessFault (fault? : Option Fault) (a : α) : Except Fault α :=
  match fault? with
  | some fault => .error fault
  | none => .ok a

def upToFirst (found? : α → Option β) : List α → List α
  | [] => []
  | a :: rest => a :: if (found? a).isSome then [] else upToFirst found? rest

theorem upToFirst_subset (found? : α → Option β) (as : List α) : upToFirst found? as ⊆ as := by
  induction as with
  | nil => exact List.Subset.refl []
  | cons a rest ih =>
    rw [upToFirst]
    split
    · simp
    · exact List.cons_subset_cons a ih

namespace Search

theorem of_bind {search : Search α} {next : α → Search β} {b : β}
    (h : (search >>= next).value = .ok b) :
    ∃ a, search.value = .ok a ∧ (next a).value = .ok b := by
  simp only [bind, Search.bind] at h
  split at h
  · cases h
  · next a ha => exact ⟨a, ha, h⟩

theorem value_bind_of_ok {search : Search α} {a : α} (h : search.value = .ok a)
    (next : α → Search β) : (search >>= next).value = (next a).value := by
  simp only [bind, Search.bind, h]

theorem value_bind_of_error {search : Search α} {fault : Fault} (h : search.value = .error fault)
    (next : α → Search β) : (search >>= next).value = .error fault := by
  simp only [bind, Search.bind, h]

theorem value_bind_map {search : Search α} {next : α → Search β} {g : α → β}
    (h : ∀ a, (next a).value = .ok (g a)) : (search >>= next).value = search.value.map g := by
  cases hvalue : search.value with
  | error fault => exact value_bind_of_error hvalue next
  | ok a => rw [value_bind_of_ok hvalue, h, Except.map]

theorem first_map (f : β → Search (Option γ)) (g : α → β) (as : List α) :
    first f (as.map g) = first (fun a => f (g a)) as := by
  induction as with
  | nil => rfl
  | cons a rest ih => rw [List.map_cons, first, first, ih]

/-- A search among some elements finds what the first of them leads to that leads to something,
unless there is a fault in it or before it. -/
theorem value_first {f : α → Search (Option β)} {found? : α → Option β} {fault? : α → Option Fault}
    (hf : ∀ a, (f a).value = unlessFault (fault? a) (found? a)) (as : List α) :
    (first f as).value =
      unlessFault ((upToFirst found? as).findSome? fault?) (as.findSome? found?) := by
  induction as with
  | nil => rfl
  | cons a rest ih =>
    have ha := hf a
    rw [first, upToFirst, List.findSome?_cons, List.findSome?_cons]
    cases hfault : fault? a with
    | some fault =>
      rw [hfault] at ha
      exact value_bind_of_error ha _
    | none =>
      rw [hfault] at ha
      rw [value_bind_of_ok ha]
      cases found? a with
      | some b => rfl
      | none => exact ih

end Search

def familySearch (w : World) (specifier : Text) (file directory : Path) (c : Config) :
    Search (Option Path) :=
  match (Family.of? file).getD .script with
  | .python => Dotted.resolve w specifier file directory c
  | f => PathLike.resolve w specifier file directory c f

theorem familySearch_of_python (hfamily : Family.of? file = some .python) :
    familySearch w specifier file directory c = Dotted.resolve w specifier file directory c := by
  rw [familySearch, hfamily]
  rfl

theorem familySearch_of_ne_python (hfamily : Family.of? file ≠ some .python) :
    familySearch w specifier file directory c =
      PathLike.resolve w specifier file directory c ((Family.of? file).getD .script) := by
  unfold familySearch
  split
  · next hpython =>
    cases hof : Family.of? file with
    | none => simp [hof] at hpython
    | some f =>
      rw [hof] at hpython hfamily
      exact absurd (congrArg some hpython) hfamily
  · rfl

theorem value_resolve_eq_map (w : World) (specifier : Text) (file directory : Path) (c : Config) :
    (resolve w specifier file directory c).value =
      (familySearch w specifier file directory c).value.map (Option.map w.absolute) := by
  unfold resolve familySearch
  dsimp only
  generalize (Family.of? file).getD .script = family
  cases family
  all_goals
    refine Search.value_bind_map fun found => ?_
    cases found <;> rfl

theorem exists_of_resolve (h : (resolve w specifier file directory c).value = .ok (some p)) :
    ∃ found, (familySearch w specifier file directory c).value = .ok (some found) ∧
      p = w.absolute found := by
  rw [value_resolve_eq_map] at h
  cases hvalue : (familySearch w specifier file directory c).value with
  | error fault =>
    rw [hvalue] at h
    cases h
  | ok found =>
    rw [hvalue] at h
    obtain ⟨found, rfl, rfl⟩ := Option.map_eq_some_iff.mp (Except.ok.inj h)
    exact ⟨found, rfl, rfl⟩

end ModuleGraph.Resolution
