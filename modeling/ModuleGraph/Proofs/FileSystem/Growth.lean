import ModuleGraph.Proofs.Resolution.Found

/-! Files come and go while the directories stay. A walk along a path looks at directories only, so
what was a file stays one where files are added. A file below a path shows that the path is a
directory. -/

namespace ModuleGraph

open ModuleGraph.Path

namespace FileSystem

variable {fs fs' : FileSystem} {loc loc' : Location} {p base n : Path}

def HasFile (fs : FileSystem) (loc : Location) : Prop :=
  ∃ e, fs.entry? loc = some e ∧ e ≠ .directory

/-- The directories stay, and no file is taken away. What stands in the files is left open. -/
structure Grows (fs fs' : FileSystem) : Prop where
  directories : ∀ loc, fs'.entry? loc = some .directory ↔ fs.entry? loc = some .directory
  files : ∀ loc, fs.HasFile loc → fs'.HasFile loc

theorem entry?_cons (e : Entry) (hloc : loc ≠ []) : entry? ⟨(loc, e) :: fs.entries⟩ loc' =
    if loc' = loc then some e else fs.entry? loc' := by
  unfold entry?
  by_cases h : loc' = loc
  · simp [h, hloc]
  · simp [h, Ne.symm h]

theorem Grows.cons {e : Entry} (hloc : loc ≠ []) (hfree : fs.entry? loc = none)
    (he : e ≠ .directory) : fs.Grows ⟨(loc, e) :: fs.entries⟩ := by
  constructor
  · intro other
    rw [entry?_cons e hloc]
    split
    · next heq => simp [heq, hfree, he]
    · rfl
  · rintro other ⟨found, hfound, hfile⟩
    refine ⟨found, ?_, hfile⟩
    rw [entry?_cons e hloc, if_neg, hfound]
    rintro rfl
    cases hfound.symm.trans hfree

theorem Grows.walk (h : fs.Grows fs') {parts : List Text}
    (hwalk : parts.foldlM fs.step loc = .ok loc') : parts.foldlM fs'.step loc = .ok loc' := by
  induction parts generalizing loc with
  | nil => exact hwalk
  | cons part rest ih =>
    rw [List.foldlM_cons] at hwalk ⊢
    cases hstep : fs.step loc part with
    | error fault =>
      rw [hstep] at hwalk
      cases hwalk
    | ok next =>
      rw [hstep] at hwalk
      obtain ⟨hdirectory, hnext⟩ := step_eq_ok_iff.mp hstep
      rw [step_eq_ok_iff.mpr ⟨(h.directories loc).mpr hdirectory, hnext⟩]
      exact ih hwalk

theorem components_join (hbase : base ≠ []) (hn : isAbsolute n = false) :
    ∃ parts, components (join base n) = parts ++ components n ∧
      (components base = parts ∨ components base = parts ++ [[]]) := by
  unfold join
  rw [if_neg (by simp [hn])]
  split
  · next hend =>
    obtain ⟨outer, rfl⟩ : ∃ outer, base = outer ++ ['/'] := by
      have hlast : base.getLast? = some '/' := by simpa [hbase] using hend
      exact ⟨base.dropLast, (List.dropLast_append_getLast? _ hlast).symm⟩
    refine ⟨components outer, ?_, Or.inr ?_⟩
    · rw [List.append_assoc]
      exact Text.fields_append_cons '/' outer n
    · exact Text.fields_append_cons '/' outer []
  · exact ⟨components base, Text.fields_append_cons '/' base n, Or.inl rfl⟩

theorem lookup_of_lookup_join {e : Entry} (hbase : base ≠ []) (hn : isAbsolute n = false)
    (h : fs.lookup (join base n) = .ok (loc, e)) :
    ∃ outer, fs.lookup base = .ok (outer, .directory) := by
  obtain ⟨-, hnul, hwalk, -⟩ := lookup_eq_ok_iff.mp h
  have hnul' : '\x00' ∉ base := fun hmem => hnul (by unfold join; split_ifs <;> simp_all)
  obtain ⟨parts, hjoin, hcomponents⟩ := components_join hbase hn
  obtain ⟨part, rest, hcons⟩ := List.exists_cons_of_ne_nil (Text.fields_ne_nil '/' n)
  rw [hjoin, components, hcons, List.foldlM_append] at hwalk
  cases houter : parts.foldlM fs.step [] with
  | error fault =>
    rw [houter] at hwalk
    cases hwalk
  | ok outer =>
    rw [houter] at hwalk
    have hdirectory : fs.entry? outer = some .directory := by
      cases hstep : fs.step outer part with
      | error fault =>
        simp only [bind, Except.bind, List.foldlM_cons, hstep] at hwalk
        cases hwalk
      | ok next => exact (step_eq_ok_iff.mp hstep).1
    refine ⟨outer, lookup_eq_ok_iff.mpr ⟨hbase, hnul', ?_, hdirectory⟩⟩
    rcases hcomponents with hcomponents | hcomponents
    · rw [hcomponents, houter]
    · rw [hcomponents, List.foldlM_append, houter]
      simp [bind, Except.bind, pure, Except.pure, step, hdirectory]

end FileSystem

namespace World

variable {w w' : World} {p base n : Path}

structure Grows (w w' : World) : Prop where
  workingDirectory : w'.workingDirectory = w.workingDirectory
  files : w.files.Grows w'.files

theorem Grows.absolute (h : w.Grows w') : w'.absolute = w.absolute := by
  unfold World.absolute
  rw [h.workingDirectory]

theorem Grows.isFile (h : w.Grows w') (hp : w.isFile p = true) : w'.isFile p = true := by
  obtain ⟨loc, e, hlookup, hfile⟩ := isFile_iff.mp hp
  unfold lookup at hlookup
  split at hlookup
  · cases hlookup
  next hne =>
  obtain ⟨hne', hnul, hwalk, hentry⟩ := FileSystem.lookup_eq_ok_iff.mp hlookup
  obtain ⟨e', hentry', hfile'⟩ := h.files.files loc ⟨e, hentry, hfile⟩
  refine isFile_iff.mpr ⟨loc, e', ?_, hfile'⟩
  rw [lookup, if_neg hne, h.workingDirectory]
  exact FileSystem.lookup_eq_ok_iff.mpr ⟨hne', hnul, h.files.walk hwalk, hentry'⟩

theorem isDirectory_of_isFile_join (hbase : isAbsolute base = true) (hn : isAbsolute n = false)
    (h : w.isFile (join base n) = true) : w.isDirectory base = true := by
  obtain ⟨loc, e, hlookup, -⟩ := isFile_iff.mp h
  rw [lookup_of_isAbsolute (isAbsolute_join n hbase)] at hlookup
  have hne : base ≠ [] := by rintro rfl; cases hbase
  obtain ⟨outer, houter⟩ := FileSystem.lookup_of_lookup_join hne hn hlookup
  rw [isDirectory, lookup_of_isAbsolute hbase, houter]

end World
end ModuleGraph
