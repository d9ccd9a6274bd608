import ModuleGraph.Resolution.PathLike

/-! Settings of the right kinds. None of them is at fault: they give the suffixes that are tried,
the places that a specifier is mapped to, and the directories that are searched. -/

namespace ModuleGraph.Resolution

open ModuleGraph.Path
open Json (Value)

theorem exists_filterMapM {α β ε : Type} {f : α → Except ε (Option β)} {as : List α}
    (h : ∀ a ∈ as, ∃ found, f a = .ok found) : ∃ bs, as.filterMapM f = .ok bs := by
  induction as with
  | nil => exact ⟨[], rfl⟩
  | cons a rest ih =>
    obtain ⟨⟨found, hfound⟩, hrest⟩ := List.forall_mem_cons.mp h
    obtain ⟨bs, hbs⟩ := ih hrest
    rw [List.filterMapM_cons, hfound]
    cases found with
    | none => exact ⟨bs, hbs⟩
    | some b => exact ⟨b :: bs, by simp only [hbs, bind, Except.bind, pure, Except.pure]⟩

theorem exists_bind {α β ε : Type} {x : Except ε α} {f : α → Except ε β} (hx : ∃ a, x = .ok a)
    (hf : ∀ a, x = .ok a → ∃ b, f a = .ok b) : ∃ b, (x >>= f) = .ok b := by
  obtain ⟨a, ha⟩ := hx
  obtain ⟨b, hb⟩ := hf a ha
  exact ⟨b, by rw [ha]; exact hb⟩

theorem PathLike.exists_patternTargets {pattern specifier : Text} {targets : List Text}
    {found : Setting (List Text)}
    (h : patternTargets? pattern specifier (.ok targets) = some found) : ∃ ts, found = .ok ts := by
  unfold patternTargets? at h
  split at h
  · obtain ⟨star, -, rfl⟩ := Option.map_eq_some_iff.mp h
    exact ⟨_, rfl⟩
  · split at h
    · exact ⟨targets, (Option.some.inj h).symm⟩
    · cases h

namespace Config

def IsTexts (v : Value) : Prop := ∃ texts : List Text, v = .arr (texts.map .str)

/-- Settings whose members are of the right kinds, as far as they are there. -/
structure WellTyped (o : Json.Object) : Prop where
  extensions : ∀ v, switchedOn? o "extensions" = some v → IsTexts v
  aliases : ∀ v, switchedOn? o "aliases" = some v →
    ∃ table, v = .obj table ∧ ∀ m ∈ table, ∃ target, m.2 = .str target
  baseUrl : ∀ v, Table.get? o "base_url".toList = some v → ∃ place, v = .str place
  paths : ∀ v, switchedOn? o "paths" = some v →
    ∃ table, v = .obj table ∧ ∀ m ∈ table, (∃ target, m.2 = .str target) ∨ IsTexts m.2
  moduleDirs : ∀ v, Table.get? o "module_dirs".toList = some v → IsTexts v
  pythonPaths : ∀ v, Table.get? o "python_paths".toList = some v → IsTexts v

theorem mapM_str {item : Value → Setting Text} (hitem : ∀ s, item (.str s) = .ok s)
    (ts : List Text) : (ts.map Value.str).mapM item = .ok ts := by
  induction ts with
  | nil => rfl
  | cons t rest ih =>
    rw [List.map_cons, List.mapM_cons, hitem, ih]
    rfl

theorem exists_texts {item : Value → Setting Text} (hitem : ∀ s, item (.str s) = .ok s) {v : Value}
    (h : IsTexts v) : ∃ ts, texts item v = .ok ts := by
  obtain ⟨ts, rfl⟩ := h
  exact ⟨ts, mapM_str hitem ts⟩

theorem exists_targets (pattern : Text) {v : Value} (h : (∃ t, v = .str t) ∨ IsTexts v) :
    ∃ ts, targets pattern v = .ok ts := by
  rcases h with ⟨t, rfl⟩ | htexts
  · exact ⟨[t], rfl⟩
  · have hitem : ∀ s, (if pattern.contains '*' then starred else pathPart) (.str s) = .ok s := by
      intro s
      split <;> rfl
    obtain ⟨ts, hts⟩ := exists_texts hitem htexts
    obtain ⟨items, rfl⟩ := htexts
    exact ⟨ts, hts⟩

namespace WellTyped

variable {o : Json.Object} (h : WellTyped o)
include h

theorem exists_suffixes (f : Family) : ∃ suffixes, (ofObject o).suffixesFor f = .ok suffixes := by
  simp only [suffixesFor, ofObject]
  cases hv : switchedOn? o "extensions" with
  | none => exact ⟨_, rfl⟩
  | some v => exact exists_texts (fun _ => rfl) (h.extensions v hv)

theorem exists_pythonPaths : ∃ roots, (ofObject o).pythonPaths = .ok roots := by
  simp only [ofObject]
  cases hv : Table.get? o "python_paths".toList with
  | none => exact ⟨_, rfl⟩
  | some v => exact exists_texts (fun _ => rfl) (h.pythonPaths v hv)

theorem exists_moduleDirs :
    ∃ dirs : List Text, (ofObject o).moduleDirs = .ok (dirs.map Except.ok) := by
  simp only [ofObject]
  cases hv : Table.get? o "module_dirs".toList with
  | none => exact ⟨_, rfl⟩
  | some v =>
    obtain ⟨ts, rfl⟩ := h.moduleDirs v hv
    refine ⟨ts, ?_⟩
    show Except.ok ((ts.map Value.str).map pathPart) = Except.ok (ts.map Except.ok)
    rw [List.map_map]
    rfl

theorem exists_aliases : ∃ aliases, (ofObject o).aliases = .ok aliases ∧
    ∀ entry ∈ aliases, ∃ target, entry.2 = .ok target := by
  simp only [ofObject]
  cases hv : switchedOn? o "aliases" with
  | none => exact ⟨[], rfl, by simp⟩
  | some v =>
    obtain ⟨table, rfl, htable⟩ := h.aliases v hv
    refine ⟨_, rfl, fun entry hentry => ?_⟩
    obtain ⟨m, hm, rfl⟩ := List.mem_map.mp hentry
    obtain ⟨target, htarget⟩ := htable m hm
    exact ⟨target, by simp only [htarget, pathPart]⟩

theorem exists_paths : ∃ paths, (ofObject o).paths = .ok paths ∧
    ∀ entry ∈ paths, ∃ targets, entry.2 = .ok targets := by
  simp only [ofObject]
  cases hv : switchedOn? o "paths" with
  | none => exact ⟨[], rfl, by simp⟩
  | some v =>
    obtain ⟨table, rfl, htable⟩ := h.paths v hv
    refine ⟨_, rfl, fun entry hentry => ?_⟩
    obtain ⟨m, hm, rfl⟩ := List.mem_map.mp hentry
    exact exists_targets m.1 (htable m hm)

theorem exists_baseUrl : ∃ base, (ofObject o).baseUrl = .ok base := by
  simp only [ofObject]
  cases hv : Table.get? o "base_url".toList with
  | none => exact ⟨[], rfl⟩
  | some v =>
    obtain ⟨base, rfl⟩ := h.baseUrl v hv
    exact ⟨base, rfl⟩

theorem exists_mapped (specifier : Text) (directory : Path) :
    ∃ mapped, PathLike.mappedCandidates specifier directory (ofObject o) = .ok mapped := by
  obtain ⟨aliases, haliases, hplain⟩ := h.exists_aliases
  obtain ⟨base, hbase⟩ := h.exists_baseUrl
  obtain ⟨paths, hpaths, hplain'⟩ := h.exists_paths
  unfold PathLike.mappedCandidates
  rw [haliases, hbase, hpaths]
  refine exists_bind ⟨aliases, rfl⟩ ?_
  rintro aliases ⟨⟩
  refine exists_bind (exists_filterMapM fun entry hentry => ?_) fun aliased _ => ?_
  · obtain ⟨target, htarget⟩ := hplain entry (List.mem_mergeSort.mp hentry)
    simp only [htarget]
    split
    · exact ⟨none, rfl⟩
    · exact ⟨_, rfl⟩
  refine exists_bind ⟨base, rfl⟩ fun base _ => exists_bind ⟨paths, rfl⟩ ?_
  rintro paths ⟨⟩
  refine exists_bind (exists_filterMapM fun entry hentry => ?_) fun matched _ => ⟨_, rfl⟩
  obtain ⟨targets, htargets⟩ := hplain' entry hentry
  simp only [htargets]
  split
  · exact ⟨none, rfl⟩
  · next ts hts =>
    obtain ⟨found, rfl⟩ := PathLike.exists_patternTargets hts
    exact ⟨_, rfl⟩

end WellTyped

end Config
end ModuleGraph.Resolution
