import ModuleGraph.Proofs.DepthFirst.Order
import ModuleGraph.Proofs.Walk.Walked

/-! A walk is a depth-first search along the surviving edges that passes over the files seen
before. What it extracts, begins, completes and holds back stands in the orders of that search. -/

namespace ModuleGraph.Walk

variable {c : Collaborators} {shape : Shape} {s s' : State} {paths : List Path}
  {results : List Ref}

/-- What a walk leaves behind: a search that enters `pre` and leaves `post`, of which the files
`held` are held back. -/
structure Trace (c : Collaborators) (s : State) (paths : List Path) (s' : State)
    (pre post held : List Path) : Prop where
  search : DepthFirst c.dependencies s.seen paths pre post
  extracted : s'.extracted = s.extracted ++ pre
  completed : s'.completed = s.completed ++ post
  pending : s'.pending = s.pending ++ held
  held_sublist : held.Sublist post
  stage : ∀ f, s'.visited.stage f =
    if f ∈ held then .inProgress else if f ∈ pre then .done else s.visited.stage f
  paired : s.visited.Paired → s'.visited.Paired
  keys : s.visited.Paired → s'.visited.results.keys = s.visited.results.keys ++ pre
  recorded : ∀ f, s'.dependencies.get? f =
    if f ∈ pre then some (c.dependencies f) else s.dependencies.get? f

theorem Trace.held_subset {pre post held : List Path} (t : Trace c s paths s' pre post held)
    {f : Path} (hf : f ∈ held) : f ∈ pre :=
  t.search.mem_post_iff.mp (t.held_sublist.subset hf)

theorem Trace.seen_eq {pre post held : List Path} (t : Trace c s paths s' pre post held) :
    s'.seen = s.seen ∪ {x | x ∈ pre} := by
  ext f
  simp only [State.seen, Set.mem_union, Set.mem_ofPred_eq, t.stage f]
  by_cases hheld : f ∈ held
  · simp [hheld, t.held_subset hheld]
  · by_cases hpre : f ∈ pre <;> simp [hheld, hpre]

theorem State.seen_entered (file : Path) (notes : List Log.Record) :
    (s.entered c shape file notes).seen = insert file s.seen := by
  ext f
  simp only [State.seen, Set.mem_insert_iff, Set.mem_ofPred_eq, State.entered_stage]
  by_cases hf : f = file <;> simp [hf]

theorem State.left_stage (file : Path) (deps : List (Path × Ref)) (r : Ref) (f : Path) :
    (s.left shape file deps r).visited.stage f =
      if f = file then (if s.anyOpen (deps.map (·.1)) then .inProgress else .done)
      else s.visited.stage f := by
  rw [State.left, Visited.stage_put]

theorem State.seen_left (file : Path) (deps : List (Path × Ref)) (r : Ref) :
    (s.left shape file deps r).seen = insert file s.seen := by
  ext f
  simp only [State.seen, Set.mem_insert_iff, Set.mem_ofPred_eq, State.left_stage]
  by_cases hf : f = file
  · by_cases hopen : s.anyOpen (deps.map (·.1)) <;> simp [hf, hopen]
  · simp [hf]

theorem Walked.seen_subset_left {file : Path} {notes : List Log.Record} {s₁ : State}
    (h : Walked c shape (s.entered c shape file notes) paths results s₁)
    (deps : List (Path × Ref)) (r : Ref) : s.seen ⊆ (s₁.left shape file deps r).seen := by
  intro f hf
  have hentered : f ∈ (s.entered c shape file notes).seen := by
    rw [State.seen_entered]
    exact Or.inr hf
  rw [State.seen_left]
  exact Or.inr (h.seen_subset hentered)

theorem State.keys_entered {file : Path} (hfile : file ∉ s.visited.results.keys)
    (notes : List Log.Record) :
    (s.entered c shape file notes).visited.results.keys = s.visited.results.keys ++ [file] := by
  rw [State.entered, Visited.results_put, Table.keys_set, if_neg hfile]

theorem State.keys_left {file : Path} (hfile : file ∈ s.visited.results.keys)
    (deps : List (Path × Ref)) (r : Ref) :
    (s.left shape file deps r).visited.results.keys = s.visited.results.keys := by
  rw [State.left, Visited.results_put, Table.keys_set, if_pos hfile]

section Enter

/-! A walk that begins a file, walks below it, completes it and goes on beside it. -/

variable {s₁ : State} {file : Path} {rest : List Path} {deps : List (Path × Ref)} {r : Ref}
  {notes : List Log.Record} {pre₁ post₁ held₁ pre₂ post₂ held₂ : List Path}
  (unseen : s.visited.stage file = .unseen)
  (t₁ : Trace c (s.entered c shape file notes) (c.dependencies file) s₁ pre₁ post₁ held₁)
  (t₂ : Trace c (s₁.left shape file deps r) rest s' pre₂ post₂ held₂)

namespace Trace

include t₁ in
theorem seen_left : (s₁.left shape file deps r).seen = insert file s.seen ∪ {x | x ∈ pre₁} := by
  rw [State.seen_left, t₁.seen_eq, State.seen_entered, ← Set.insert_union, Set.insert_idem]

include t₁ in
theorem search_below :
    DepthFirst c.dependencies (insert file s.seen) (c.dependencies file) pre₁ post₁ := by
  have hsearch := t₁.search
  rwa [State.seen_entered] at hsearch

include t₁ t₂

theorem search_beside : DepthFirst c.dependencies (insert file s.seen ∪ {x | x ∈ pre₁})
    rest pre₂ post₂ := by
  have hsearch := t₂.search
  rwa [t₁.seen_left] at hsearch

theorem stage_enter (f : Path) : s'.visited.stage f =
    if f ∈ held₁ ++ ((if s₁.anyOpen (deps.map (·.1)) then [file] else []) ++ held₂) then .inProgress
    else if f ∈ file :: pre₁ ++ pre₂ then .done else s.visited.stage f := by
  have hfile₁ : file ∉ pre₁ := fun h => t₁.search_below.not_mem_seen h (Or.inl rfl)
  have hfile₂ : file ∉ pre₂ := fun h =>
    (t₁.search_beside t₂).not_mem_seen h (Or.inl (Or.inl rfl))
  have hdisjoint : f ∈ pre₂ → f ∉ pre₁ := fun h₂ h₁ =>
    (t₁.search_beside t₂).not_mem_seen h₂ (Or.inr h₁)
  have hheld₁ : f ∈ held₁ → f ∈ pre₁ := t₁.held_subset
  have hheld₂ : f ∈ held₂ → f ∈ pre₂ := t₂.held_subset
  rw [t₂.stage, State.left_stage, t₁.stage, State.entered_stage]
  by_cases hff : f = file
  · subst hff
    have h₁ : f ∉ held₁ := fun h => hfile₁ (hheld₁ h)
    have h₂ : f ∉ held₂ := fun h => hfile₂ (hheld₂ h)
    by_cases hopen : s₁.anyOpen (deps.map (·.1)) <;> simp [hopen, h₁, h₂, hfile₂]
  · have hself : f ∉ if s₁.anyOpen (deps.map (·.1)) then [file] else [] := by
      split <;> simp [hff]
    simp only [List.mem_append, List.mem_cons, hself, hff, false_or, if_false, List.cons_append]
    by_cases h₂ : f ∈ pre₂
    · have h₁ : f ∉ held₁ := fun h => hdisjoint h₂ (hheld₁ h)
      simp [h₁, h₂]
    · have h₂' : f ∉ held₂ := fun h => h₂ (hheld₂ h)
      simp [h₂, h₂']

include unseen

theorem keys_enter (hs : s.visited.Paired) :
    s'.visited.results.keys = s.visited.results.keys ++ (file :: pre₁ ++ pre₂) := by
  have hnew : file ∉ s.visited.results.keys := fun h => hs.seen_iff.mpr h unseen
  have hentered : (s.entered c shape file notes).visited.Paired := State.paired_entered hs notes
  have hkeys₁ := t₁.keys hentered
  rw [State.keys_entered hnew] at hkeys₁
  have hmem : file ∈ s₁.visited.results.keys := by simp [hkeys₁]
  rw [t₂.keys (State.paired_left (t₁.paired hentered) deps r), State.keys_left hmem, hkeys₁]
  simp

theorem enter (hdeps : deps.map (·.1) = c.dependencies file) :
    Trace c s (file :: rest) s' (file :: pre₁ ++ pre₂) (post₁ ++ file :: post₂)
      (held₁ ++ ((if s₁.anyOpen (deps.map (·.1)) then [file] else []) ++ held₂)) := by
  refine ⟨.enter (fun hs => hs unseen) t₁.search_below (t₁.search_beside t₂), ?_, ?_, ?_, ?_,
    t₁.stage_enter t₂, fun hs => t₂.paired (State.paired_left (t₁.paired
      (State.paired_entered hs notes)) deps r), keys_enter unseen t₁ t₂, ?_⟩
  · rw [t₂.extracted, State.left, t₁.extracted, State.entered]
    simp
  · rw [t₂.completed, State.left, t₁.completed, State.entered]
    simp
  · rw [t₂.pending, State.left, t₁.pending, State.entered]
    split <;> simp
  · refine t₁.held_sublist.append ?_
    split
    · exact t₂.held_sublist.cons_cons file
    · exact t₂.held_sublist.cons file
  · intro f
    rw [t₂.recorded, State.left, Table.get?_set, t₁.recorded, State.entered, hdeps]
    simp only [List.cons_append, List.mem_cons, List.mem_append]
    by_cases hff : f = file
    · simp [hff]
    · by_cases h₁ : f ∈ pre₁ <;> by_cases h₂ : f ∈ pre₂ <;> simp [hff, h₁, h₂]

end Trace
end Enter

theorem Walked.trace (h : Walked c shape s paths results s') :
    ∃ pre post held, Trace c s paths s' pre post held := by
  induction h with
  | done s =>
    refine ⟨[], [], [], ⟨.done _, ?_, ?_, ?_, List.Sublist.refl _, ?_, id, ?_, ?_⟩⟩ <;> simp
  | known notes seen _ _ ih =>
    obtain ⟨pre, post, held, t⟩ := ih
    exact ⟨pre, post, held,
      ⟨.skip seen t.search, t.extracted, t.completed, t.pending, t.held_sublist, t.stage,
        t.paired, t.keys, t.recorded⟩⟩
  | fresh notes unseen inner others ih₁ ih₂ =>
    obtain ⟨pre₁, post₁, held₁, t₁⟩ := ih₁
    obtain ⟨pre₂, post₂, held₂, t₂⟩ := ih₂
    exact ⟨_, _, _, t₁.enter unseen t₂ inner.zip_map_fst⟩

end ModuleGraph.Walk
