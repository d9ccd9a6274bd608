import ModuleGraph.Proofs.Walk.Lists

/-! Files that are finished within a walk. A file is finished at once if none of its dependencies is
in progress, and so none of those that it leads to; its list is then the full one. -/

namespace ModuleGraph.Walk

open DepthFirst

variable {c : Collaborators} {s s' : State} {file : Path} {paths : List Path} {results : List Ref}

def State.finished (s : State) : Set Path := {f | s.visited.stage f = .done}

/-- The files that are done lead to nothing else, and have full lists. -/
structure Finished (c : Collaborators) (s : State) : Prop where
  closed : Closed c.dependencies s.finished
  full : ∀ f ∈ s.finished, ∃ post, PostOrderFrom c.dependencies f post ∧
    s.visited.results.get? f = some (.list post)

theorem Finished.of_open {stage : Stage} {r : Ref} (hs : Finished c s)
    (hopen : s.visited.stage file ≠ .done) (hstage : stage ≠ .done)
    (hvisited : s'.visited = s.visited.put file stage r) : Finished c s' := by
  have hfinished : s'.finished = s.finished := by
    ext f
    simp only [State.finished, Set.mem_ofPred_eq, hvisited, Visited.stage_put]
    by_cases hf : f = file
    · subst hf
      simp [hstage, hopen]
    · simp [hf]
  refine ⟨hfinished ▸ hs.closed, fun f hf => ?_⟩
  rw [hfinished] at hf
  have hne : f ≠ file := fun h => hopen (h ▸ hf)
  rw [hvisited, Visited.results_put, Table.get?_set, if_neg hne]
  exact hs.full f hf

theorem Finished.posts {ds : List Path} (hs : Finished c s)
    (hhits : List.Forall₂ (fun d r => s.visited.stage d ≠ .unseen ∧
      s.visited.results.get? d = some r) ds results)
    (hds : ∀ d ∈ ds, s.visited.stage d ≠ .inProgress) :
    (∀ f ∈ ds, f ∈ s.finished) ∧ ∃ posts,
      List.Forall₂ (PostOrderFrom c.dependencies) ds posts ∧
        results = posts.map .list := by
  induction hhits with
  | nil => exact ⟨by simp, [], .nil, rfl⟩
  | @cons d r rest results hhit _ ih =>
    obtain ⟨hclosed, hrest⟩ := List.forall_mem_cons.mp hds
    obtain ⟨hfinished, posts, hposts, rfl⟩ := ih hrest
    have hd : d ∈ s.finished := by
      show s.visited.stage d = .done
      cases hstage : s.visited.stage d with
      | unseen => exact absurd hstage hhit.1
      | inProgress => exact absurd hstage hclosed
      | done => rfl
    obtain ⟨post, hpost, hresult⟩ := hs.full _ hd
    obtain rfl : r = .list post := Option.some.inj (hhit.2.symm.trans hresult)
    exact ⟨List.forall_mem_cons.mpr ⟨hd, hfinished⟩, post :: posts, .cons hpost hposts, rfl⟩

theorem Finished.postOrder {posts : List (List Path)} (hs : Finished c s)
    (hfile : file ∉ s.finished) (hnext : ∀ d ∈ c.dependencies file, d ∈ s.finished)
    (hposts : List.Forall₂ (PostOrderFrom c.dependencies) (c.dependencies file) posts) :
    PostOrderFrom c.dependencies file ((distinct posts.flatten).filter (· ≠ file) ++ [file]) := by
  classical
  have hclosed : Closed c.dependencies ((insert file ∅ : Set Path) ∩ s.finished) := by
    rw [Set.insert_inter_of_notMem hfile]
    simp [Closed]
  obtain ⟨pre, hsearch⟩ := PostOrderFrom.splice_all hposts hs.closed hnext hclosed
  refine ⟨file :: pre ++ [], ?_⟩
  convert DepthFirst.enter (Set.notMem_empty file) hsearch (.done _) using 2
  apply List.filter_congr
  intro a _
  rw [decide_eq_decide]
  simp

theorem Finished.left {below : List Ref} {provisional : Ref} (hs : Finished c s)
    (hfile : s.visited.stage file = .inProgress)
    (hlength : below.length = (c.dependencies file).length)
    (hhits : List.Forall₂ (fun d r => s.visited.stage d ≠ .unseen ∧
      s.visited.results.get? d = some r) (c.dependencies file) below) :
    Finished c (s.left .list file ((c.dependencies file).zip below) provisional) := by
  have hfst : ((c.dependencies file).zip below).map (·.1) = c.dependencies file :=
    List.map_fst_zip hlength.ge
  have hnot : s.visited.stage file ≠ .done := by rw [hfile]; decide
  cases hopen : s.anyOpen (c.dependencies file) with
  | true =>
    have hvisited : (s.left .list file ((c.dependencies file).zip below) provisional).visited =
        s.visited.put file .inProgress (Shape.list.assemble s.graph file
          ((c.dependencies file).zip below) provisional).2 := by
      rw [State.left, hfst, hopen]
      rfl
    exact hs.of_open hnot (by decide) hvisited
  | false =>
    have hclosed : ∀ d ∈ c.dependencies file, s.visited.stage d ≠ .inProgress := by
      rw [State.anyOpen, List.any_eq_false] at hopen
      simpa using hopen
    obtain ⟨hdeps, posts, hposts, rfl⟩ := hs.posts hhits hclosed
    have hlisted : s.listed (posts.map .list) = posts.flatten := by
      rw [State.listed, List.flatMap_map]
      exact List.flatMap_id'
    have hpost := hs.postOrder hnot hdeps hposts
    have hvisited : (s.left .list file ((c.dependencies file).zip (posts.map .list))
        provisional).visited = s.visited.put file .done
          (.list ((distinct posts.flatten).filter (· ≠ file) ++ [file])) := by
      rw [State.left, hfst, hopen, assemble_list hlength, hlisted]
      rfl
    have hfinished : (s.left .list file ((c.dependencies file).zip (posts.map .list))
        provisional).finished = insert file s.finished := by
      ext f
      simp only [State.finished, Set.mem_ofPred_eq, Set.mem_insert_iff, hvisited,
        Visited.stage_put]
      by_cases hf : f = file <;> simp [hf]
    refine ⟨?_, fun f hf => ?_⟩
    · rw [hfinished]
      rintro u (rfl | hu) v hv
      · exact Or.inr (hdeps v hv)
      · exact Or.inr (hs.closed u hu v hv)
    · rw [hvisited, Visited.results_put, Table.get?_set]
      by_cases hff : f = file
      · rw [if_pos hff, hff]
        exact ⟨_, hpost, rfl⟩
      · rw [if_neg hff]
        rw [hfinished] at hf
        exact hs.full f (hf.resolve_left hff)

theorem Walked.finished (h : Walked c .list s paths results s') (hs : Finished c s) :
    Finished c s' := by
  induction h with
  | done => exact hs
  | known notes _ _ _ ih => exact ih ⟨hs.closed, hs.full⟩
  | fresh notes unseen inner _ ih₁ ih₂ =>
    have hentered := ih₁ (hs.of_open (by rw [unseen]; decide) (by decide) rfl)
    exact ih₂ (hentered.left inner.open_entered inner.length_eq inner.hits)

end ModuleGraph.Walk
