import ModuleGraph.Proofs.Walk.Gathering

/-! Two walks in list form along the same paths. One makes the lists of some files anew, the other
finds them in its cache, gathered from lists that are there, too. As long as these files lead to no
cycle, the two walks have the same results. -/

namespace ModuleGraph.Walk

open Relation

variable {c : Collaborators} {shape : Shape} {cache : Cache} {s s₁ s' t t' : State} {file f : Path}
  {paths : List Path} {results results' : List Ref} {files led kept stack : Set Path}
  {notes : List Log.Record}

/-- The lists of the `kept` files stand in the cache. They lead to no cycle, and all that they need
is kept, too, or has been there before. -/
structure Cache.Keeps (c : Collaborators) (files led kept : Set Path) (cache : Cache) : Prop where
  led : ∀ u ∈ led, u ∈ files → ∀ d ∈ c.dependencies u, d ∈ led
  new : ∀ f ∈ kept, f ∈ files
  closed : ∀ f ∈ kept, ∀ d ∈ c.dependencies f, d ∈ kept ∨ d ∉ files
  acyclic : ∀ f ∈ kept, ¬ c.Cyclic files f
  gathered : ∀ f ∈ kept, cache.results.get? f = some (.list (c.gathered cache.names f))

/-- The walk in `t` has found the lists of the kept files. The one in `s` has made those of them
that it has come to, but for those on the `stack`. For all other files the two agree. -/
structure Replays (led files kept stack : Set Path) (cache : Cache) (s t : State) : Prop where
  graph : s.graph = cache.graph
  graph' : t.graph = cache.graph
  paired : t.visited.Paired
  found : ∀ f, f ∈ kept ∨ f ∉ files →
    t.visited.stage f ≠ .unseen ∧ t.visited.results.get? f = cache.results.get? f
  made : ∀ f ∈ kept, s.visited.stage f ≠ .unseen →
    s.visited.results.get? f = cache.results.get? f ∨ f ∈ stack
  same : ∀ f ∈ led, f ∉ kept → (s.visited.stage f = .unseen ↔ t.visited.stage f = .unseen) ∧
    s.visited.results.get? f = t.visited.results.get? f

theorem Walked.of_seen (hs : s.visited.Paired) (h : ∀ p ∈ paths, s.visited.stage p ≠ .unseen) :
    ∃ results, Walked c shape s paths results s := by
  induction paths with
  | nil => exact ⟨[], .done s⟩
  | cons p rest ih =>
    obtain ⟨hp, hrest⟩ := List.forall_mem_cons.mp h
    obtain ⟨r, hr⟩ := hs.exists_result hp
    obtain ⟨results, hwalked⟩ := ih hrest
    exact ⟨r :: results, .known s.notes hp hr hwalked⟩

namespace Replays

variable (h : Replays led files kept stack cache s t)
include h

theorem mem_files (hfile : file ∈ led) (hnew : file ∉ kept)
    (hunseen : s.visited.stage file = .unseen) :
    file ∈ files := by
  by_contra hold
  exact (h.found file (Or.inr hold)).1 (((h.same file hfile hnew).1).mp hunseen)

theorem seen (hfile : file ∈ led) (hseen : s.visited.stage file ≠ .unseen) :
    t.visited.stage file ≠ .unseen := by
  by_cases hkept : file ∈ kept
  · exact (h.found file (Or.inl hkept)).1
  · exact fun hunseen => hseen ((h.same file hfile hkept).1.mpr hunseen)

/-- A file that the first walk comes upon again is none that it is about to make: a kept file leads
to no cycle. -/
theorem result_eq (k : cache.Keeps c files led kept) (hfile : file ∈ led)
    (hseen : s.visited.stage file ≠ .unseen)
    (habove : ∀ f ∈ stack, TransGen (c.EdgeFrom files) f file) :
    s.visited.results.get? file = t.visited.results.get? file := by
  by_cases hkept : file ∈ kept
  · rw [(h.found file (Or.inl hkept)).2]
    refine (h.made file hkept hseen).resolve_right fun hmem => k.acyclic file hkept ?_
    exact .of_loop (habove file hmem)
  · exact (h.same file hfile hkept).2

theorem annotate (notes notes' : List Log.Record) :
    Replays led files kept stack cache { s with notes := notes } { t with notes := notes' } :=
  ⟨h.graph, h.graph', h.paired, h.found, h.made, h.same⟩

theorem put_made {stack' : Set Path} {stage : Stage} {r : Ref} (hfile : file ∈ kept)
    (hgraph : s'.graph = s.graph) (hvisited : s'.visited = s.visited.put file stage r)
    (hmade : cache.results.get? file = some r ∨ file ∈ stack')
    (hstack : ∀ f ∈ stack, f ≠ file → f ∈ stack') :
    Replays led files kept stack' cache s' t := by
  refine ⟨hgraph.trans h.graph, h.graph', h.paired, h.found, fun f hf hseen => ?_, fun f hled hf => ?_⟩
  · rw [hvisited, Visited.results_put, Table.get?_set]
    by_cases hff : f = file
    · rw [if_pos hff, hff]
      exact hmade.imp_left Eq.symm
    · rw [hvisited, Visited.stage_put, if_neg hff] at hseen
      rw [if_neg hff]
      exact (h.made f hf hseen).imp_right fun hmem => hstack f hmem hff
  · have hne : f ≠ file := fun hff => hf (hff ▸ hfile)
    rw [hvisited, Visited.stage_put, if_neg hne, Visited.results_put, Table.get?_set, if_neg hne]
    exact h.same f hled hf

theorem put_both {stage stage' : Stage} {r : Ref} (hfile : file ∉ kept) (hmem : file ∈ files)
    (hstage : stage ≠ .unseen) (hstage' : stage' ≠ .unseen)
    (hgraph : s'.graph = s.graph) (hvisited : s'.visited = s.visited.put file stage r)
    (hgraph' : t'.graph = t.graph) (hvisited' : t'.visited = t.visited.put file stage' r) :
    Replays led files kept stack cache s' t' := by
  have hne : ∀ f, f ∈ kept ∨ f ∉ files → f ≠ file := by
    rintro f (hf | hf) rfl
    · exact hfile hf
    · exact hf hmem
  refine ⟨hgraph.trans h.graph, hgraph'.trans h.graph', hvisited' ▸ h.paired.put hstage' r,
    fun f hf => ?_, fun f hf hseen => ?_, fun f hled hf => ?_⟩
  · rw [hvisited', Visited.stage_put, if_neg (hne f hf), Visited.results_put, Table.get?_set,
      if_neg (hne f hf)]
    exact h.found f hf
  · rw [hvisited, Visited.stage_put, if_neg (hne f (Or.inl hf))] at hseen
    rw [hvisited, Visited.results_put, Table.get?_set, if_neg (hne f (Or.inl hf))]
    exact h.made f hf hseen
  · rw [hvisited, hvisited', Visited.stage_put, Visited.stage_put, Visited.results_put,
      Visited.results_put, Table.get?_set, Table.get?_set]
    by_cases hff : f = file
    · simp only [if_pos hff, hstage, hstage', and_self]
    · simp only [if_neg hff]
      exact h.same f hled hf

end Replays

theorem Walked.get_left (h : Walked c .list s (c.dependencies file) results s') (r : Ref) :
    let ended := s'.left .list file ((c.dependencies file).zip results) r
    ended.graph = s'.graph ∧ ∃ stage, stage ≠ .unseen ∧
      ended.visited = s'.visited.put file stage (.list (c.gathered s'.cache.names file)) := by
  simp only [State.left, h.assemble_eq]
  refine ⟨trivial, _, ?_, rfl⟩
  split <;> decide

theorem Walked.gathered_eq (h : Walked c .list s (c.dependencies file) results s')
    (h' : Walked c .list t (c.dependencies file) results t') (hgraph : s'.graph = t'.graph) :
    c.gathered s'.cache.names file = c.gathered t'.cache.names file := by
  have hlisted : s'.listed results = t'.listed results := by
    rw [State.listed, State.listed, hgraph]
  rw [h.listed_eq, h'.listed_eq] at hlisted
  rw [Collaborators.gathered, Collaborators.gathered, hlisted]

theorem Replays.gathered_eq (h : Replays led files kept stack cache s t)
    (hbelow : ∀ d ∈ c.dependencies file,
      t.visited.results.get? d = cache.results.get? d)
    (inner : Walked c .list s₁ (c.dependencies file) results s)
    (inner' : Walked c .list t (c.dependencies file) results t) :
    c.gathered s.cache.names file = c.gathered cache.names file := by
  rw [inner.gathered_eq inner' (h.graph.trans h.graph'.symm)]
  refine Collaborators.gathered_congr fun d hd => ?_
  rw [Cache.names, Cache.names, State.cache, hbelow d hd, h.graph']

theorem Walked.replays (k : cache.Keeps c files led kept) (h : Walked c .list s paths results s')
    (hreplays : Replays led files kept stack cache s t)
    (hstack : ∀ f ∈ stack, ∀ p ∈ paths, TransGen (c.EdgeFrom files) f p)
    (hled : ∀ p ∈ paths, p ∈ led) (h' : Walked c .list t paths results' t') :
    results = results' ∧ Replays led files kept stack cache s' t' := by
  induction h generalizing t t' results' stack with
  | done =>
    cases h'
    exact ⟨rfl, hreplays⟩
  | @known s s' path rest r results notes seen hit others ih =>
    obtain ⟨hfile, hrest⟩ := List.forall_mem_cons.mp hled
    have hstack' : ∀ f ∈ stack, ∀ p ∈ rest, TransGen (c.EdgeFrom files) f p :=
      fun f hf p hp => hstack f hf p (List.mem_cons_of_mem _ hp)
    have hsame := hreplays.result_eq k hfile seen fun f hf => hstack f hf path List.mem_cons_self
    cases h' with
    | @known _ _ _ _ r' results' notes' seen' hit' others' =>
      obtain rfl : r = r' := by rwa [← hsame, hit, Option.some.injEq] at hit'
      obtain ⟨rfl, hends⟩ := ih (hreplays.annotate notes notes') hstack' hrest others'
      exact ⟨rfl, hends⟩
    | fresh _ unseen' _ _ => exact absurd unseen' (hreplays.seen hfile seen)
  | @fresh s s₁ s' path rest below results notes unseen inner others ih₁ ih₂ =>
    obtain ⟨hfile, hrest⟩ := List.forall_mem_cons.mp hled
    have hstack' : ∀ f ∈ stack, ∀ p ∈ rest, TransGen (c.EdgeFrom files) f p :=
      fun f hf p hp => hstack f hf p (List.mem_cons_of_mem _ hp)
    have hmem : path ∈ files := by
      by_cases hkept : path ∈ kept
      · exact k.new _ hkept
      · exact hreplays.mem_files hfile hkept unseen
    have hbelow : ∀ f ∈ stack, ∀ d ∈ c.dependencies path,
        TransGen (c.EdgeFrom files) f d := fun f hf d hd =>
      (hstack f hf path List.mem_cons_self).tail (Collaborators.edgeFrom_iff.mpr ⟨hmem, hd⟩)
    by_cases hkept : path ∈ kept
    · -- the second walk has the list at hand and stays where it is while the first one goes down
      obtain ⟨seen, hfound⟩ := hreplays.found _ (Or.inl hkept)
      cases h' with
      | fresh _ unseen' _ _ => exact absurd unseen' seen
      | @known _ _ _ _ r' results' notes' seen' hit' others' =>
        have hdeps : ∀ d ∈ c.dependencies path,
            t.visited.stage d ≠ .unseen ∧
              t.visited.results.get? d = cache.results.get? d :=
          fun d hd => hreplays.found _ (k.closed _ hkept d hd)
        obtain ⟨below', inner'⟩ : ∃ below', Walked c .list t (c.dependencies path)
          below' t := Walked.of_seen hreplays.paired fun d hd => (hdeps d hd).1
        have hopened : Replays led files kept (insert path stack) cache
            (s.entered c .list path notes) t :=
          hreplays.put_made hkept rfl rfl (Or.inr (Or.inl rfl)) fun f hf _ => Or.inr hf
        obtain ⟨rfl, hends⟩ := ih₁ hopened (fun f hf d hd => hf.elim
          (fun h => h ▸ .single (Collaborators.edgeFrom_iff.mpr ⟨hmem, hd⟩))
          fun hf => hbelow f hf d hd) (k.led _ hfile hmem) inner'
        have hgathered := hends.gathered_eq (fun d hd => (hdeps d hd).2) inner inner'
        obtain ⟨hgraph, stage, -, hvisited⟩ := inner.get_left (s.provisional .list)
        rw [hgathered] at hvisited
        have hleft := hends.put_made hkept hgraph hvisited (Or.inl (k.gathered _ hkept))
          fun f hf hne => hf.resolve_left hne
        obtain ⟨rfl, hlast⟩ := ih₂ (hleft.annotate _ notes') hstack' hrest others'
        refine ⟨?_, hlast⟩
        rw [hfound, k.gathered _ hkept, Option.some.injEq] at hit'
        rw [inner.assemble_eq, hgathered, hit']
    · have unseen' := (hreplays.same _ hfile hkept).1.mp unseen
      cases h' with
      | known _ seen' _ _ => exact absurd unseen' seen'
      | @fresh _ t₁ _ _ _ below' results' notes' _ inner' others' =>
        have hopened : Replays led files kept stack cache
            (s.entered c .list path notes)
            (t.entered c .list path notes') :=
          hreplays.put_both hkept hmem (by decide) (by decide) rfl rfl rfl rfl
        obtain ⟨rfl, hends⟩ := ih₁ hopened hbelow (k.led _ hfile hmem) inner'
        have hgathered := inner.gathered_eq inner' (hends.graph.trans hends.graph'.symm)
        obtain ⟨hgraph, stage, hstage, hvisited⟩ := inner.get_left (s.provisional .list)
        obtain ⟨hgraph', stage', hstage', hvisited'⟩ := inner'.get_left (t.provisional .list)
        rw [hgathered] at hvisited
        have hleft := hends.put_both hkept hmem hstage hstage' hgraph hvisited hgraph' hvisited'
        obtain ⟨rfl, hlast⟩ := ih₂ hleft hstack' hrest others'
        refine ⟨?_, hlast⟩
        rw [inner.assemble_eq, inner'.assemble_eq, hgathered]

end ModuleGraph.Walk
