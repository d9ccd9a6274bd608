import ModuleGraph.Graph.Outline
import ModuleGraph.Proofs.Walk.Trees

/-! The nodes that a call in tree form leaves, if it starts without results. Each file has a node of
its own, which maps the dependencies of the file to their nodes; so the nodes below the result stand
for files, and two of them are the same only if the files are. -/

namespace ModuleGraph.Walk

variable {c : Collaborators} {s s' s₁ : State} {file : Path} {paths : List Path}
  {results : List Ref} {a : Cache} {id : NodeId}

namespace Cache

structure Apart (a : Cache) : Prop where
  node : ∀ f r, a.results.get? f = some r → ∃ id < a.graph.size, r = .node id
  own : ∀ f f' r, a.results.get? f = some r → a.results.get? f' = some r → f' = f

theorem apart_of_empty (g : Graph) : Apart ⟨g, []⟩ :=
  ⟨fun _ _ h => (by cases h), fun _ _ _ h _ => (by cases h)⟩

theorem Apart.grown {b : Cache} (h : a.Apart) (hsize : a.graph.size ≤ b.graph.size)
    (hresults : ∀ f, b.results.get? f = a.results.get? f) : b.Apart := by
  refine ⟨fun f r hr => ?_, fun f f' r hr hr' => ?_⟩
  · obtain ⟨id, hid, rfl⟩ := h.node f r (hresults f ▸ hr)
    exact ⟨id, hid.trans_le hsize, rfl⟩
  · exact h.own f f' r (hresults f ▸ hr) (hresults f' ▸ hr')

theorem Apart.entered (h : s.cache.Apart) (file : Path) (notes : List Log.Record) :
    (s.entered c .tree file notes).cache.Apart := by
  have hsize : (s.entered c .tree file notes).cache.graph.size = s.graph.size + 1 :=
    Graph.size_add _ _
  have hget : ∀ f, (s.entered c .tree file notes).cache.results.get? f =
      if f = file then some (.node s.graph.size) else s.cache.results.get? f := by
    intro f
    show (s.visited.put file .inProgress (s.provisional .tree)).results.get? f = _
    rw [Visited.results_put, Table.get?_set]
    rfl
  -- no result has had the number of the new node
  have hold : ∀ f, s.cache.results.get? f ≠ some (.node s.graph.size) := by
    intro f hf
    obtain ⟨id, hid, heq⟩ := h.node f _ hf
    obtain rfl := Ref.node.inj heq
    exact Nat.lt_irrefl _ hid
  refine ⟨fun f r hr => ?_, fun f f' r hr hr' => ?_⟩
  · rw [hget] at hr
    split at hr
    · obtain rfl := Option.some.inj hr
      exact ⟨s.graph.size, by omega, rfl⟩
    · obtain ⟨id, hid, rfl⟩ := h.node f r hr
      have hlt : id < s.graph.size := hid
      exact ⟨id, by omega, rfl⟩
  · rw [hget] at hr hr'
    split at hr
    · next hf =>
      obtain rfl := Option.some.inj hr
      split at hr'
      · next hf' => rw [hf, hf']
      · exact absurd hr' (hold f')
    · split at hr'
      · obtain rfl := Option.some.inj hr'
        exact absurd hr (hold f)
      · exact h.own f f' r hr hr'

theorem Apart.left (h : s.cache.Apart) (deps : List (Path × Ref))
    (hfile : s.visited.results.get? file = some (.node id)) :
    (s.left .tree file deps (.node id)).cache.Apart := by
  rw [State.cache_left hfile]
  exact h.grown (Graph.size_extend _ _ _).ge fun _ => rfl

end Cache

theorem Walked.apart (h : Walked c .tree s paths results s') (hs : s.cache.Apart) :
    s'.cache.Apart := by
  induction h with
  | done => exact hs
  | known _ _ _ _ ih => exact ih hs
  | fresh notes _ inner _ ih₁ ih₂ =>
    exact ih₂ ((ih₁ (hs.entered _ notes)).left _ inner.result_entered)

structure Cache.Drawn (c : Collaborators) (a : Cache) : Prop where
  maps : ∀ f ∈ a.results.keys, ∃ id, Maps c a f id
  apart : a.Apart

namespace Cache.Drawn

variable {f : Path} {r : Ref}

theorem mem_keys_of_dependency (h : a.Drawn c) (hf : f ∈ a.results.keys) {d : Path}
    (hd : d ∈ c.dependencies f) : d ∈ a.results.keys := by
  obtain ⟨id, hid⟩ := h.maps f hf
  obtain ⟨r, -, hr⟩ := hid.child d hd
  exact Table.mem_keys hr

theorem members_eq (h : a.Drawn c) (hf : a.results.get? f = some r) :
    ∃ id < a.graph.size, r = .node id ∧ a.graph.members id =
      (c.dependencies f).map fun d => (d, (a.results.get? d).getD (.list [])) := by
  obtain ⟨id, hid⟩ := h.maps f (Table.mem_keys hf)
  obtain rfl : r = .node id := Option.some.inj (hf.symm.trans hid.result)
  refine ⟨id, hid.lt, rfl, ?_⟩
  have hkeys : Table.keys ((c.dependencies f).map fun d =>
      (d, (a.results.get? d).getD (.list []))) = c.dependencies f := by
    simp [Table.keys, Function.comp_def]
  have hnodup := hkeys ▸ Collaborators.nodup_dependencies f
  refine Table.eq_of_get? hnodup (hid.keys.trans hkeys.symm) fun d hd => ?_
  rw [hkeys] at hd
  obtain ⟨r, hr, hresult⟩ := hid.child d hd
  rw [hr, Table.get?_eq_of_mem hnodup (List.mem_map.mpr ⟨d, hd, rfl⟩), hresult, Option.getD_some]

theorem unfold_eq (h : a.Drawn c) (hf : a.results.get? f = some r) {above : List NodeId}
    (habove : ∀ id, r = .node id → id ∉ above) : ∃ id, r = .node id ∧
      a.graph.unfold above r = Outline.mk ((c.dependencies f).map fun d =>
        (d, a.graph.unfold (id :: above) ((a.results.get? d).getD (.list [])))) := by
  obtain ⟨id, hlt, rfl, hmembers⟩ := h.members_eq hf
  refine ⟨id, rfl, ?_⟩
  rw [Graph.unfold, dif_pos ⟨habove id rfl, hlt⟩, hmembers, List.map_map]
  rfl

end Cache.Drawn

/-- A call from an entry file that is there, in tree form and without results to start with: the
result is a node of its own that maps the entry file alone. -/
theorem Performed.drawn {x : Context} {g : Graph} {y : Outcome} {r : Ref} {v : Visited Ref}
    (p : Performed x ⟨g, []⟩ y s r s₁ v) (htree : x.shape = .tree) :
    y.cache.Drawn x.collaborators ∧ ∃ root, y.result = .ok (.node root) ∧
      y.state.graph.outline (.node root) = .mk [(x.filename, y.state.graph.unfold [root] r)] ∧
      y.cache.results.get? x.filename = some r ∧
      ∀ f, y.cache.results.get? f ≠ some (.node root) := by
  obtain ⟨hgrows, hnodup, hmaps, root, hresult, hmembers, hentry⟩ := p.tree htree List.nodup_nil
  obtain ⟨pre, post, held, -, -, hextracted, -, hkeys⟩ := p.trace
  have hwalked := p.walked
  rw [htree] at hwalked
  have hapart := hwalked.apart (p.begins.cache_eq ▸ Cache.apart_of_empty g)
  have hresults : ∀ f, y.cache.results.get? f = s₁.visited.results.get? f := by
    intro f
    rw [p.results_cache, htree]
    rfl
  have hroot : root = s₁.graph.size := by
    have hown := p.result
    rw [hresult, htree] at hown
    exact Ref.node.inj (Except.ok.inj hown)
  have hsize : y.state.graph.size = s₁.graph.size + 1 := by
    rw [p.graph, htree]
    exact Graph.size_add _ _
  refine ⟨⟨fun f hf => ?_, hapart.grown (by simp [Outcome.cache, State.cache, hsize]) hresults⟩,
    root, hresult, ?_, hentry, fun f hf => ?_⟩
  · rw [hkeys] at hf
    exact hmaps f (hextracted ▸ hf)
  · have hlt : root < y.state.graph.size := by
      rw [hroot, hsize]
      exact Nat.lt_succ_self _
    have hmembers' : y.state.graph.members root = [(x.filename, r)] := hmembers
    rw [Graph.outline, Graph.unfold, dif_pos ⟨List.not_mem_nil, hlt⟩, hmembers']
    rfl
  · obtain ⟨id, hid, heq⟩ := hapart.node f _ ((hresults f).symm.trans hf)
    rw [← Ref.node.inj heq, hroot] at hid
    exact Nat.lt_irrefl _ hid

end ModuleGraph.Walk
