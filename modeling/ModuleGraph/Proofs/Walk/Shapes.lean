import ModuleGraph.Proofs.Walk.Listing
import ModuleGraph.Proofs.Walk.Records
import ModuleGraph.Proofs.Walk.Rendering

/-! The two shapes of a result are two renderings of one walk. What a walk asks, in which order it
begins and completes the files and what it leaves in progress depends on the files in the cache, but
neither on the shape nor on the results. So without earlier results the list form holds the files of
the tree form, in the post-order of the tree. -/

namespace ModuleGraph.Walk

open ModuleGraph.Path Relation

variable {w : World} {o : Options} {x : Context} {a b : Cache} {y z : Outcome} {s s₁ t t₁ : State}
  {r r' : Ref} {v v' : Visited Ref} {unresolved : List Text} {shape shape' : Shape}

theorem Performed.stage_eq (p : Performed x a y s r s₁ v) (f : Path) :
    y.state.visited.stage f = if f ∈ y.cache.results.keys then .done else .unseen := by
  split
  · next hf => exact p.stage_eq_done hf
  · next hf =>
    by_contra hseen
    have hpaired : y.state.visited.Paired := p.visited ▸ p.settled.paired
    exact hf (hpaired.seen_iff.mp hseen)

structure Outcome.SameWalk (a b : Cache) (y z : Outcome) : Prop where
  extracted : z.state.extracted = y.state.extracted
  judged : z.state.judged = y.state.judged
  completed : z.state.completed = y.state.completed
  unresolved : z.state.unresolved = y.state.unresolved
  keys : ∃ added, y.cache.results.keys = a.results.keys ++ added ∧
    z.cache.results.keys = b.results.keys ++ added
  stage : ∀ f, z.state.visited.stage f = y.state.visited.stage f

theorem Performed.sameWalk (p : Performed { x with shape := shape } a y s r s₁ v)
    (q : Performed { x with shape := shape' } b z t r' t₁ v')
    (hs : s.Records x.collaborators unresolved) (ht : t.Records x.collaborators unresolved)
    (hkeys : ∀ f, f ∈ a.results.keys ↔ f ∈ b.results.keys) : y.SameWalk a b z := by
  obtain ⟨pre, post, held, -, hsearch, hextracted, hcompleted, hafter⟩ := p.trace
  obtain ⟨pre', post', held', -, hsearch', hextracted', hcompleted', hafter'⟩ := q.trace
  -- both are the one search from the entry file outside the files of the cache
  have hfiles : a.files = b.files := Set.ext hkeys
  rw [hfiles] at hsearch
  obtain ⟨rfl, rfl⟩ := hsearch.unique hsearch'
  obtain ⟨hunresolved, hjudged⟩ := p.records hs
  obtain ⟨hunresolved', hjudged'⟩ := q.records ht
  refine ⟨hextracted'.trans hextracted.symm, ?_, hcompleted'.trans hcompleted.symm, ?_,
    ⟨pre, hafter, hafter'⟩, fun f => ?_⟩
  · rw [hjudged, hjudged', hextracted, hextracted']
  · rw [hunresolved, hunresolved', hextracted, hextracted']
  · rw [p.stage_eq, q.stage_eq, hafter, hafter']
    simp only [List.mem_append, hkeys]

theorem same_walk (h : Context.ofOptions w o = .ok x) (hanchor : isAbsolute x.anchor = true)
    (hc : x.collaborators.Decisive) (hkeys : ∀ f, f ∈ a.results.keys ↔ f ∈ b.results.keys)
    (unresolved : List Text) (shape shape' : Shape) :
    ∃ y z, perform w { o with shape := shape } a unresolved = .ok y ∧
      perform w { o with shape := shape' } b unresolved = .ok z ∧
      (∃ r, y.result = .ok r) ∧ (∃ r, z.result = .ok r) ∧ y.SameWalk a b z := by
  have hx := Context.fits h
  have h₁ := hx.reshaped shape
  have h₂ := hx.reshaped shape'
  cases hpresent : w.pathExists x.filename with
  | false =>
    obtain ⟨y, hy, -, hresult, hcache, hextracted⟩ := perform_of_absent h₁ hpresent a unresolved
    obtain ⟨z, hz, -, hresult', hcache', hextracted'⟩ := perform_of_absent h₂ hpresent b unresolved
    obtain ⟨hvisited, -, hcompleted, hunresolved, hjudged⟩ := state_of_absent h₁ hpresent hy
    obtain ⟨hvisited', -, hcompleted', hunresolved', hjudged'⟩ := state_of_absent h₂ hpresent hz
    refine ⟨y, z, hy, hz, ⟨_, hresult⟩, ⟨_, hresult'⟩, hextracted'.trans hextracted.symm,
      hjudged'.trans hjudged.symm, hcompleted'.trans hcompleted.symm,
      hunresolved'.trans hunresolved.symm, ⟨[], by simp [hcache], by simp [hcache']⟩, fun f => ?_⟩
    have hiff : b.results.contains f = a.results.contains f := by
      rw [Bool.eq_iff_iff, Table.contains, Table.contains, Option.isSome_iff_ne_none,
        Option.isSome_iff_ne_none, ne_eq, ne_eq, Table.get?_eq_none_iff, Table.get?_eq_none_iff,
        hkeys]
    rw [hvisited, hvisited', Visited.stage_ofResults, Visited.stage_ofResults, hiff]
  | true =>
    obtain ⟨y, r, s₁, v, hy, p⟩ := performed_of_found h₁ hanchor hc hpresent a unresolved
    obtain ⟨z, r', t₁, v', hz, q⟩ := performed_of_found h₂ hanchor hc hpresent b unresolved
    exact ⟨y, z, hy, hz, ⟨_, p.result⟩, ⟨_, q.result⟩,
      p.sameWalk q (.opened _ a _ _ unresolved) (.opened _ b _ _ unresolved) hkeys⟩

structure Outcome.Walks (count : ℕ) (y : Outcome) : Prop where
  completed : y.state.completed.length = count
  visited : y.state.visited.size = count

theorem Performed.walks {g : Graph} (p : Performed x ⟨g, []⟩ y s r s₁ v) :
    y.Walks y.state.completed.length := by
  obtain ⟨pre, post, held, -, hsearch, -, hcompleted, hkeys⟩ := p.trace
  have hsize : y.state.visited.size = y.cache.results.keys.length := by
    simp [Visited.size, Outcome.cache, Table.keys]
  refine ⟨rfl, ?_⟩
  rw [hsize, hkeys, hcompleted, hsearch.perm.length_eq]
  rfl

structure Renders (outline : Outline) (list : List Path) : Prop where
  postOrder : outline.postOrder = list
  nodup : list.Nodup
  mem_iff : ∀ f, f ∈ outline.names ↔ f ∈ list

theorem Renders.length_names {outline : Outline} {list : List Path} (h : Renders outline list) :
    (distinct outline.names).length = list.length := by
  refine ((List.perm_ext_iff_of_nodup (nodup_distinct _) h.nodup).mpr fun f => ?_).length_eq
  rw [mem_distinct, h.mem_iff]

theorem Performed.list_eq_completed {g : Graph} (p : Performed x ⟨g, []⟩ y s r s₁ v)
    (hlist : x.shape = .list) :
    y.result = .ok (.list y.state.completed) ∧
      PostOrderFrom x.collaborators.dependencies x.filename
        y.state.completed := by
  obtain ⟨list, hpost, -, hresult⟩ := p.list hlist (Cache.full_of_empty g)
  obtain ⟨pre, post, held, -, hsearch, -, hcompleted, -⟩ := p.trace
  have hfiles : Cache.files ⟨g, []⟩ = ∅ := Set.eq_empty_of_forall_notMem fun f => List.not_mem_nil
  rw [hfiles] at hsearch
  obtain rfl : list = post := hpost.unique ⟨pre, hsearch⟩
  rw [hcompleted]
  exact ⟨hresult, hpost⟩

/-- Without earlier results, the tree form of a call has the list form for its post-order. -/
theorem tree_renders_list (h : Context.ofOptions w o = .ok x) (hanchor : isAbsolute x.anchor = true)
    (hc : x.collaborators.Decisive) (g g' : Graph) (unresolved : List Text) :
    ∃ y z root list, perform w { o with shape := .tree } ⟨g, []⟩ unresolved = .ok y ∧
      perform w { o with shape := .list } ⟨g', []⟩ unresolved = .ok z ∧
      y.result = .ok root ∧ z.result = .ok (.list list) ∧
      Renders (y.state.graph.outline root) list ∧
      y.Walks list.length ∧ z.Walks list.length := by
  obtain ⟨y, z, hy, hz, ⟨root, hroot⟩, -, hsame⟩ :=
    same_walk (a := ⟨g, []⟩) (b := ⟨g', []⟩) h hanchor hc (fun _ => Iff.rfl) unresolved .tree .list
  have hx := Context.fits h
  have h₁ := hx.reshaped .tree
  have h₂ := hx.reshaped .list
  cases hpresent : w.pathExists x.filename with
  | false =>
    obtain ⟨y', hy', -, hresult, hcache, -⟩ := perform_of_absent h₁ hpresent ⟨g, []⟩ unresolved
    obtain ⟨z', hz', -, hresult', -⟩ := perform_of_absent h₂ hpresent ⟨g', []⟩ unresolved
    obtain rfl := Except.ok.inj (hy'.symm.trans hy)
    obtain rfl := Except.ok.inj (hz'.symm.trans hz)
    obtain ⟨hvisited, -, hcompleted, -⟩ := state_of_absent h₁ hpresent hy
    obtain ⟨hvisited', -, hcompleted', -⟩ := state_of_absent h₂ hpresent hz
    have houtline : y'.state.graph.outline (.node g.size) = .mk [] := by
      have hgraph : y'.state.graph = (g.add []).1 := congrArg Cache.graph hcache
      rw [Graph.outline, Graph.unfold, hgraph, dif_pos ⟨List.not_mem_nil, by simp⟩]
      rw [show g.size = (g.add []).2 from rfl, Graph.members_add_new]
      rfl
    refine ⟨y', z', .node g.size, [], hy, hz, hresult, hresult', ?_, ⟨by simp [hcompleted], ?_⟩,
      ⟨by simp [hcompleted'], ?_⟩⟩
    · rw [houtline]
      exact ⟨rfl, List.nodup_nil, fun f => Iff.rfl⟩
    · rw [hvisited]
      rfl
    · rw [hvisited']
      rfl
  | true =>
    obtain ⟨y', r, s₁, v, hy', p⟩ := performed_of_found h₁ hanchor hc hpresent ⟨g, []⟩ unresolved
    obtain ⟨z', r', t₁, v', hz', q⟩ := performed_of_found h₂ hanchor hc hpresent ⟨g', []⟩ unresolved
    obtain rfl := Except.ok.inj (hy'.symm.trans hy)
    obtain rfl := Except.ok.inj (hz'.symm.trans hz)
    obtain ⟨root, hroot, hpostOrder, hmem⟩ := p.renders rfl
    obtain ⟨hlist, hpost⟩ := q.list_eq_completed rfl
    have hcompleted := hsame.completed
    refine ⟨y', z', .node root, z'.state.completed, hy, hz, hroot, hlist, ?_, ?_, q.walks⟩
    · exact ⟨hcompleted ▸ hpostOrder, hpost.nodup, hcompleted ▸ hmem⟩
    · exact hcompleted ▸ p.walks

end ModuleGraph.Walk
