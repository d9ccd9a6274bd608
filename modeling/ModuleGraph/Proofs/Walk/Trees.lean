import ModuleGraph.Proofs.Walk.Extraction

/-! Walks in tree form. A file gets a node of its own when it is begun, and its dependencies are put
into that node when it is complete; nothing is put into it later. So whatever a file has been given
for a dependency, while that one was in progress or after it, is the node that the cache has for
it. -/

namespace ModuleGraph.Walk

variable {c : Collaborators} {s s' s₁ : State} {file : Path} {paths : List Path}
  {results : List Ref} {a b d : Cache} {changed : Set NodeId} {id : NodeId}

def State.cache (s : State) : Cache := ⟨s.graph, s.visited.results⟩

namespace Cache

/-- Results stay, and nodes keep what they map, but for some that are `changed`. -/
structure Grows (changed : Set NodeId) (a b : Cache) : Prop where
  size : a.graph.size ≤ b.graph.size
  members : ∀ id < a.graph.size, id ∉ changed → b.graph.members id = a.graph.members id
  result : ∀ f r, a.results.get? f = some r → b.results.get? f = some r

theorem Grows.refl (a : Cache) : Grows ∅ a a := ⟨Nat.le_refl _, fun _ _ _ => rfl, fun _ _ h => h⟩

theorem Grows.trans (h : Grows changed a b) (h' : Grows changed b d) : Grows changed a d := by
  refine ⟨h.size.trans h'.size, fun id hid hchanged => ?_, fun f r hr => ?_⟩
  · rw [h'.members id (hid.trans_le h.size) hchanged, h.members id hid hchanged]
  · exact h'.result f r (h.result f r hr)

theorem Grows.weaken (h : Grows ∅ a b) (changed : Set NodeId) : Grows changed a b :=
  ⟨h.size, fun id hid _ => h.members id hid (Set.notMem_empty id), h.result⟩

theorem Grows.of_new (h : Grows changed a b) (hnew : ∀ id ∈ changed, a.graph.size ≤ id) :
    Grows ∅ a b :=
  ⟨h.size, fun id hid _ => h.members id hid fun hmem => Nat.not_le.mpr hid (hnew id hmem),
    h.result⟩

/-- The node of a file: it maps the dependencies of the file to what the cache has for them. -/
structure Maps (c : Collaborators) (cache : Cache) (file : Path) (id : NodeId) : Prop where
  lt : id < cache.graph.size
  result : cache.results.get? file = some (.node id)
  keys : (cache.graph.members id).keys = c.dependencies file
  child : ∀ d ∈ c.dependencies file, ∃ r, (cache.graph.members id).get? d = some r ∧
    cache.results.get? d = some r

theorem Maps.grows (h : Maps c a file id) (hgrows : Grows changed a b) (hid : id ∉ changed) :
    Maps c b file id := by
  have hmembers := hgrows.members id h.lt hid
  refine ⟨h.lt.trans_le hgrows.size, hgrows.result _ _ h.result, hmembers ▸ h.keys, ?_⟩
  intro d hd
  obtain ⟨r, hr, hresult⟩ := h.child d hd
  exact ⟨r, hmembers ▸ hr, hgrows.result _ _ hresult⟩

end Cache

theorem State.grows_entered (hs : s.visited.Paired) (hfile : s.visited.stage file = .unseen)
    (notes : List Log.Record) :
    Cache.Grows ∅ s.cache (s.entered c .tree file notes).cache := by
  refine ⟨?_, fun id hid _ => Graph.members_add_old _ _ hid, fun f r hr => ?_⟩
  · show s.graph.size ≤ (s.graph.add []).1.size
    rw [Graph.size_add]
    omega
  · have hne : f ≠ file := by
      rintro rfl
      rw [State.cache, hs.get?_of_unseen hfile] at hr
      cases hr
    show (s.visited.put file .inProgress (s.provisional .tree)).results.get? f = some r
    rw [Visited.results_put, Table.get?_set, if_neg hne]
    exact hr

theorem State.cache_left {deps : List (Path × Ref)}
    (hfile : s.visited.results.get? file = some (.node id)) :
    (s.left .tree file deps (.node id)).cache = ⟨s.graph.extend id deps, s.visited.results⟩ := by
  have hassemble : Shape.tree.assemble s.graph file deps (.node id) =
      (s.graph.extend id deps, .node id) := rfl
  simp only [State.cache, State.left, hassemble, Visited.results_put, Table.set_eq_self hfile]

theorem get?_zip {P : Path → Ref → Prop} {ds : List Path} {rs : List Ref}
    (h : List.Forall₂ P ds rs) {d : Path} (hd : d ∈ ds) :
    ∃ r, Table.get? (ds.zip rs) d = some r ∧ P d r := by
  induction h with
  | nil => cases hd
  | @cons d' r ds rs hr _ ih =>
    rw [List.zip_cons_cons, Table.get?]
    by_cases hdd : d' = d
    · exact ⟨r, by rw [if_pos hdd], hdd ▸ hr⟩
    · rw [if_neg hdd]
      exact ih ((List.mem_cons.mp hd).resolve_left (Ne.symm hdd))

theorem Walked.completed {below : List Ref} {start : State}
    (h : Walked c .tree start (c.dependencies file) below s) (hlt : id < s.graph.size)
    (hfile : s.visited.results.get? file = some (.node id)) (hempty : s.graph.members id = []) :
    Cache.Grows {id} s.cache
        (s.left .tree file ((c.dependencies file).zip below) (.node id)).cache ∧
      Cache.Maps c (s.left .tree file ((c.dependencies file).zip below) (.node id)).cache file
        id := by
  have hfst := h.zip_map_fst
  have hkeys : Table.keys ((c.dependencies file).zip below) = c.dependencies file := hfst
  have hmembers : (s.graph.extend id ((c.dependencies file).zip below)).members id =
      (c.dependencies file).zip below := by
    rw [Graph.members_extend, if_pos ⟨rfl, hlt⟩, hempty, Table.update_of_disjoint]
    · rfl
    · rw [hkeys]
      exact Collaborators.nodup_dependencies file
    · exact fun _ _ => List.not_mem_nil
  rw [State.cache_left hfile]
  refine ⟨⟨?_, fun other _ hother => ?_, fun _ _ hr => hr⟩, ?_, hfile, ?_, fun d hd => ?_⟩
  · exact (Graph.size_extend _ _ _).ge
  · have hne : id ≠ other := fun h => hother h.symm
    exact (Graph.members_extend _ _ _ _).trans (if_neg fun h => hne h.1)
  · exact hlt.trans_eq (Graph.size_extend _ _ _).symm
  · rw [hmembers, hkeys]
  · obtain ⟨r, hr, -, hresult⟩ := get?_zip h.hits hd
    exact ⟨r, (congrArg (Table.get? · d) hmembers).trans hr, hresult⟩

/-- Walks add nodes, and each file that they begin gets one that maps its dependencies. -/
theorem Walked.maps (h : Walked c .tree s paths results s') (hs : s.visited.Paired) :
    Cache.Grows ∅ s.cache s'.cache ∧ ∀ f, f ∉ s.seen → f ∈ s'.seen →
      ∃ id, s.graph.size ≤ id ∧ Cache.Maps c s'.cache f id := by
  induction h with
  | done s => exact ⟨.refl _, fun f hnot hf => absurd hf hnot⟩
  | known notes _ _ _ ih => exact ih hs
  | @fresh s s₁ s' file rest below results notes unseen inner others ih₁ ih₂ =>
    have hprovisional : s.provisional .tree = .node s.graph.size := rfl
    rw [hprovisional] at others ih₂
    have hbegun := State.grows_entered (c := c) hs unseen notes
    obtain ⟨hgrows₁, hmaps₁⟩ := ih₁ (State.paired_entered hs notes)
    have hsize : (s.entered c .tree file notes).graph.size = s.graph.size + 1 :=
      Graph.size_add _ _
    have hlt : s.graph.size < s₁.graph.size := by
      have hle : (s.entered c .tree file notes).graph.size ≤ s₁.graph.size := hgrows₁.size
      omega
    have hresult : s₁.visited.results.get? file = some (.node s.graph.size) := by
      refine hgrows₁.result file _ ?_
      show (s.visited.put file .inProgress (s.provisional .tree)).results.get? file = _
      rw [Visited.results_put, Table.get?_set, if_pos rfl, hprovisional]
    have hempty : s₁.graph.members s.graph.size = [] := by
      have hold := hgrows₁.members s.graph.size (by rw [State.cache, hsize]; omega)
        (Set.notMem_empty _)
      exact hold.trans (Graph.members_add_new s.graph [])
    obtain ⟨hcompleted, hown⟩ := inner.completed hlt hresult hempty
    have hpaired := inner.paired (State.paired_entered hs notes)
    obtain ⟨hgrows₂, hmaps₂⟩ := ih₂ (State.paired_left hpaired _ _)
    have hall : Cache.Grows {s.graph.size} s.cache s'.cache :=
      (((hbegun.trans hgrows₁).weaken _).trans hcompleted).trans (hgrows₂.weaken _)
    refine ⟨hall.of_new (by simp [State.cache]), fun f hnot hf => ?_⟩
    by_cases hff : f = file
    · -- the file itself
      subst hff
      exact ⟨_, Nat.le_refl _, hown.grows hgrows₂ (Set.notMem_empty _)⟩
    by_cases hf₁ : f ∈ s₁.seen
    · -- a file below it, whose node is not the one that changes
      have hnot₁ : f ∉ (s.entered c .tree file notes).seen := by
        rw [State.seen_entered]
        exact fun h => h.elim hff hnot
      obtain ⟨id, hid, hmaps⟩ := hmaps₁ f hnot₁ hf₁
      rw [hsize] at hid
      have hne : id ∉ ({s.graph.size} : Set NodeId) := by
        rw [Set.mem_singleton_iff]
        omega
      exact ⟨id, by omega, (hmaps.grows hcompleted hne).grows hgrows₂ (Set.notMem_empty _)⟩
    · -- a file beside it
      have hnot₂ : f ∉ (s₁.left .tree file ((c.dependencies file).zip below)
          (.node s.graph.size)).seen := by
        rw [State.seen_left]
        exact fun h => h.elim hff hf₁
      obtain ⟨id, hid, hmaps⟩ := hmaps₂ f hnot₂ hf
      exact ⟨id, (hlt.le.trans hcompleted.size).trans hid, hmaps⟩

theorem Cache.Begins.cache_eq (hs : a.Begins s) : s.cache = a := by
  rw [State.cache, hs.graph, hs.results]

theorem Cache.grows_empty (shape : Shape) (cache : Cache) :
    Cache.Grows ∅ cache ⟨(shape.empty cache.graph).1, cache.results⟩ := by
  cases shape with
  | list => exact .refl cache
  | tree =>
    refine ⟨?_, fun id hid _ => Graph.members_add_old _ _ hid, fun _ _ h => h⟩
    exact (Nat.le_succ _).trans_eq (Graph.size_add _ _).symm

theorem Performed.tree {x : Context} {cache : Cache} {y : Outcome} {r : Ref} {v : Visited Ref}
    (p : Performed x cache y s r s₁ v) (htree : x.shape = .tree)
    (hkeys : cache.results.keys.Nodup) :
    Cache.Grows ∅ cache y.cache ∧ y.cache.results.keys.Nodup ∧
      (∀ f ∈ y.state.extracted, ∃ id, Cache.Maps x.collaborators y.cache f id) ∧
      ∃ root, y.result = .ok (.node root) ∧ y.cache.graph.members root = [(x.filename, r)] ∧
        y.cache.results.get? x.filename = some r := by
  obtain ⟨pre, post, held, t, -, hextracted, -, -⟩ := p.trace
  have hresults : ∀ f, y.cache.results.get? f = s₁.visited.results.get? f := by
    intro f
    rw [p.results_cache, htree]
    rfl
  have hgraph : y.cache.graph = (s₁.graph.add [(x.filename, r)]).1 := by
    rw [Outcome.cache, p.graph, htree]
    rfl
  have hfinal : Cache.Grows ∅ s₁.cache y.cache := by
    refine ⟨?_, fun id hid _ => ?_, fun f r hr => (hresults f).trans hr⟩
    · rw [hgraph, Graph.size_add]
      exact Nat.le_succ _
    · rw [hgraph]
      exact Graph.members_add_old _ _ hid
  have hwalked := p.walked
  rw [htree] at hwalked
  obtain ⟨hgrows, hmaps⟩ := hwalked.maps p.begins.paired
  have hhit := hwalked.hits
  simp only [List.forall₂_cons, List.forall₂_nil_left_iff, and_true] at hhit
  refine ⟨p.begins.cache_eq ▸ hgrows.trans hfinal, p.nodup_keys hkeys, fun f hf => ?_,
    s₁.graph.size, ?_, ?_, ?_⟩
  · rw [hextracted] at hf
    have hnot : f ∉ s.seen := t.search.not_mem_seen hf
    have hseen : f ∈ s₁.seen := t.seen_eq ▸ Or.inr hf
    obtain ⟨id, -, hid⟩ := hmaps f hnot hseen
    exact ⟨id, hid.grows hfinal (Set.notMem_empty _)⟩
  · rw [p.result, htree]
    rfl
  · rw [hgraph]
    exact Graph.members_add_new s₁.graph _
  · rw [hresults]
    exact hhit.2

def Outcome.Tree (w : World) (later : Cache) (x : Context) (y : Outcome) : Prop :=
  (∀ f ∈ y.state.extracted, ∃ id, Cache.Maps x.collaborators later f id) ∧
    (w.pathExists x.filename = true → ∃ root r, y.result = .ok (.node root) ∧
      y.cache.graph.members root = [(x.filename, r)] ∧
      y.cache.results.get? x.filename = some r)

theorem Outcome.Tree.grows {w : World} {x : Context} {y : Outcome} (h : y.Tree w a x)
    (hgrows : Cache.Grows ∅ a b) : y.Tree w b x := by
  refine ⟨fun f hf => ?_, h.2⟩
  obtain ⟨id, hid⟩ := h.1 f hf
  exact ⟨id, hid.grows hgrows (Set.notMem_empty id)⟩

theorem tree_of_call {w : World} {call : Call} (hregular : call.options.Regular w)
    (htree : call.options.shape = .tree) {cache : Cache} (hkeys : cache.results.keys.Nodup) :
    let outcome := perform w call.options cache call.unresolved
    Cache.Grows ∅ cache (cache.after outcome) ∧ (cache.after outcome).results.keys.Nodup ∧
      ∀ x, Context.ofOptions w call.options = .ok x →
        ∃ y, outcome = .ok y ∧ y.Tree w (cache.after outcome) x := by
  intro outcome
  cases hoptions : Context.ofOptions w call.options with
  | error e =>
    rw [show outcome = .error e from perform_of_rejected hoptions cache call.unresolved]
    exact ⟨.refl cache, hkeys, fun x hx => by cases hx⟩
  | ok x =>
    obtain ⟨hanchor, hc⟩ := hregular x hoptions
    have hshape : x.shape = .tree := (Context.fits hoptions).shape.trans htree
    cases hpresent : w.pathExists x.filename with
    | true =>
      obtain ⟨y, s, r, s₁, v, hperform, p⟩ :=
        perform_of_found hoptions hanchor hc hpresent cache call.unresolved
      obtain ⟨hgrows, hnodup, hmaps, root, hresult, hroot, hentry⟩ := p.tree hshape hkeys
      rw [show outcome = .ok y from hperform]
      refine ⟨hgrows, hnodup, ?_⟩
      rintro x' ⟨⟩
      exact ⟨y, rfl, hmaps, fun _ => ⟨root, r, hresult, hroot, hentry⟩⟩
    | false =>
      obtain ⟨y, hperform, -, -, hcache, hextracted⟩ :=
        perform_of_absent hoptions hpresent cache call.unresolved
      have hgrows : Cache.Grows ∅ cache y.cache := by
        rw [hcache]
        exact cache.grows_empty x.shape
      rw [show outcome = .ok y from hperform]
      refine ⟨hgrows, by rw [Cache.after, hcache]; exact hkeys, ?_⟩
      rintro x' ⟨⟩
      refine ⟨y, rfl, fun f hf => ?_, fun h => ?_⟩
      · rw [hextracted] at hf
        cases hf
      · rw [hpresent] at h
        cases h

theorem trees_of_calls {w : World} {calls : List Call}
    (hcalls : ∀ call ∈ calls, call.options.Regular w ∧ call.options.shape = .tree) {cache : Cache}
    (hkeys : cache.results.keys.Nodup) :
    Cache.Grows ∅ cache (cache.afterAll w calls) ∧
      List.Forall₂ (fun call outcome => ∀ x, Context.ofOptions w call.options = .ok x →
        ∃ y, outcome = .ok y ∧ y.Tree w (cache.afterAll w calls) x)
        calls (outcomes w cache calls) := by
  induction calls generalizing cache with
  | nil => exact ⟨.refl cache, .nil⟩
  | cons call rest ih =>
    obtain ⟨⟨hregular, htree⟩, hrest⟩ := List.forall_mem_cons.mp hcalls
    obtain ⟨hgrows, hnodup, hcall⟩ := tree_of_call hregular htree hkeys
    obtain ⟨hlater, hothers⟩ := ih hrest hnodup
    refine ⟨hgrows.trans hlater, .cons (fun x hx => ?_) hothers⟩
    obtain ⟨y, hy, htree⟩ := hcall x hx
    exact ⟨y, hy, htree.grows hlater⟩

/-- Calls in tree form that share a cache: when all have been made, the node of every file that one
of them has walked maps the dependencies of the file, each once, in the order of extraction, to the
very nodes that the cache has for them. A call from an entry file that is there gives a node that
maps the entry file alone. -/
theorem tree_nodes_map_dependencies {w : World} {calls : List Call}
    (hcalls : ∀ call ∈ calls, call.options.Regular w ∧ call.options.shape = .tree) {cache : Cache}
    (hkeys : cache.results.keys.Nodup) :
    let final := cache.afterAll w calls
    List.Forall₂ (fun call outcome => ∀ x, Context.ofOptions w call.options = .ok x →
      ∃ y, outcome = .ok y ∧
        let c := x.collaborators
        (∀ f ∈ y.state.extracted, (c.dependencies f).Nodup ∧
          ∃ id, final.results.get? f = some (.node id) ∧
            (final.graph.members id).keys = c.dependencies f ∧
            ∀ d ∈ c.dependencies f, ∃ r, (final.graph.members id).get? d = some r ∧
              final.results.get? d = some r) ∧
        (w.pathExists x.filename = true → ∃ root r, y.result = .ok (.node root) ∧
          y.cache.graph.members root = [(x.filename, r)] ∧
          y.cache.results.get? x.filename = some r))
      calls (outcomes w cache calls) := by
  refine (trees_of_calls hcalls hkeys).2.imp fun call outcome h x hx => ?_
  obtain ⟨y, hy, hmaps, hresult⟩ := h x hx
  refine ⟨y, hy, fun f hf => ⟨Collaborators.nodup_dependencies f, ?_⟩, hresult⟩
  obtain ⟨id, hid⟩ := hmaps f hf
  exact ⟨id, hid.result, hid.keys, hid.child⟩

theorem tree_nodes_of_two_files :
    let calls := TwoFiles.calls .tree
    let final := Cache.empty.afterAll TwoFiles.world calls
    List.Forall₂ (fun call outcome => ∀ x,
      Context.ofOptions TwoFiles.world call.options = .ok x → ∃ y, outcome = .ok y ∧
        ∀ f ∈ y.state.extracted, ∃ id, final.results.get? f = some (.node id) ∧
          (final.graph.members id).keys = x.collaborators.dependencies f)
      calls (outcomes TwoFiles.world .empty calls) := by
  intro calls final
  have hcalls : ∀ call ∈ calls,
      call.options.Regular TwoFiles.world ∧ call.options.shape = .tree := by
    intro call hcall
    obtain ⟨name, -, hoptions⟩ := TwoFiles.mem_calls hcall
    exact ⟨TwoFiles.regular hcall, by rw [hoptions]; rfl⟩
  have hkeys : Cache.empty.results.keys.Nodup := List.nodup_nil
  refine (tree_nodes_map_dependencies hcalls hkeys).imp fun call outcome hcall x hx => ?_
  obtain ⟨y, hy, hmaps, -⟩ := hcall x hx
  refine ⟨y, hy, fun f hf => ?_⟩
  obtain ⟨-, id, hresult, hkeys, -⟩ := hmaps f hf
  exact ⟨id, hresult, hkeys⟩

end ModuleGraph.Walk
