import ModuleGraph.Proofs.Walk.History
import ModuleGraph.Proofs.Walk.Trees

/-! What calls leave as it is. Results that a cache has stay in it, and the nodes below them keep
what they map: a call puts names into the nodes that it adds itself, and into no other. This holds
in either shape, whatever the lists and nodes of the cache are, and also of calls that the filter
breaks off. -/

namespace ModuleGraph

namespace Graph

inductive Reaches (g : Graph) (r : Ref) : NodeId → Prop
  | here {id : NodeId} (h : r = .node id) : Reaches g r id
  | next {above id : NodeId} {name : Text} (h : Reaches g r above)
      (mapped : (name, .node id) ∈ g.members above) : Reaches g r id

def SameBelow (g g' : Graph) (r : Ref) : Prop :=
  ∀ id, g.Reaches r id → g'.members id = g.members id

variable {g g' : Graph} {r : Ref}

theorem SameBelow.of_closed (ids : Set NodeId) (hr : ∀ id, r = .node id → id ∈ ids)
    (hclosed : ∀ above ∈ ids, ∀ name id, (name, .node id) ∈ g.members above → id ∈ ids)
    (hsame : ∀ id ∈ ids, g'.members id = g.members id) : g.SameBelow g' r := by
  intro id hid
  refine hsame id ?_
  induction hid with
  | here h => exact hr _ h
  | next _ mapped ih => exact hclosed _ ih _ _ mapped

end Graph

namespace Walk

open ModuleGraph.Path DepthFirst

variable {w : World} {o : Options} {x : Context} {c : Collaborators} {cache : Cache}
  {s s₁ s' : State} {y : Outcome} {r : Ref} {v : Visited Ref} {paths stack : List Path}
  {results : List Ref} {shape : Shape}

/-- A cache in which each file has one result, and each node that occurs is a node of its graph. -/
structure Cache.Valid (cache : Cache) : Prop where
  nodup : cache.results.keys.Nodup
  result : ∀ f id, cache.results.get? f = some (.node id) → id < cache.graph.size
  member : ∀ above name id, (name, .node id) ∈ cache.graph.members above → id < cache.graph.size

theorem Cache.valid_empty : Cache.empty.Valid := by
  refine ⟨List.nodup_nil, fun f id h => ?_, fun above name id h => ?_⟩
  · cases h
  · cases h

theorem Cache.Grows.sameBelow {a b : Cache} (h : Cache.Grows ∅ a b) (ha : a.Valid) {f : Path}
    (hr : a.results.get? f = some r) :
    b.results.get? f = some r ∧ a.graph.SameBelow b.graph r := by
  refine ⟨h.result f r hr, .of_closed {id | id < a.graph.size} ?_ ?_ ?_⟩
  · rintro id rfl
    exact ha.result f id hr
  · exact fun above _ name id => ha.member above name id
  · exact fun id hid => h.members id hid (Set.notMem_empty id)

theorem Walked.graph_eq (h : Walked c .list s paths results s') : s'.graph = s.graph := by
  induction h with
  | done => rfl
  | known _ _ _ _ ih => exact ih
  | fresh _ _ _ _ ih₁ ih₂ => exact ih₂.trans ih₁

theorem Partway.graph_eq (h : Partway c .list s paths stack s') : s'.graph = s.graph := by
  induction h with
  | here judged walked => exact walked.graph_eq
  | within _ walked _ _ ih => exact ih.trans walked.graph_eq

theorem Partway.kept_eq (h : Partway c shape s paths stack s') {f : Path}
    (hf : s.visited.stage f ≠ .unseen) : s'.visited.stage f = s.visited.stage f ∧
      s'.visited.results.get? f = s.visited.results.get? f := by
  induction h with
  | here judged walked => exact walked.kept_eq hf
  | @within s s₁ s' path before after stack results notes walked unseen inner ih =>
    obtain ⟨hstage₁, hresult₁⟩ := walked.kept_eq hf
    have hne : f ≠ path := by
      rintro rfl
      exact hf (hstage₁ ▸ unseen)
    have hentered : (s₁.entered c shape path notes).visited.stage f = s.visited.stage f := by
      rw [State.entered_stage, if_neg hne, hstage₁]
    obtain ⟨hstage, hresult⟩ := ih (hentered ▸ hf)
    refine ⟨hstage.trans hentered, hresult.trans ?_⟩
    rw [State.entered, Visited.results_put, Table.get?_set, if_neg hne, hresult₁]

theorem Walked.nodup_keys (h : Walked c shape s paths results s')
    (hnodup : s.visited.results.keys.Nodup) : s'.visited.results.keys.Nodup := by
  induction h with
  | done => exact hnodup
  | known _ _ _ _ ih => exact ih hnodup
  | fresh _ _ _ _ ih₁ ih₂ =>
    exact ih₂ (Table.nodup_keys_set (ih₁ (Table.nodup_keys_set hnodup _ _)) _ _)

theorem Partway.nodup_keys (h : Partway c shape s paths stack s')
    (hnodup : s.visited.results.keys.Nodup) : s'.visited.results.keys.Nodup := by
  induction h with
  | here judged walked => exact walked.nodup_keys hnodup
  | within _ walked _ _ ih => exact ih (Table.nodup_keys_set (walked.nodup_keys hnodup) _ _)

theorem Partway.paired (h : Partway c shape s paths stack s') (hs : s.visited.Paired) :
    s'.visited.Paired := by
  induction h with
  | here judged walked => exact walked.paired hs
  | within notes walked _ _ ih => exact ih (State.paired_entered (walked.paired hs) notes)

/-- Each file that a walk in tree form has completed has its node, also while the walk goes on. -/
theorem Partway.maps (h : Partway c .tree s paths stack s') (hs : s.visited.Paired) :
    Cache.Grows ∅ s.cache s'.cache ∧ ∀ f, f ∉ s.seen → f ∈ s'.seen → f ∉ stack →
      ∃ id, s.graph.size ≤ id ∧ Cache.Maps c s'.cache f id := by
  induction h with
  | here judged walked =>
    obtain ⟨hgrows, hmaps⟩ := walked.maps hs
    exact ⟨hgrows, fun f hnot hf _ => hmaps f hnot hf⟩
  | @within s s₁ s' path before after stack results notes walked unseen inner ih =>
    obtain ⟨hgrows₁, hmaps₁⟩ := walked.maps hs
    have hs₁ := walked.paired hs
    have hbegun := State.grows_entered (c := c) hs₁ unseen notes
    obtain ⟨hgrows₂, hmaps₂⟩ := ih (State.paired_entered hs₁ notes)
    have hlater := hbegun.trans hgrows₂
    refine ⟨hgrows₁.trans hlater, fun f hnot hf hstack => ?_⟩
    rw [List.mem_append, List.mem_singleton, not_or] at hstack
    by_cases hf₁ : f ∈ s₁.seen
    · obtain ⟨id, hid, hmaps⟩ := hmaps₁ f hnot hf₁
      exact ⟨id, hid, hmaps.grows hlater (Set.notMem_empty id)⟩
    · have hnot₁ : f ∉ (s₁.entered c .tree path notes).seen := by
        rw [State.seen_entered]
        exact fun h => h.elim hstack.2 hf₁
      obtain ⟨id, hid, hmaps⟩ := hmaps₂ f hnot₁ hf hstack.1
      exact ⟨id, (hgrows₁.trans hbegun).size.trans hid, hmaps⟩

theorem Partway.grows (h : Partway c shape s paths stack s') (hs : s.visited.Paired) :
    Cache.Grows ∅ s.cache s'.cache := by
  cases shape with
  | tree => exact (h.maps hs).1
  | list =>
    have hgraph : s'.graph = s.graph := h.graph_eq
    refine ⟨by rw [State.cache, State.cache, hgraph], fun id _ _ => ?_, fun f r hr => ?_⟩
    · rw [State.cache, State.cache, hgraph]
    · have hseen : s.visited.stage f ≠ .unseen := by
        intro hunseen
        rw [State.cache, hs.get?_of_unseen hunseen] at hr
        cases hr
      exact (h.kept_eq hseen).2.trans hr

theorem Partway.grows_entered {shape : Shape} {path : Path} {stack : List Path} {m : State}
    (h : Partway c shape s [path] stack m) (hstack : stack ≠ []) (hs : s.visited.Paired) :
    ∃ notes, Cache.Grows ∅ (s.entered c shape path notes).cache m.cache := by
  generalize hpaths : [path] = paths at h
  cases h with
  | here => exact absurd rfl hstack
  | @within _ s₁ _ p before after _ results notes walked unseen inner =>
    obtain ⟨rfl, rfl, rfl⟩ : before = [] ∧ p = path ∧ after = [] := by
      cases before with
      | nil => simpa [eq_comm] using hpaths
      | cons => simp at hpaths
    cases walked
    exact ⟨notes, inner.grows (State.paired_entered hs notes)⟩

theorem Partway.placeholder {shape : Shape} {path : Path} {stack : List Path} {m : State}
    (h : Partway c shape s [path] stack m) (hstack : stack ≠ []) (hs : s.visited.Paired) :
    m.cache.results.get? path = some (s.provisional shape) ∧
      (shape = .tree → s.graph.size < m.cache.graph.size ∧
        m.cache.graph.members s.graph.size = []) := by
  obtain ⟨notes, hgrows⟩ := h.grows_entered hstack hs
  refine ⟨hgrows.result _ _ ?_, ?_⟩
  · show (s.visited.put path .inProgress _).results.get? path = _
    rw [Visited.results_put, Table.get?_set, if_pos rfl]
  · rintro rfl
    have hlt : s.graph.size < (s.graph.add []).1.size := by
      rw [Graph.size_add]
      omega
    refine ⟨hlt.trans_le hgrows.size, ?_⟩
    rw [hgrows.members _ hlt (Set.notMem_empty _)]
    exact Graph.members_add_new s.graph []

theorem Performed.of_cached (p : Performed x cache z s r s₁ v)
    (hr : cache.results.get? x.filename = some r') :
    z.state.extracted = [] ∧
      z.result = .ok (x.shape.finalize cache.graph x.filename r').2 ∧
      z.state.graph = (x.shape.finalize cache.graph x.filename r').1 := by
  obtain ⟨hbegins, hwalked, -, hresult, hgraph, -, hextracted, -, -, -, -⟩ := p
  cases hwalked with
  | fresh notes unseen =>
    have hnone := hbegins.paired.get?_of_unseen unseen
    rw [hbegins.results, hr] at hnone
    cases hnone
  | known notes seen hit others =>
    cases others
    obtain rfl : r = r' := Option.some.inj (hit.symm.trans (hbegins.results ▸ hr))
    rw [← hbegins.graph]
    exact ⟨hextracted.trans hbegins.extracted, hresult, hgraph⟩

theorem Performed.grows (p : Performed x cache y s r s₁ v) (hkeys : cache.results.keys.Nodup) :
    Cache.Grows ∅ cache y.cache := by
  cases hshape : x.shape with
  | tree => exact (p.tree hshape hkeys).1
  | list =>
    have hwalked := p.walked
    rw [hshape] at hwalked
    have hgraph : y.cache.graph = cache.graph := by
      rw [Outcome.cache, p.graph, hshape, ← p.begins.graph, ← hwalked.graph_eq]
      rfl
    refine ⟨by rw [hgraph], fun id _ _ => by rw [hgraph], fun f r hr => ?_⟩
    obtain ⟨pre, post, held, t, -⟩ := p.trace
    have hseen : f ∈ s.seen := by
      rw [p.begins.seen]
      by_contra hnot
      rw [Table.get?_eq_none_iff.mpr hnot] at hr
      cases hr
    have hfree : f ∉ s₁.pending := by
      rw [p.pending_eq t]
      exact fun hheld => t.search.not_mem_seen (t.held_subset hheld) hseen
    rw [p.get?_kept hshape (Or.inl hfree), p.walked.result_eq hseen, p.begins.results, hr]

/-- A call of either shape, also one that is broken off, leaves what the cache has. -/
theorem grows_of_call {call : Call} (hcall : call.options.Anchored w)
    (hkeys : cache.results.keys.Nodup) :
    let outcome := perform w call.options cache call.unresolved
    Cache.Grows ∅ cache (cache.after outcome) ∧ (cache.after outcome).results.keys.Nodup := by
  intro outcome
  cases hoptions : Context.ofOptions w call.options with
  | error e =>
    rw [show outcome = .error e from perform_of_rejected hoptions cache call.unresolved]
    exact ⟨.refl cache, hkeys⟩
  | ok x =>
    cases hpresent : w.pathExists x.filename with
    | false =>
      obtain ⟨y, hperform, -, -, hcache, -⟩ :=
        perform_of_absent hoptions hpresent cache call.unresolved
      rw [show outcome = .ok y from hperform, Cache.after, hcache]
      exact ⟨cache.grows_empty x.shape, hkeys⟩
    | true =>
      obtain ⟨y, hperform, hy⟩ := perform_cases hoptions (hcall x hoptions)
        x.collaborators.decides_decided hpresent cache call.unresolved
      rw [show outcome = .ok y from hperform]
      rcases hy with ⟨r, s₁, v, -, p⟩ | ⟨-, reason, stack, -, -, hpartway, -⟩
      · exact ⟨p.grows hkeys, p.nodup_keys hkeys⟩
      · have hbegins := cache.begins_opened call.options x call.unresolved
        have hgrows := hpartway.grows hbegins.paired
        rw [hbegins.cache_eq] at hgrows
        exact ⟨hgrows, hpartway.nodup_keys (hbegins.results ▸ hkeys)⟩

theorem grows_of_calls {calls : List Call} (hcalls : ∀ call ∈ calls, call.options.Anchored w)
    (hkeys : cache.results.keys.Nodup) : Cache.Grows ∅ cache (cache.afterAll w calls) := by
  induction calls generalizing cache with
  | nil => exact .refl cache
  | cons call rest ih =>
    obtain ⟨hcall, hrest⟩ := List.forall_mem_cons.mp hcalls
    obtain ⟨hgrows, hnodup⟩ := grows_of_call hcall hkeys
    exact hgrows.trans (ih hrest hnodup)

theorem Walked.node_of_list (h : Walked c .list s paths results s') {f : Path} {id : NodeId}
    (hf : s'.visited.results.get? f = some (.node id)) :
    s.visited.results.get? f = some (.node id) := by
  have hput : ∀ (v : Visited Ref) file stage items,
      (v.put file stage (.list items)).results.get? f = some (.node id) →
        v.results.get? f = some (.node id) := by
    intro v file stage items hf
    rw [Visited.results_put, Table.get?_set] at hf
    split at hf
    · cases hf
    · exact hf
  induction h with
  | done => exact hf
  | known _ _ _ _ ih => exact ih hf
  | fresh _ _ _ _ ih₁ ih₂ => exact hput _ _ _ _ (ih₁ (hput _ _ _ _ (ih₂ hf)))

theorem Partway.node_of_list (h : Partway c .list s paths stack s') {f : Path} {id : NodeId}
    (hf : s'.visited.results.get? f = some (.node id)) :
    s.visited.results.get? f = some (.node id) := by
  induction h with
  | here judged walked => exact walked.node_of_list hf
  | within _ walked _ _ ih =>
    have hentered := ih hf
    rw [State.entered, Visited.results_put, Table.get?_set] at hentered
    split at hentered
    · cases hentered
    · exact walked.node_of_list hentered

theorem Performed.node_of_list (p : Performed x cache y s r s₁ v) (hlist : x.shape = .list)
    {f : Path} {id : NodeId} (hf : y.cache.results.get? f = some (.node id)) :
    cache.results.get? f = some (.node id) := by
  have hwalked := p.walked
  rw [hlist] at hwalked
  rw [p.results_cache, State.settlement, hlist] at hf
  rw [← p.begins.results]
  by_cases hstale : f ∈ s₁.pending.filter (· ≠ x.filename)
  · obtain ⟨others, -, hsettle⟩ := Shape.get?_settle_of_mem s₁.graph s₁.dependencies
      s₁.visited.results hstale
    rw [hsettle] at hf
    cases hf
  · rw [Shape.get?_settle_of_not_mem hstale] at hf
    exact hwalked.node_of_list hf

end Walk
end ModuleGraph
