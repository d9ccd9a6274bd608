import ModuleGraph.Proofs.Walk.Lists
import ModuleGraph.Proofs.Walk.Perform

/-! The list that a call gives in list form. On a cache that holds nothing but full lists, it is
the depth-first post-order from the entry file: everything that the entry file leads to, and each
file behind what it needs, as far as a cycle does not forbid it. -/

namespace ModuleGraph.Walk

open ModuleGraph.Path Relation DepthFirst

variable {w : World} {o : Options} {x : Context} {c : Collaborators} {cache : Cache}

/-- A cache that holds, for each of its files, the depth-first post-order from that file, and with
a file everything that the file leads to. -/
structure Cache.Full (c : Collaborators) (cache : Cache) : Prop where
  nodup : cache.results.keys.Nodup
  closed : Closed c.dependencies cache.files
  full : ∀ f r, cache.results.get? f = some r →
    ∃ post, PostOrderFrom c.dependencies f post ∧ r = .list post

theorem Cache.full_of_empty (g : Graph) : Cache.Full c ⟨g, []⟩ :=
  ⟨List.nodup_nil, fun _ h => absurd h List.not_mem_nil, fun _ _ h => by cases h⟩

theorem Cache.Full.standing {s : State} (h : cache.Full c) (hs : cache.Begins s) :
    Standing c cache.files ∅ ∅ s := by
  refine ⟨by simp [Closed], subset_rfl, by simp, fun f hf => ?_, fun f hf => ?_, fun f hf => ?_,
    by simp⟩
  · rwa [hs.seen]
  · rw [hs.seen]
    simpa using hf
  · rw [hs.results]
    cases hr : cache.results.get? f with
    | none => exact absurd hf (Table.get?_eq_none_iff.mp hr)
    | some r =>
      obtain ⟨post, hpost, rfl⟩ := h.full f r hr
      exact ⟨post, hpost, rfl⟩

theorem Performed.list {y : Outcome} {s s₁ : State} {r : Ref} {v : Visited Ref}
    (p : Performed x cache y s r s₁ v) (hlist : x.shape = .list)
    (hcache : cache.Full x.collaborators) :
    ∃ post, PostOrderFrom x.collaborators.dependencies x.filename post ∧
      s₁.visited.results.get? x.filename = some (.list post) ∧
      y.result = .ok (.list post) := by
  have hwalked := p.walked
  rw [hlist] at hwalked
  obtain ⟨pre, post, l⟩ := hwalked.lists hcache.closed (hcache.standing p.begins)
  have hpost : PostOrderFrom x.collaborators.dependencies x.filename post :=
    ⟨pre, l.search⟩
  have hlisted : distinct (s₁.graph.namesOf r) = post := by
    have hlisted := l.listed
    simpa [State.listed, l.graph] using hlisted
  obtain ⟨items, hitems, hnodup⟩ : ∃ items,
      s₁.visited.results.get? x.filename = some (.list items) ∧
        items.Nodup := by
    by_cases hdone : x.filename ∈ cache.files
    · obtain ⟨items, hitems, hresult⟩ := l.standing.full _ hdone
      exact ⟨items, hresult, hitems.nodup⟩
    · have hentry := l.search.mem_post_iff.mp hpost.mem_self
      obtain ⟨items, hresult, hnodup, -⟩ := l.standing.partly _ (Or.inr hentry) hdone
      exact ⟨items, hresult, hnodup⟩
  have hhit := hwalked.hits
  simp only [List.forall₂_cons, List.forall₂_nil_left_iff, and_true] at hhit
  obtain rfl : r = .list items := Option.some.inj (hhit.2.symm.trans hitems)
  have hsame : items = post := by
    rw [← hlisted, Graph.namesOf, distinct_of_nodup hnodup]
  refine ⟨post, hpost, hsame ▸ hitems, ?_⟩
  rw [p.result, hlist, Shape.finalize, hlisted]

/-- On an empty cache, a call in list form gives the files that the entry file leads to, each
once, the entry file last; and a file that another one needs stands before it, unless it leads back
to it. -/
theorem list_holds_reachable_files_in_order (h : Context.ofOptions w o = .ok x)
    (hlist : o.shape = .list) (hanchor : isAbsolute x.anchor = true)
    (hc : x.collaborators.Decisive) (hpresent : w.pathExists x.filename = true) (g : Graph)
    (unresolved : List Text) :
    ∃ y list, perform w o ⟨g, []⟩ unresolved = .ok y ∧ y.result = .ok (.list list) ∧
      let Edge := x.collaborators.Edge
      let entry := x.filename
      list.Nodup ∧ (∀ f, f ∈ list ↔ ReflTransGen Edge entry f) ∧ list.getLast? = some entry ∧
      ∀ u ∈ list, ∀ v, Edge u v → ¬ ReflTransGen Edge v u → [v, u].Sublist list := by
  obtain ⟨y, s, r, s₁, v, hperform, p⟩ :=
    perform_of_found h hanchor hc hpresent ⟨g, []⟩ unresolved
  obtain ⟨post, hpost, -, hresult⟩ :=
    p.list ((Context.fits h).shape.trans hlist) (Cache.full_of_empty g)
  have hedge := Collaborators.mem_dependencies_eq_edge (c := x.collaborators)
  refine ⟨y, post, hperform, hresult, hpost.nodup, fun f => ?_, ?_, fun u hu v huv hback => ?_⟩
  · rw [hpost.mem_iff, hedge]
  · obtain ⟨before, rfl⟩ := hpost.eq_append
    simp
  · obtain ⟨pre, hsearch⟩ := hpost
    have hnext := Collaborators.mem_dependencies_iff_edge.mpr huv
    rcases hsearch.before_of_next hu hnext with hseen | hsub | hr
    · exact hseen.elim
    · exact hsub
    · exact absurd (hedge ▸ hr) hback

theorem list_of_two_files : ∃ y list,
    perform TwoFiles.world (TwoFiles.options .list ['/', 'f']) ⟨.empty, []⟩ [] = .ok y ∧
      y.result = .ok (.list list) ∧ list.Nodup ∧ list.getLast? = some ['/', 'f'] := by
  obtain ⟨y, list, hperform, hresult, hnodup, -, hlast, -⟩ :=
    list_holds_reachable_files_in_order (TwoFiles.ofOptions_eq .list rfl) rfl rfl
      (TwoFiles.decisive .list ['/', 'f']) (by decide +kernel) .empty []
  exact ⟨y, list, hperform, hresult, hnodup, hlast.trans (by decide +kernel)⟩

example : (perform TwoFiles.world (TwoFiles.options .list ['/', 'f']) ⟨.empty, []⟩
    []).map Outcome.result = .ok (.ok (.list [['/', 'd'], ['/', 'f']])) := by
  decide +kernel

end ModuleGraph.Walk
