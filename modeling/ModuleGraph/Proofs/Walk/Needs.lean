import ModuleGraph.Proofs.Walk.Final
import ModuleGraph.Proofs.Walk.Gathering
import ModuleGraph.Proofs.Walk.PostOrder

/-! What a list must hold, whatever the lists of the cache are. A file needs the files that it leads
to, and the names of those among them that the cache has. Nothing else comes into its list. All of
it comes in, and so the lists of its dependencies do, if the file leads to no cycle. If it leads to
one, its list is made anew, and the lists that are taken over must be complete. -/

namespace ModuleGraph.Walk

open ModuleGraph.Path Relation

variable {w : World} {o : Options} {x : Context} {c : Collaborators} {cache : Cache}
  {s s₁ s' : State} {y : Outcome} {r : Ref} {v : Visited Ref} {file f u a : Path}
  {paths : List Path} {results : List Ref}

namespace Cache

variable (c : Collaborators) (cache : Cache)

/-- A way from file to file that ends at the latest in a file of the cache. -/
def Leads : Path → Path → Prop := ReflTransGen (c.EdgeFrom cache.filesᶜ)

def Needs (file a : Path) : Prop := ∃ u, cache.Leads c file u ∧ (a = u ∨ a ∈ cache.names u)

/-- What the cache must be like for a file that leads to a cycle. The list of the entry file is not
made anew: the lists which that file leads to hold their own files. Any other list is made anew: a
list taken over that holds a further file holds what this one needs. -/
structure Serves (entry file : Path) : Prop where
  own : file = entry → ∀ k ∈ cache.files, cache.Leads c file k → k ∈ cache.names k
  complete : file ≠ entry → ∀ k ∈ cache.files, cache.Leads c file k →
    ∀ i ∈ cache.names k, cache.Leads c file i → i ≠ file →
      (i ∈ cache.files → ∀ a ∈ cache.names i, a ∈ cache.names k) ∧
      (i ∉ cache.files → ∀ d ∈ c.dependencies i, d ∈ cache.names k)

variable {c cache}

theorem Needs.trans (h : cache.Leads c file u) (hu : cache.Needs c u a) : cache.Needs c file a := by
  obtain ⟨u', hto, ha⟩ := hu
  exact ⟨u', ReflTransGen.trans h hto, ha⟩

theorem Leads.ends {walked : List Path} (h : cache.Leads c f u)
    (hclosed : ∀ u ∈ walked, ∀ v, c.Edge u v → v ∈ walked ∨ v ∈ cache.files)
    (hf : f ∈ walked ∨ f ∈ cache.files) : u ∈ walked ∨ u ∈ cache.files := by
  induction h with
  | refl => exact hf
  | tail _ hedge ih => exact hclosed _ (ih.resolve_right hedge.1) _ hedge.2

theorem names_of_not_mem (h : f ∉ cache.files) : cache.names f = [] := by
  rw [Cache.names, Table.get?_eq_none_iff.mpr h]
  rfl

theorem Serves.decided {entry : Path} (h : cache.Serves c entry f) :
    cache.Serves c.decided entry f := by
  have hleads : cache.Leads c.decided = cache.Leads c := by
    rw [Leads, Leads, Collaborators.decided_edgeFrom]
  constructor
  · rw [hleads]
    exact h.own
  · rw [hleads, Collaborators.decided_dependencies]
    exact h.complete

theorem Begins.names_eq (hs : cache.Begins s) (f : Path) : s.cache.names f = cache.names f := by
  rw [hs.cache_eq]

end Cache

theorem Walked.needed (h : Walked c .list s paths results s') (hold : cache.files ⊆ s.seen)
    (hs : ∀ f, ∀ a ∈ s.cache.names f, cache.Needs c f a) :
    ∀ f, ∀ a ∈ s'.cache.names f, cache.Needs c f a := by
  induction h with
  | done => exact hs
  | known _ _ _ _ ih => exact ih hold hs
  | @fresh s s₁ s' path rest below results notes unseen inner others ih₁ ih₂ =>
    have hbelow := ih₁ (hold.trans ?_) ?_
    · refine ih₂ (hold.trans (inner.seen_subset_left _ _)) fun f a ha => ?_
      by_cases hff : f = path
      · subst hff
        rw [Cache.names_of_get? (inner.get?_left _), Graph.namesOf,
          Collaborators.mem_gathered] at ha
        rcases ha with ha | ⟨d, hd, ha⟩
        · exact ⟨_, .refl, Or.inl ha⟩
        · have hnew : f ∈ cache.filesᶜ := fun h => hold h unseen
          exact .trans (.single (Collaborators.edgeFrom_iff.mpr ⟨hnew, hd⟩)) (hbelow _ a ha)
      · rw [State.names_left hff] at ha
        exact hbelow f a ha
    · rw [State.seen_entered]
      exact Set.subset_insert _ _
    · intro f a ha
      by_cases hff : f = path
      · subst hff
        rw [State.names_entered_self] at ha
        cases ha
      · rw [State.names_entered hff] at ha
        exact hs f a ha

theorem Walked.lists_new (h : Walked c .list s paths results s') :
    ∀ u ∈ s'.seen, u ∉ s.seen → u ∈ s'.listed results ∧ ∀ d ∈ c.dependencies u,
      d ∈ s.seen → ∀ a ∈ s.cache.names d, a ∈ s'.listed results := by
  induction h with
  | done => exact fun u hu hnew => absurd hu hnew
  | @known s s' path rest r results notes seen hit others ih =>
    have hmore : ∀ a ∈ s'.listed results, a ∈ s'.listed (r :: results) := by
      intro a ha
      rw [State.listed, List.flatMap_cons]
      exact List.mem_append_right _ ha
    intro u hu hnew
    obtain ⟨hlisted, hnames⟩ := ih u hu hnew
    exact ⟨hmore u hlisted, fun d hd hseen a ha => hmore a (hnames d hd hseen a ha)⟩
  | @fresh s s₁ s' path rest below results notes unseen inner others ih₁ ih₂ =>
    have hlisted : ∀ a, (a ∈ c.gathered s₁.cache.names path ∨ a ∈ s'.listed results) →
        a ∈ s'.listed ((Shape.list.assemble s₁.graph path
          ((c.dependencies path).zip below) (s.provisional .list)).2 :: results) := by
      intro a ha
      rw [inner.assemble_eq, State.listed, List.flatMap_cons, List.mem_append]
      exact ha
    have hbelow : ∀ a ∈ s₁.listed below, a ∈ c.gathered s₁.cache.names path := by
      intro a ha
      rw [inner.listed_eq, List.mem_flatMap] at ha
      exact Collaborators.mem_gathered.mpr (Or.inr ha)
    have hne : ∀ k ∈ s.seen, k ≠ path := fun k hk hkf => hk (hkf ▸ unseen)
    have hentered : ∀ k ∈ s.seen, k ∈ (s.entered c .list path notes).seen := by
      intro k hk
      rw [State.seen_entered]
      exact Or.inr hk
    have hnames : ∀ k ∈ s.seen, s₁.cache.names k = s.cache.names k := by
      intro k hk
      rw [inner.names_eq (hentered k hk), State.names_entered (hne k hk)]
    intro u hu hnew
    by_cases hleft : u ∈ (s₁.left .list path
        ((c.dependencies path).zip below) (s.provisional .list)).seen
    · rw [State.seen_left] at hleft
      by_cases huf : u = path
      · -- the file itself: its list is gathered from what its dependencies have by now
        refine ⟨hlisted u (Or.inl (Collaborators.mem_gathered.mpr (Or.inl huf))), ?_⟩
        intro d hd hseen a ha
        rw [← hnames _ hseen] at ha
        exact hlisted a (Or.inl (Collaborators.mem_gathered.mpr (Or.inr ⟨d, huf ▸ hd, ha⟩)))
      · -- a file below it
        have hnot : u ∉ (s.entered c .list path notes).seen := by
          rw [State.seen_entered]
          exact fun h => h.elim huf hnew
        obtain ⟨hself, hold⟩ := ih₁ u (hleft.resolve_left huf) hnot
        refine ⟨hlisted u (Or.inl (hbelow u hself)), fun d hd hseen a ha => ?_⟩
        refine hlisted a (Or.inl (hbelow a (hold d hd (hentered _ hseen) a ?_)))
        rwa [State.names_entered (hne _ hseen)]
    · -- a file beside it
      obtain ⟨hself, hold⟩ := ih₂ u hu hleft
      refine ⟨hlisted u (Or.inr hself), fun d hd hseen a ha => ?_⟩
      refine hlisted a (Or.inr (hold d hd (inner.seen_subset_left _ _ hseen) a ?_))
      rwa [State.names_left (hne _ hseen), hnames _ hseen]

/-- What settling finds: the dependencies of the files walked have been recorded, and any other file
is known by the names that it has in the cache. -/
structure Cache.Records (c : Collaborators) (cache : Cache) (walked : List Path)
    (dependencies : Table Path (List Path)) (known : Path → List Text) : Prop where
  recorded : ∀ u, dependencies.get? u = if u ∈ walked then some (c.dependencies u) else none
  known : ∀ u, u ∉ walked → known u = cache.names u
  new : ∀ u ∈ walked, u ∉ cache.files
  closed : ∀ u ∈ walked, ∀ v, c.Edge u v → v ∈ walked ∨ v ∈ cache.files

namespace Cache.Records

variable {walked : List Path} {dependencies : Table Path (List Path)} {known : Path → List Text}
  {entry : Path} (h : cache.Records c walked dependencies known)
include h

theorem led (hf : f ∈ walked) (hto : cache.Leads c f u) : u ∈ walked ∨ u ∈ cache.files :=
  hto.ends h.closed (Or.inl hf)

theorem needs_of_mem (hu : u ∈ walked) :
    PostOrder.needs dependencies known u = c.dependencies u := by
  rw [PostOrder.needs, h.recorded, if_pos hu]
  rfl

theorem needs_of_not_mem (hu : u ∉ walked) :
    PostOrder.needs dependencies known u = cache.names u := by
  rw [PostOrder.needs, h.recorded, if_neg hu]
  exact h.known u hu

variable (hf : f ∈ walked)
include hf

theorem leads_iff : PostOrder.Leads dependencies f u ↔ cache.Leads c f u := by
  constructor
  · intro hto
    induction hto with
    | refl => exact .refl
    | @tail u v _ hedge ih =>
      obtain ⟨deps, hdeps, hv⟩ := hedge
      rw [h.recorded] at hdeps
      split at hdeps
      · next hu =>
        cases hdeps
        exact ih.tail (Collaborators.edgeFrom_iff.mpr ⟨h.new u hu, hv⟩)
      · cases hdeps
  · intro hto
    induction hto with
    | refl => exact .refl
    | @tail u v hto hedge ih =>
      have hu : u ∈ walked := (h.led hf hto).resolve_right hedge.1
      exact ih.tail ⟨_, by rw [h.recorded, if_pos hu], (Collaborators.edgeFrom_iff.mp hedge).2⟩

theorem needs_of_mem_below (ha : a ∈ PostOrder.below dependencies known f) :
    cache.Needs c f a := by
  obtain ⟨u, hto, ha⟩ := PostOrder.exists_of_mem_below ha
  by_cases hu : u ∈ walked
  · rw [h.needs_of_mem hu] at ha
    rcases ha with rfl | ha
    · exact ⟨a, (h.leads_iff hf).mp hto, Or.inl rfl⟩
    · have hto' := ReflTransGen.tail hto ⟨_, by rw [h.recorded, if_pos hu], ha⟩
      exact ⟨a, (h.leads_iff hf).mp hto', Or.inl rfl⟩
  · rw [h.needs_of_not_mem hu] at ha
    exact ⟨u, (h.leads_iff hf).mp hto, ha⟩

variable (hserves : cache.Serves c entry f) (hne : f ≠ entry)
include hserves hne

theorem complete :
    PostOrder.Complete {u | PostOrder.Leads dependencies f u} f dependencies known := by
  refine ⟨fun u hu deps hdeps d hd => ReflTransGen.tail hu ⟨deps, hdeps, hd⟩, ?_⟩
  intro k hk hnone i hi hto hif a ha
  rw [Set.mem_ofPred_eq, h.leads_iff hf] at hk hto
  have hold : k ∉ walked := by
    intro hwalked
    rw [h.recorded, if_pos hwalked] at hnone
    cases hnone
  rw [h.known k hold] at hi ⊢
  have hcached := (h.led hf hk).resolve_left hold
  obtain ⟨hnames, hdeps⟩ := hserves.complete hne k hcached hk i hi hto hif
  by_cases hiw : i ∈ walked
  · rw [h.needs_of_mem hiw] at ha
    exact hdeps (h.new i hiw) a ha
  · rw [h.needs_of_not_mem hiw] at ha
    exact hnames ((h.led hf hto).resolve_left hiw) a ha

theorem mem_below_of_needs (ha : cache.Needs c f a) :
    a ∈ PostOrder.below dependencies known f := by
  obtain ⟨u, hto, ha⟩ := ha
  have hkey : f ∈ dependencies.keys := Table.mem_keys (by rw [h.recorded, if_pos hf])
  refine PostOrder.mem_below_of_leads hkey (h.complete hf hserves hne)
    ((h.leads_iff hf).mpr hto) (ha.imp_right fun ha => ?_)
  by_cases hu : u ∈ walked
  · rw [Cache.names_of_not_mem (h.new u hu)] at ha
    cases ha
  · rwa [h.needs_of_not_mem hu]

end Cache.Records

section Performed

variable (p : Performed x cache y s r s₁ v) (hlist : x.shape = .list)

include p

theorem Performed.edge_ends (hu : u ∈ y.state.extracted) (hedge : x.collaborators.Edge u a) :
    a ∈ y.state.extracted ∨ a ∈ cache.files := by
  obtain ⟨pre, post, held, -, hsearch, rfl, -, -⟩ := p.trace
  exact (hsearch.mem_of_next hu (Collaborators.mem_dependencies_iff_edge.mpr hedge)).symm

theorem Performed.exists_result (hu : u ∈ y.state.extracted) (hedge : x.collaborators.Edge u a) :
    ∃ r, y.cache.results.get? a = some r := by
  obtain ⟨pre, post, held, -, -, hextracted, -, hkeys⟩ := p.trace
  apply Table.exists_of_mem_keys
  rw [hkeys, ← hextracted, List.mem_append]
  exact (p.edge_ends hu hedge).symm

theorem Performed.new_of_extracted (hf : f ∈ y.state.extracted) : f ∈ cache.filesᶜ := by
  obtain ⟨pre, post, held, -, hsearch, hextracted, -, -⟩ := p.trace
  exact hsearch.not_mem_seen (hextracted ▸ hf)

theorem Performed.get?_old (hu : u ∉ y.state.extracted) :
    s₁.visited.results.get? u = cache.results.get? u := by
  obtain ⟨pre, post, held, t, -, hextracted, -, -⟩ := p.trace
  rw [hextracted] at hu
  by_cases hold : u ∈ s.seen
  · rw [p.walked.result_eq hold, p.begins.results]
  · have hnone : u ∉ s.visited.results.keys := fun h => hold (p.begins.paired.seen_iff.mpr h)
    have hnone₁ : u ∉ s₁.visited.results.keys := by
      rw [t.keys p.begins.paired, List.mem_append]
      exact fun h => h.elim hnone hu
    rw [p.begins.results] at hnone
    rw [Table.get?_eq_none_iff.mpr hnone, Table.get?_eq_none_iff.mpr hnone₁]

include hlist

theorem Performed.graph_eq : y.cache.graph = s₁.graph := by
  rw [Outcome.cache, p.graph, hlist]
  rfl

theorem Performed.names_kept (hf : f ∉ s₁.pending ∨ f = x.filename) :
    y.cache.names f = s₁.cache.names f := by
  rw [Cache.names, Cache.names, p.get?_kept hlist hf, p.graph_eq hlist, State.cache]

/-- The list of a file that was held back, but is not the entry file, is made anew. -/
theorem Performed.get?_stale (hstale : f ∈ s₁.pending.filter (· ≠ x.filename)) :
    ∃ known, cache.Records x.collaborators y.state.extracted s₁.dependencies known ∧
      y.cache.results.get? f = some (.list (PostOrder.below s₁.dependencies known f)) := by
  obtain ⟨pre, post, held, t, -, hextracted, -, -⟩ := p.trace
  obtain ⟨others, hothers, hsettle⟩ := Shape.get?_settle_of_mem s₁.graph s₁.dependencies
    s₁.visited.results hstale
  rw [p.results_cache, State.settlement, hlist]
  refine ⟨_, ⟨?_, fun u hu => ?_, fun u => p.new_of_extracted, fun u hu v => p.edge_ends hu⟩,
    hsettle⟩
  · rw [hextracted]
    exact t.get?_dependencies p.begins
  · have hfresh : u ∉ s₁.pending.filter (· ≠ x.filename) := by
      intro hmem
      have hheld := p.pending_eq t ▸ (List.mem_filter.mp hmem).1
      exact hu (hextracted ▸ t.held_subset hheld)
    have hwalked := p.walked
    rw [hlist] at hwalked
    rw [hothers u hfresh, p.get?_old hu, hwalked.graph_eq, p.begins.graph, Cache.names]

theorem Performed.needed (ha : a ∈ y.cache.names f) : cache.Needs x.collaborators f a := by
  by_cases hstale : f ∈ s₁.pending.filter (· ≠ x.filename)
  · obtain ⟨known, hrecords, hresult⟩ := p.get?_stale hlist hstale
    rw [Cache.names_of_get? hresult] at ha
    obtain ⟨pre, post, held, t, -, hextracted, -, -⟩ := p.trace
    have hheld := p.pending_eq t ▸ (List.mem_filter.mp hstale).1
    exact hrecords.needs_of_mem_below (hextracted ▸ t.held_subset hheld) ha
  · have hkept : f ∉ s₁.pending ∨ f = x.filename := by
      by_contra hnot
      rw [not_or, not_not] at hnot
      exact hstale (List.mem_filter.mpr ⟨hnot.1, decide_eq_true hnot.2⟩)
    have hwalked := p.walked
    rw [hlist] at hwalked
    rw [p.names_kept hlist hkept] at ha
    refine hwalked.needed p.begins.seen.symm.subset (fun f a ha => ?_) f a ha
    rw [p.begins.names_eq] at ha
    exact ⟨f, .refl, Or.inr ha⟩

theorem Performed.mem_entry (hf : x.filename ∈ y.state.extracted)
    (hown : ∀ k ∈ cache.files, cache.Leads x.collaborators x.filename k → k ∈ cache.names k) :
    ∃ items, y.cache.results.get? x.filename = some (.list items) ∧
      ∀ a, cache.Needs x.collaborators x.filename a → a ∈ items := by
  obtain ⟨pre, post, held, t, -, hextracted, -, -⟩ := p.trace
  have hwalked := p.walked
  rw [hlist] at hwalked
  obtain ⟨⟨-, hr⟩, -⟩ := List.forall₂_cons.mp hwalked.hits
  obtain ⟨items, rfl⟩ : ∃ items, r = .list items := by
    cases r with
    | list items => exact ⟨items, rfl⟩
    | node id =>
      have hold := hwalked.node_of_list hr
      rw [p.begins.results] at hold
      exact absurd (Table.mem_keys hold) (p.new_of_extracted hf)
  refine ⟨items, (p.get?_kept hlist (Or.inr rfl)).trans hr, ?_⟩
  have hlisted : ∀ a ∈ s₁.listed [.list items], a ∈ items := by
    intro a ha
    simpa [State.listed, Graph.namesOf] using ha
  have hall : ∀ u ∈ y.state.extracted, u ∈ items ∧ ∀ d ∈ x.collaborators.dependencies u,
      d ∈ cache.files → ∀ a ∈ cache.names d, a ∈ items := by
    intro u hu
    have hseen : u ∈ s₁.seen := t.seen_eq ▸ Or.inr (hextracted ▸ hu)
    obtain ⟨hlists, hnames⟩ := hwalked.lists_new u hseen (t.search.not_mem_seen (hextracted ▸ hu))
    refine ⟨hlisted u hlists, fun d hd hold a ha => hlisted a (hnames d hd ?_ a ?_)⟩
    · rwa [p.begins.seen]
    · rwa [p.begins.names_eq]
  rintro a ⟨u, hto, ha⟩
  rcases hto.ends (fun u hu v => p.edge_ends hu) (Or.inl hf) with hu | hu
  · rw [Cache.names_of_not_mem (p.new_of_extracted hu), or_iff_left List.not_mem_nil] at ha
    exact ha ▸ (hall u hu).1
  · rcases hto.cases_tail with rfl | ⟨u', hto', hedge⟩
    · exact absurd hu (p.new_of_extracted hf)
    · have hu' := (Cache.Leads.ends hto' (fun u hu v => p.edge_ends hu)
        (Or.inl hf)).resolve_right hedge.1
      refine (hall u' hu').2 u (Collaborators.edgeFrom_iff.mp hedge).2 hu a ?_
      rcases ha with rfl | ha
      · exact hown _ hu hto
      · exact ha

theorem Performed.mem_gathered (hf : f ∈ y.state.extracted)
    (hacyclic : ¬ x.collaborators.Cyclic cache.filesᶜ f) :
    ∃ items, y.cache.results.get? f = some (.list items) ∧
      ∀ d ∈ x.collaborators.dependencies f, ∀ a ∈ y.cache.names d, a ∈ items := by
  obtain ⟨pre, post, held, t, -, hextracted, -, -⟩ := p.trace
  have hwalked := p.walked
  rw [hlist] at hwalked
  have hfree : ∀ d, ¬ x.collaborators.Cyclic cache.filesᶜ d → d ∉ s₁.pending := by
    intro d hd hheld
    exact hd ((p.held_iff (hextracted ▸ t.held_subset (p.pending_eq t ▸ hheld))).mp hheld)
  have hdone : s₁.visited.stage f = .done := by
    rw [t.stage, if_neg (p.pending_eq t ▸ hfree f hacyclic), if_pos (hextracted ▸ hf)]
  obtain ⟨-, hgathers⟩ := (carried_gathers _ _).walked hwalked (fun f => p.begins.mem_seen)
    (p.begins.underway _ _) ⟨p.begins.closes, p.begins.gathers⟩
  refine ⟨_, (p.get?_kept hlist (Or.inl (hfree f hacyclic))).trans
    (hgathers f (p.new_of_extracted hf) hdone), fun d hd a ha => ?_⟩
  have hedge := Collaborators.edgeFrom_iff.mpr ⟨p.new_of_extracted hf, hd⟩
  rw [p.names_kept hlist (Or.inl (hfree d fun h => hacyclic (.of_edge hedge h)))] at ha
  exact Collaborators.mem_gathered.mpr (Or.inr ⟨d, hd, ha⟩)

theorem Performed.lists_names_of_dependencies (hf : f ∈ y.state.extracted)
    (hserves : x.collaborators.Cyclic cache.filesᶜ f →
      cache.Serves x.collaborators x.filename f) :
    ∃ items, y.cache.results.get? f = some (.list items) ∧
      ∀ d ∈ x.collaborators.dependencies f, ∀ a ∈ y.cache.names d, a ∈ items := by
  by_cases hcyclic : x.collaborators.Cyclic cache.filesᶜ f
  · have hserves := hserves hcyclic
    obtain ⟨items, hitems, hall⟩ : ∃ items, y.cache.results.get? f = some (.list items) ∧
        ∀ a, cache.Needs x.collaborators f a → a ∈ items := by
      by_cases hentry : f = x.filename
      · subst hentry
        exact p.mem_entry hlist hf (hserves.own rfl)
      · have hstale : f ∈ s₁.pending.filter (· ≠ x.filename) :=
          List.mem_filter.mpr ⟨(p.held_iff hf).mpr hcyclic, decide_eq_true hentry⟩
        obtain ⟨known, hrecords, hresult⟩ := p.get?_stale hlist hstale
        exact ⟨_, hresult, fun a => hrecords.mem_below_of_needs hf hserves hentry⟩
    refine ⟨items, hitems, fun d hd a ha => hall a ?_⟩
    have hto : cache.Leads x.collaborators f d :=
      .single (Collaborators.edgeFrom_iff.mpr ⟨p.new_of_extracted hf, hd⟩)
    exact .trans hto (p.needed hlist ha)
  · exact p.mem_gathered hlist hf hcyclic

end Performed

/-- A call in list form that ends with a result: the list of each file that it has walked holds all
that the results of the file's direct dependencies hold. This is so for every cache if the file
leads to no cycle of files that the cache did not have. If it leads to one, the cache must be such
as `Cache.Serves` says. -/
theorem lists_hold_results_of_dependencies {w : World} {o : Options} {x : Context}
    (h : Context.ofOptions w o = .ok x) (hanchor : isAbsolute x.anchor = true)
    (hlist : o.shape = .list) {cache : Cache} {unresolved : List Text} {y : Outcome}
    (hy : perform w o cache unresolved = .ok y) (hresult : ∃ r, y.result = .ok r) :
    ∀ f ∈ y.state.extracted,
      (x.collaborators.Cyclic cache.filesᶜ f → cache.Serves x.collaborators x.filename f) →
      ∃ items, y.cache.results.get? f = some (.list items) ∧
        ∀ d ∈ x.collaborators.dependencies f,
          ∃ r, y.cache.results.get? d = some r ∧
            ∀ a ∈ y.cache.graph.namesOf r, a ∈ items := by
  intro f hf hserves
  have hx := Context.fits h
  have hc := x.collaborators.decides_decided
  cases hpresent : w.pathExists x.filename with
  | false =>
    obtain ⟨-, -, hnone⟩ := outcome_of_absent h hpresent hy
    rw [hnone] at hf
    cases hf
  | true =>
    obtain ⟨r, s₁, v, -, p⟩ := performed_of_ok h hanchor hc hpresent hy hresult
    obtain ⟨items, hitems, hall⟩ := p.lists_names_of_dependencies (hx.shape.trans hlist) hf
      fun hcyclic => (hserves (Collaborators.decided_cyclic ▸ hcyclic)).decided
    refine ⟨items, hitems, fun d hd => ?_⟩
    have hedge : x.collaborators.decided.Edge f d := by
      rw [Collaborators.decided_edge]
      exact Collaborators.mem_dependencies_iff_edge.mp hd
    obtain ⟨r, hr⟩ := p.exists_result hf hedge
    rw [Collaborators.decided_dependencies] at hall
    refine ⟨r, hr, fun a ha => hall d hd a ?_⟩
    exact (Cache.names_of_get? hr).symm ▸ ha

namespace FourFiles

def seeded (items : List Text) : Cache := ⟨.empty, [(['/', 'k'], .list items)]⟩

theorem mem_files {items : List Text} {f : Path} : f ∈ (seeded items).files ↔ f = ['/', 'k'] := by
  simp [Cache.files, seeded, Table.keys]

end FourFiles

theorem lists_of_four_files_hold_results_of_dependencies :
    let items : List Text := [['/', 'e'], ['/', 'f'], ['/', 'w'], ['/', 'k']]
    let c := (FourFiles.context ['/', 'e'] none).collaborators
    ∃ y, perform FourFiles.world (FourFiles.options ['/', 'e'] .absent)
      (FourFiles.seeded items) [] =
        .ok y ∧
      y.state.extracted = [['/', 'e'], ['/', 'w'], ['/', 'f']] ∧
      ∀ f ∈ y.state.extracted, ∃ items, y.cache.results.get? f = some (.list items) ∧
        ∀ d ∈ c.dependencies f, ∃ r, y.cache.results.get? d = some r ∧
          ∀ a ∈ y.cache.graph.namesOf r, a ∈ items := by
  intro items c
  obtain ⟨y, s, r, s₁, v, hperform, p⟩ := perform_of_found FourFiles.ofOptions_eq rfl
    (fun _ h => by cases h) (by decide +kernel) (FourFiles.seeded items) []
  have hextracted : (perform FourFiles.world (FourFiles.options ['/', 'e'] .absent)
      (FourFiles.seeded items) []).map (fun y => y.state.extracted) =
      .ok [['/', 'e'], ['/', 'w'], ['/', 'f']] := by
    decide +kernel
  rw [hperform] at hextracted
  refine ⟨y, hperform, Except.ok.inj hextracted, fun f hf => ?_⟩
  refine lists_hold_results_of_dependencies FourFiles.ofOptions_eq rfl rfl hperform
    ⟨_, p.result⟩ f hf fun _ => ⟨?_, ?_⟩
  · intro _ k hk _
    rw [FourFiles.mem_files.mp hk]
    decide
  · intro _ k hk _ i hi _ _
    obtain rfl := FourFiles.mem_files.mp hk
    have hcomplete : ∀ i ∈ items, ∀ d ∈ c.dependencies i, d ∈ items := by
      decide +kernel
    exact ⟨fun hold a ha => FourFiles.mem_files.mp hold ▸ ha, fun _ => hcomplete i hi⟩

/-- A list that is taken over marks a file as entered, and what that file needs is missed. -/
theorem list_taken_over_hides_what_its_files_need :
    let items : List Text := [['/', 'e'], ['/', 'k']]
    let c := (FourFiles.context ['/', 'e'] none).collaborators
    ∃ y, perform FourFiles.world (FourFiles.options ['/', 'e'] .absent)
      (FourFiles.seeded items) [] =
        .ok y ∧
      (∃ r, y.result = .ok r) ∧ ['/', 'f'] ∈ y.state.extracted ∧
      ['/', 'e'] ∈ c.dependencies ['/', 'f'] ∧
      (∃ items, y.cache.results.get? ['/', 'e'] = some (.list items) ∧ ['/', 'w'] ∈ items) ∧
      ∃ items, y.cache.results.get? ['/', 'f'] = some (.list items) ∧ ['/', 'w'] ∉ items := by
  intro items c
  obtain ⟨y, s, r, s₁, v, hperform, p⟩ := perform_of_found FourFiles.ofOptions_eq rfl
    (fun _ h => by cases h) (by decide +kernel) (FourFiles.seeded items) []
  have hcomputed : (perform FourFiles.world (FourFiles.options ['/', 'e'] .absent)
      (FourFiles.seeded items) []).map (fun y => (y.state.extracted, y.cache.results)) =
      .ok ([['/', 'e'], ['/', 'w'], ['/', 'f']],
        [(['/', 'k'], .list items),
         (['/', 'e'], .list [['/', 'w'], ['/', 'k'], ['/', 'f'], ['/', 'e']]),
         (['/', 'w'], .list [['/', 'w']]),
         (['/', 'f'], .list [['/', 'e'], ['/', 'k'], ['/', 'f']])]) := by
    decide +kernel
  rw [hperform] at hcomputed
  obtain ⟨hextracted, hresults⟩ := Prod.mk.inj (Except.ok.inj hcomputed)
  refine ⟨y, hperform, ⟨_, p.result⟩, ?_, by decide +kernel, ?_⟩
  · rw [hextracted]
    decide
  · rw [hresults]
    exact ⟨⟨_, rfl, by decide⟩, ⟨_, rfl, by decide⟩⟩

end ModuleGraph.Walk
