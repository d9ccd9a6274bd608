import ModuleGraph.Proofs.Walk.Cycles
import ModuleGraph.Proofs.Walk.Growth
import ModuleGraph.Proofs.Walk.Moments

/-! Results that are done are final. From the moment at which a file is done, its result does not
change, nor does what stands below it, in the same call or in a later one. A file that is held back
leads to a cycle; the other way round, a file that leads to a cycle is held back if the cycle shows,
and what is done sooner has nothing below it that is still to come. -/

namespace ModuleGraph

open Walk

namespace Graph

theorem sameBelow_list (g g' : Graph) (items : List Text) : g.SameBelow g' (.list items) := by
  intro id hid
  exfalso
  induction hid with
  | here h => cases h
  | next _ _ ih => exact ih

end Graph

namespace Walk

open ModuleGraph.Path Relation

variable {w : World} {o : Options} {x : Context} {c : Collaborators} {cache a b : Cache}
  {s s₁ s' last : State} {y : Outcome} {r : Ref} {v : Visited Ref} {shape : Shape}
  {files : Set Path}

def State.Keeps (s s' : State) : Prop :=
  ∀ f, s.visited.stage f = .done →
    s'.visited.stage f = .done ∧ s'.visited.results.get? f = s.visited.results.get? f

theorem State.Keeps.trans (h : s.Keeps s₁) (h' : s₁.Keeps s') : s.Keeps s' := by
  intro f hf
  obtain ⟨hf₁, hresult⟩ := h f hf
  obtain ⟨hf', hresult'⟩ := h' f hf₁
  exact ⟨hf', hresult'.trans hresult⟩

theorem Settled.result_of_not_mem {entry : Path} (h : Settled shape entry s v) {f : Path}
    (hf : f ∉ s.pending) : v.results.get? f = s.visited.results.get? f := by
  rw [h.results]
  cases shape with
  | tree => rfl
  | list =>
    rw [State.settlement, Shape.get?_settle_of_not_mem]
    exact fun hmem => hf (List.mem_filter.mp hmem).1

theorem State.Step.keeps (h : State.Step shape s s') : s.Keeps s' := by
  intro f hf
  cases h with
  | stays same =>
    rw [same]
    exact ⟨hf, rfl⟩
  | @begins _ file unseen put =>
    have hne : f ≠ file := by
      rintro rfl
      rw [unseen] at hf
      cases hf
    rw [put, Visited.stage_put, if_neg hne, Visited.results_put, Table.get?_set, if_neg hne]
    exact ⟨hf, rfl⟩
  | @completes file r deps opened hit =>
    have hne : f ≠ file := by
      rintro rfl
      rw [opened] at hf
      cases hf
    rw [State.left_stage, if_neg hne, State.left, Visited.results_put, Table.get?_set, if_neg hne]
    exact ⟨hf, rfl⟩
  | settles opened settled =>
    have hfree : f ∉ s.pending := by
      intro hmem
      rw [opened f hmem] at hf
      cases hf
    rw [settled.stage, if_neg hfree]
    exact ⟨hf, settled.result_of_not_mem hfree⟩

theorem keeps_last {states : List State}
    (h : List.IsChain (State.Step shape) (s :: states ++ [last])) :
    s.Keeps last ∧ ∀ m ∈ states, m.Keeps last := by
  induction states generalizing s with
  | nil =>
    have hstep : State.Step shape s last := by simpa using h
    exact ⟨hstep.keeps, by simp⟩
  | cons m rest ih =>
    obtain ⟨hstep, hrest⟩ := List.isChain_cons_cons.mp h
    obtain ⟨hm, hall⟩ := ih hrest
    exact ⟨hstep.keeps.trans hm, List.forall_mem_cons.mpr ⟨hm, hall⟩⟩

/-- In the cache the file has the result, and below it stands what stands below it in the graph. -/
def Cache.Retains (cache : Cache) (g : Graph) (f : Path) (r : Ref) : Prop :=
  cache.results.get? f = some r ∧ g.SameBelow cache.graph r

/-- What stands below the nodes of files that are complete, with all that these need, stays. -/
theorem sameBelow_of_maps (complete : Set Path) (hcache : cache.Valid) (ha : Cache.Grows ∅ cache a)
    (hb : Cache.Grows ∅ cache b)
    (hresults : ∀ f ∈ complete, ∀ r, a.results.get? f = some r → b.results.get? f = some r)
    (hmaps : ∀ f ∈ complete, (∃ id, Cache.Maps c a f id) ∧ ∃ id, Cache.Maps c b f id)
    (hclosed : ∀ f ∈ complete, ∀ d ∈ c.dependencies f,
      d ∈ complete ∨ d ∈ cache.files)
    {f : Path} (hf : f ∈ complete ∨ f ∈ cache.files) (hr : a.results.get? f = some r) :
    a.graph.SameBelow b.graph r := by
  have hold : ∀ f ∈ cache.files, ∃ r, cache.results.get? f = some r :=
    fun f hf => Table.exists_of_mem_keys hf
  have hsize : ∀ f ∈ cache.files, ∀ id, a.results.get? f = some (.node id) →
      id < cache.graph.size := by
    intro f hf id hid
    obtain ⟨r, hr⟩ := hold f hf
    obtain rfl : r = .node id := Option.some.inj ((ha.result f r hr).symm.trans hid)
    exact hcache.result f id hr
  -- only old nodes and the nodes of complete files stand below
  refine .of_closed {id | id < cache.graph.size ∨ ∃ f ∈ complete, Cache.Maps c a f id} ?_ ?_ ?_
  · rintro id rfl
    rcases hf with hf | hf
    · obtain ⟨⟨id', hid'⟩, -⟩ := hmaps f hf
      obtain rfl : id' = id := by simpa [hid'.result] using hr
      exact Or.inr ⟨f, hf, hid'⟩
    · exact Or.inl (hsize f hf id hr)
  · rintro above (habove | ⟨f, hf, hid⟩) name id hmem
    · rw [ha.members above habove (Set.notMem_empty _)] at hmem
      exact Or.inl (hcache.member above name id hmem)
    · have hnodup : (a.graph.members above).keys.Nodup := by
        rw [hid.keys]
        exact Collaborators.nodup_dependencies f
      have hname : name ∈ c.dependencies f := hid.keys ▸ List.mem_map.mpr ⟨_, hmem, rfl⟩
      obtain ⟨r, hr, hresult⟩ := hid.child name hname
      rw [Table.get?_eq_of_mem hnodup hmem] at hr
      obtain rfl := Option.some.inj hr
      rcases hclosed f hf name hname with hd | hd
      · obtain ⟨⟨id', hid'⟩, -⟩ := hmaps _ hd
        obtain rfl : id' = id := by simpa [hid'.result] using hresult
        exact Or.inr ⟨_, hd, hid'⟩
      · exact Or.inl (hsize _ hd id hresult)
  · rintro id (hid | ⟨f, hf, hid⟩)
    · rw [ha.members id hid (Set.notMem_empty _), hb.members id hid (Set.notMem_empty _)]
    · obtain ⟨-, id', hid'⟩ := hmaps f hf
      obtain rfl : id' = id := by simpa [hid'.result] using hresults f hf _ hid.result
      have hnodup : (a.graph.members id').keys.Nodup := by
        rw [hid.keys]
        exact Collaborators.nodup_dependencies f
      refine Table.eq_of_get? hnodup (hid'.keys.trans hid.keys.symm) fun d hd => ?_
      rw [hid.keys] at hd
      obtain ⟨r, hr, hresult⟩ := hid.child d hd
      obtain ⟨r', hr', hresult'⟩ := hid'.child d hd
      have hlater : b.results.get? d = some r := by
        rcases hclosed f hf d hd with hd | hd
        · exact hresults _ hd r hresult
        · obtain ⟨r₀, hr₀⟩ := hold _ hd
          obtain rfl : r₀ = r := Option.some.inj ((ha.result _ r₀ hr₀).symm.trans hresult)
          exact hb.result _ r₀ hr₀
      rw [hr, hr', ← hresult', hlater]

section Performed

variable {final : Cache} {stack : List Path} {m : State} {f : Path}
  (p : Performed x cache y s r s₁ v) (hcache : cache.Valid)
include p

theorem Performed.mem_extracted (hf : f ∈ y.cache.results.keys) (hnew : f ∉ cache.files) :
    f ∈ y.state.extracted := by
  obtain ⟨pre, post, held, -, -, hextracted, -, hkeys⟩ := p.trace
  rw [hkeys, List.mem_append] at hf
  rw [hextracted]
  exact hf.resolve_left hnew

include hcache

theorem Performed.retains (hlater : Cache.Grows ∅ y.cache final)
    (hm : Partway x.collaborators x.shape s [x.filename] stack m)
    (hkeeps : m.Keeps y.state) (hdone : m.visited.stage f = .done) :
    ∃ r, m.visited.results.get? f = some r ∧ final.Retains m.graph f r := by
  have hall : Cache.Grows ∅ cache final := (p.grows hcache.nodup).trans hlater
  have hkept : ∀ f, m.visited.stage f = .done → ∀ r, m.visited.results.get? f = some r →
      y.cache.results.get? f = some r := fun f hf r hr => (hkeeps f hf).2.trans hr
  obtain ⟨r, hr⟩ := (hm.paired p.begins.paired).exists_result (by rw [hdone]; decide)
  refine ⟨r, hr, hlater.result f r (hkept f hdone r hr), ?_⟩
  cases hshape : x.shape with
  | list =>
    rw [hshape] at hm
    cases r with
    | list items => exact Graph.sameBelow_list _ _ items
    | node id =>
      have hold := hm.node_of_list hr
      rw [p.begins.results] at hold
      rw [hm.graph_eq, p.begins.graph]
      exact (hall.sameBelow hcache hold).2
  | tree =>
    have hgrows := hm.grows p.begins.paired
    rw [p.begins.cache_eq] at hgrows
    rw [hshape] at hm
    have hcloses : m.Closes x.collaborators cache.filesᶜ :=
      hm.closes (fun f => p.begins.mem_seen) (p.begins.underway _ _) p.begins.closes
    have hbalanced := hm.balanced (.of_begins p.begins)
    refine sameBelow_of_maps {f | m.visited.stage f = .done ∧ f ∉ cache.files}
      (c := x.collaborators) hcache hgrows hall ?_ ?_ ?_ ?_ hr
    · exact fun f hf r hr => hlater.result f r (hkept f hf.1 r hr)
    · intro f hf
      have hfree : f ∉ stack := by
        intro hmem
        have hopen := (hbalanced.open_iff f).mpr (by simp [hmem])
        rw [hf.1] at hopen
        cases hopen
      have hnew : f ∉ s.seen := p.begins.seen ▸ hf.2
      obtain ⟨id, -, hid⟩ := (hm.maps p.begins.paired).2 f hnew (by
        rw [State.seen, Set.mem_ofPred_eq, hf.1]
        decide) hfree
      obtain ⟨id', hid'⟩ := (p.tree hshape hcache.nodup).2.2.1 f
        (p.mem_extracted (Table.mem_keys (hkept f hf.1 _ hid.result)) hf.2)
      exact ⟨⟨id, hid⟩, id', hid'.grows hlater (Set.notMem_empty id')⟩
    · intro f hf d hd
      by_cases hold : d ∈ cache.files
      · exact Or.inr hold
      · exact Or.inl ⟨(hcloses f hf.2 hf.1).2 d hd, hold⟩
    · by_cases hold : f ∈ cache.files
      · exact Or.inr hold
      · exact Or.inl ⟨hdone, hold⟩

theorem Performed.retains_settled (hlater : Cache.Grows ∅ y.cache final) (hf : f ∈ s₁.pending) :
    ∃ r, (s₁.settlement x.shape x.filename).get? f = some r ∧ final.Retains s₁.graph f r := by
  obtain ⟨pre, post, held, t, -, hextracted, -, hkeys⟩ := p.trace
  have hall : Cache.Grows ∅ cache final := (p.grows hcache.nodup).trans hlater
  have hsettled : ∀ f, y.cache.results.get? f = (s₁.settlement x.shape x.filename).get? f :=
    fun f => by rw [p.results_cache]
  have hpre : f ∈ pre := t.held_subset (p.pending_eq t ▸ hf)
  obtain ⟨r, hr⟩ : ∃ r, y.cache.results.get? f = some r := by
    apply Table.exists_of_mem_keys
    rw [hkeys]
    exact List.mem_append_right _ hpre
  refine ⟨r, hsettled f ▸ hr, hlater.result f r hr, ?_⟩
  have hwalked := p.walked
  cases hshape : x.shape with
  | list =>
    rw [hshape] at hwalked
    cases r with
    | list items => exact Graph.sameBelow_list _ _ items
    | node id =>
      rw [hwalked.graph_eq, p.begins.graph]
      exact (hall.sameBelow hcache (p.node_of_list hshape hr)).2
  | tree =>
    rw [hshape] at hwalked
    have hresults : ∀ f, y.cache.results.get? f = s₁.visited.results.get? f := by
      intro f
      rw [hsettled, hshape]
      rfl
    obtain ⟨hgrows, hmaps⟩ := hwalked.maps p.begins.paired
    rw [p.begins.cache_eq] at hgrows
    refine sameBelow_of_maps {f | f ∈ pre} (c := x.collaborators) hcache hgrows hall ?_ ?_ ?_
      (Or.inl hpre) ((hresults f).symm.trans hr)
    · exact fun f _ r hr => hlater.result f r ((hresults f).trans hr)
    · intro f hf
      obtain ⟨id, -, hid⟩ := hmaps f (t.search.not_mem_seen hf) (t.seen_eq ▸ Or.inr hf)
      obtain ⟨id', hid'⟩ := (p.tree hshape hcache.nodup).2.2.1 f (hextracted ▸ hf)
      exact ⟨⟨id, hid⟩, id', hid'.grows hlater (Set.notMem_empty id')⟩
    · intro f hf d hd
      have hseen := t.search.mem_of_next hf hd
      rw [p.begins.seen] at hseen
      exact hseen.symm

end Performed

section Held

variable {f : Path} (p : Performed x cache y s r s₁ v)
include p

theorem Performed.cyclic_iff (hf : f ∈ y.state.extracted) :
    x.collaborators.Cyclic cache.filesᶜ f ↔
      x.collaborators.Cyclic {f | f ∈ y.state.extracted} f := by
  obtain ⟨pre, post, held, -, hsearch, hextracted, -, -⟩ := p.trace
  refine Collaborators.cyclic_iff_of_closed (fun u hu => ?_) (fun u hu v hv hedge => ?_) hf
  · rw [Set.mem_ofPred_eq, hextracted] at hu
    exact hsearch.not_mem_seen hu
  · rw [Set.mem_ofPred_eq, hextracted] at hu ⊢
    have hnext := Collaborators.mem_dependencies_iff_edge.mpr hedge
    exact (hsearch.mem_of_next hu hnext).resolve_left hv

theorem Performed.held_iff (hf : f ∈ y.state.extracted) :
    f ∈ s₁.pending ↔ x.collaborators.Cyclic cache.filesᶜ f := by
  obtain ⟨pre, post, held, t, -, hextracted, -, -⟩ := p.trace
  have hnew : f ∉ s.seen := t.search.not_mem_seen (hextracted ▸ hf)
  rw [p.pending_eq t]
  constructor
  · intro hheld
    have hopen : s₁.visited.stage f = .inProgress := by rw [t.stage, if_pos hheld]
    refine (p.walked.holds (fun f => p.begins.mem_seen) (p.begins.underway _ _) f
      hopen).resolve_left fun hold => hnew ?_
    rw [State.seen, Set.mem_ofPred_eq, hold]
    decide
  · intro hcyclic
    by_contra hnot
    have hdone : s₁.visited.stage f = .done := by
      rw [t.stage, if_neg hnot, if_pos (hextracted ▸ hf)]
    have hend : Partway x.collaborators x.shape s ([x.filename] ++ []) [] s₁ :=
      .here s₁.judged p.walked
    have hcloses := hend.closes (fun f => p.begins.mem_seen) (p.begins.underway _ _)
      p.begins.closes
    exact (hcloses f hcyclic.mem hdone).1 hcyclic

end Held

/-- The files held back, and the states in which they are finished one after the other. -/
def finishing : List Path → State → List (Path × State)
  | [], _ => []
  | file :: rest, s => (file, s) :: finishing rest (release file s).2

theorem finishing_spec {held : List Path} (hs : s.visited.Paired) (hnodup : held.Nodup)
    (hopen : ∀ f ∈ held, s.visited.stage f = .inProgress) :
    (finishing held s).map (·.1) = held ∧ ∀ m ∈ finishing held s,
      m.2.graph = s.graph ∧ m.2.visited.results = s.visited.results := by
  induction held generalizing s with
  | nil => simp [finishing]
  | cons file rest ih =>
    obtain ⟨hfile, hrest⟩ := List.forall_mem_cons.mp hopen
    obtain ⟨hnew, hnodup⟩ := List.nodup_cons.mp hnodup
    obtain ⟨v, hone, hresults, hstage, hv⟩ := release_apply hs hfile
    have hopen' : ∀ f ∈ rest, v.stage f = .inProgress := by
      intro f hf
      have hne : f ≠ file := fun h => hnew (h ▸ hf)
      rw [hstage, if_neg hne, hrest f hf]
    obtain ⟨hfst, hall⟩ := ih (s := { s with visited := v }) hv hnodup hopen'
    simp only [finishing, hone]
    refine ⟨by rw [List.map_cons, hfst], List.forall_mem_cons.mpr ⟨⟨rfl, rfl⟩, fun m hm => ?_⟩⟩
    obtain ⟨hgraph, hsame⟩ := hall m hm
    exact ⟨hgraph, hsame.trans hresults⟩

section Finishing

variable {final : Cache} {m : State} {f : Path} (p : Performed x cache y s r s₁ v)
include p

theorem Performed.pending_extracted (hf : f ∈ s₁.pending) : f ∈ y.state.extracted := by
  obtain ⟨pre, post, held, t, -, hextracted, -, -⟩ := p.trace
  rw [hextracted]
  exact t.held_subset (p.pending_eq t ▸ hf)

theorem Performed.retains_finishing (hcache : cache.Valid) (hlater : Cache.Grows ∅ y.cache final) :
    let finishes := finishing s₁.pending (s₁.revised x.shape x.filename)
    finishes.map (·.1) = s₁.pending ∧ ∀ m ∈ finishes, ∃ r,
      m.2.visited.result m.1 = .ok r ∧ final.Retains m.2.graph m.1 r := by
  intro finishes
  have hbalanced := (State.Balanced.of_begins p.begins).walked p.walked
  have hopen : ∀ f ∈ s₁.pending, s₁.visited.stage f = .inProgress :=
    fun f hf => (hbalanced.open_iff f).mpr hf
  have hdistinct : s₁.pending.Nodup := hbalanced.nodup
  obtain ⟨hfst, hfinishes⟩ := finishing_spec (s := s₁.revised x.shape x.filename)
    (State.paired_revised x.shape x.filename hbalanced.paired hopen) hdistinct hopen
  refine ⟨hfst, fun m hm => ?_⟩
  have hmem : m.1 ∈ s₁.pending := by
    rw [← hfst]
    exact List.mem_map_of_mem hm
  obtain ⟨hgraph, hresults⟩ := hfinishes m hm
  obtain ⟨r, hr, hretains⟩ := p.retains_settled hcache hlater hmem
  refine ⟨r, Visited.result_eq_ok_iff.mpr ?_, hgraph ▸ hretains⟩
  rw [hresults]
  exact hr

end Finishing

/-- A call that ends with a result: all results that the cache had stay for good, with what stands
below them. So do results from the moment at which their files are done, within the walk and when
those held back are finished after it. The files that are held back are those that lead to a cycle
of files that were walked. -/
theorem done_results_are_final {w : World} {o : Options} {x : Context}
    (h : Context.ofOptions w o = .ok x) (hanchor : isAbsolute x.anchor = true) {cache : Cache}
    (hcache : cache.Valid) {unresolved : List Text} {y : Outcome}
    (hy : perform w o cache unresolved = .ok y) (hresult : ∃ r, y.result = .ok r)
    {later : List Call} (hlater : ∀ call ∈ later, call.options.Anchored w) :
    let c := x.collaborators
    let final := y.cache.afterAll w later
    (∀ f r, cache.results.get? f = some r → final.Retains cache.graph f r) ∧
    (w.pathExists x.filename = true →
      let start := cache.opened o x unresolved
      let ended := (traverse c x.shape c.depth x.filename start).2
      let walked : Set Path := {f | f ∈ y.state.extracted}
      let finishes := finishing ended.pending (ended.revised x.shape x.filename)
      (∀ m ∈ moments c x.shape x.filename start, ∀ f, m.state.visited.stage f = .done →
        ∃ r, m.state.visited.result f = .ok r ∧ final.Retains m.state.graph f r) ∧
      finishes.map (·.1) = ended.pending ∧
      (∀ m ∈ finishes, ∃ r, m.2.visited.result m.1 = .ok r ∧ final.Retains m.2.graph m.1 r) ∧
      ∀ f, f ∈ ended.pending ↔ f ∈ walked ∧ c.Cyclic walked f) := by
  intro c final
  have hcall : (Call.mk o unresolved).options.Anchored w := by
    intro x' hx'
    obtain rfl := Except.ok.inj (h.symm.trans hx')
    exact hanchor
  obtain ⟨hgrows, hnodup⟩ := grows_of_call hcall hcache.nodup
  simp only [hy, Cache.after] at hgrows hnodup
  have hlater' : Cache.Grows ∅ y.cache final := grows_of_calls hlater hnodup
  refine ⟨fun f r hr => (hgrows.trans hlater').sameBelow hcache hr, fun hpresent => ?_⟩
  intro start ended walked finishes
  have hc := x.collaborators.decides_decided
  obtain ⟨r, s₁, v, hwalk, p⟩ := performed_of_ok h hanchor hc hpresent hy hresult
  have hended : ended = s₁ := congrArg Prod.snd hwalk
  have hcyclic : ∀ f ∈ walked, c.decided.Cyclic cache.filesᶜ f ↔ c.Cyclic walked f := by
    intro f hf
    exact (p.cyclic_iff hf).trans (Iff.of_eq (congrFun Collaborators.decided_cyclic f))
  have hfinish : finishes = finishing s₁.pending (s₁.revised x.shape x.filename) := by
    simp only [finishes, hended]
  obtain ⟨hfst, hfinishes⟩ := p.retains_finishing hcache hlater'
  have hwatched := perform_watched h hanchor hpresent hy
  obtain ⟨-, hkeeps⟩ := keeps_last hwatched.chain
  rw [hfinish, hended]
  refine ⟨fun m hm f hdone => ?_, hfst, hfinishes, fun f => ⟨fun hf => ?_, fun hf => ?_⟩⟩
  · obtain ⟨inner, -, hpartway⟩ := hwatched.partway m hm
    obtain ⟨r, hr, hretains⟩ := p.retains hcache hlater' hpartway
      (hkeeps m.state (List.mem_map_of_mem hm)) hdone
    exact ⟨r, Visited.result_eq_ok_iff.mpr hr, hretains⟩
  · have hwalked : f ∈ walked := p.pending_extracted hf
    exact ⟨hwalked, (hcyclic f hwalked).mp ((p.held_iff hwalked).mp hf)⟩
  · exact (p.held_iff hf.1).mpr ((hcyclic f hf.1).mpr hf.2)

theorem results_of_two_files_are_final :
    let o := TwoFiles.options .tree ['/', 'd']
    let x := TwoFiles.context .tree ['/', 'd']
    let ended := (traverse x.collaborators x.shape x.collaborators.depth x.filename
      (Cache.empty.opened o x [])).2
    ended.pending = [['/', 'f'], ['/', 'd']] ∧
    ∃ y, perform TwoFiles.world o .empty [] = .ok y ∧
      let final := y.cache.afterAll TwoFiles.world (TwoFiles.calls .list)
      ∀ m ∈ finishing ended.pending (ended.revised x.shape x.filename),
        ∃ r, m.2.visited.result m.1 = .ok r ∧ final.Retains m.2.graph m.1 r := by
  intro o x ended
  have hoptions : Context.ofOptions TwoFiles.world o = .ok x :=
    TwoFiles.ofOptions_eq .tree rfl
  have hpresent : TwoFiles.world.pathExists x.filename = true := by decide +kernel
  obtain ⟨y, s, r, s₁, v, hperform, p⟩ := perform_of_found hoptions rfl
    (TwoFiles.decisive .tree ['/', 'd']) hpresent .empty []
  have hlater : ∀ call ∈ TwoFiles.calls .list,
      call.options.Anchored TwoFiles.world :=
    fun call hcall x hx => (TwoFiles.regular hcall x hx).1
  have hfinal := (done_results_are_final hoptions rfl Cache.valid_empty hperform ⟨_, p.result⟩
    hlater).2 hpresent
  exact ⟨by decide +kernel, y, hperform, hfinal.2.2.1⟩

end Walk
end ModuleGraph
