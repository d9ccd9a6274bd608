import ModuleGraph.Proofs.Walk.Needs
import ModuleGraph.Proofs.Walk.Replay

/-! Calls that the filter breaks off, and what they leave to later calls. A file that is left
unfinished counts as done in the next call, which takes what is there for its result. A call that
leads to no such file goes as if there had been no broken-off call. -/

namespace ModuleGraph

namespace Table

variable {α β γ : Type} [DecidableEq α]

theorem forall₂_of_get? {related : β → γ → Prop} {t : Table α β} {t' : Table α γ}
    (h : (keys t).Nodup) (hkeys : keys t' = keys t)
    (hvalue : ∀ key ∈ keys t, ∃ v v', get? t key = some v ∧ get? t' key = some v' ∧ related v v') :
    List.Forall₂ (fun m m' => m.1 = m'.1 ∧ related m.2 m'.2) t t' := by
  induction t generalizing t' with
  | nil =>
    rw [List.map_eq_nil_iff.mp hkeys]
    exact .nil
  | cons m rest ih =>
    obtain ⟨k, v⟩ := m
    obtain ⟨hnew, hrest⟩ := List.nodup_cons.mp h
    cases t' with
    | nil => cases hkeys
    | cons m' rest' =>
      obtain ⟨k', v'⟩ := m'
      obtain ⟨hk, htail⟩ := List.cons.inj hkeys
      obtain rfl : k' = k := hk
      obtain ⟨a, b, ha, hb, hab⟩ := hvalue k' List.mem_cons_self
      rw [get?, if_pos rfl] at ha hb
      cases ha
      cases hb
      refine .cons ⟨rfl, hab⟩ (ih hrest htail fun key hkey => ?_)
      have hne : k' ≠ key := fun hk => hnew (hk ▸ hkey)
      have hvalue := hvalue key (List.mem_cons_of_mem _ hkey)
      simpa only [get?, if_neg hne] using hvalue

end Table

namespace Graph

/-- Two results, each in a graph of its own, are alike: they are the same lists, or nodes that map
the same names in the same order, to results that are alike. -/
def Alike (g g' : Graph) (r r' : Ref) : Prop :=
  ∃ related : Ref → Ref → Prop, related r r' ∧ ∀ a b, related a b →
    (∃ items, a = .list items ∧ b = .list items) ∨
    ∃ id id', a = .node id ∧ b = .node id' ∧
      List.Forall₂ (fun m m' => m.1 = m'.1 ∧ related m.2 m'.2) (g.members id) (g'.members id')

theorem alike_list (g g' : Graph) (items : List Text) : g.Alike g' (.list items) (.list items) := by
  refine ⟨fun a b => a = .list items ∧ b = .list items, ⟨rfl, rfl⟩, ?_⟩
  rintro _ _ ⟨rfl, rfl⟩
  exact Or.inl ⟨items, rfl, rfl⟩

theorem alike_empty (shape : Shape) (g g' : Graph) :
    (shape.empty g).1.Alike (shape.empty g').1 (shape.empty g).2 (shape.empty g').2 := by
  cases shape with
  | list => exact alike_list _ _ []
  | tree =>
    refine ⟨fun a b => a = .node g.size ∧ b = .node g'.size, ⟨rfl, rfl⟩, ?_⟩
    rintro _ _ ⟨rfl, rfl⟩
    refine Or.inr ⟨_, _, rfl, rfl, ?_⟩
    have hnew : ∀ g : Graph, (Shape.tree.empty g).1.members g.size = [] :=
      fun g => members_add_new g []
    rw [hnew, hnew]
    exact .nil

end Graph

namespace Walk

open ModuleGraph.Path Relation

variable {w : World} {o : Options} {x : Context} {c : Collaborators} {cache cache' : Cache}
  {s s₁ t t₁ : State} {y z z' : Outcome} {r r' : Ref} {v v' : Visited Ref} {f u : Path}

theorem Performed.led (p : Performed x cache z s r s₁ v)
    (hto : cache.Leads x.collaborators x.filename u) :
    u ∈ z.state.extracted ∨ u ∈ cache.files := by
  obtain ⟨pre, post, held, -, hsearch, hextracted, -, -⟩ := p.trace
  refine hto.ends (fun u hu v => p.edge_ends hu) ?_
  rw [hextracted]
  exact (hsearch.mem_of_start (List.mem_singleton_self _)).symm

section Tree

/-! Two calls in tree form from one entry file. The second one finds in its cache what the first one
finds, and the nodes of further files. -/

variable (p : Performed x cache z s r s₁ v) (p' : Performed x cache' z' t r' t₁ v')
  (htree : x.shape = .tree) (hcache : cache.Valid) (hkeys : cache'.results.keys.Nodup)
  (hgrows : Cache.Grows ∅ cache cache')
  (hmaps : ∀ f ∈ cache'.files, f ∉ cache.files →
    cache.Leads x.collaborators x.filename f →
      ∃ id, Cache.Maps x.collaborators cache' f id)

include p htree hcache in
theorem Performed.maps_led (hnew : f ∉ cache.files)
    (hto : cache.Leads x.collaborators x.filename f) :
    ∃ id, Cache.Maps x.collaborators z.cache f id :=
  (p.tree htree hcache.nodup).2.2.1 f ((p.led hto).resolve_right hnew)

include p' htree hkeys hmaps

theorem Performed.maps_found (hnew : f ∉ cache.files)
    (hto : cache.Leads x.collaborators x.filename f) :
    ∃ id, Cache.Maps x.collaborators z'.cache f id := by
  obtain ⟨hgrows', -, hwalked, -, -, -, hentry⟩ := p'.tree htree hkeys
  have hmapped : ∀ u ∈ z'.cache.results.keys, u ∉ cache.files →
      cache.Leads x.collaborators x.filename u →
      ∃ id, Cache.Maps x.collaborators z'.cache u id := by
    intro u hu hnew hto
    by_cases hfound : u ∈ cache'.files
    · obtain ⟨id, hid⟩ := hmaps u hfound hnew hto
      exact ⟨id, hid.grows hgrows' (Set.notMem_empty id)⟩
    · exact hwalked u (p'.mem_extracted hu hfound)
  refine hmapped f ?_ hnew hto
  induction hto with
  | refl => exact Table.mem_keys hentry
  | @tail u v hto hedge ih =>
    obtain ⟨id, hid⟩ := hmapped u (ih hedge.1) hedge.1 hto
    obtain ⟨r, -, hr⟩ := hid.child v (Collaborators.edgeFrom_iff.mp hedge).2
    exact Table.mem_keys hr

include p hcache hgrows

theorem Performed.alike_trees : ∃ a b, z.result = .ok a ∧ z'.result = .ok b ∧
    z.cache.graph.Alike z'.cache.graph a b := by
  obtain ⟨hfirst, -, -, root, hresult, hroot, hentry⟩ := p.tree htree hcache.nodup
  obtain ⟨hsecond, -, -, root', hresult', hroot', hentry'⟩ := p'.tree htree hkeys
  have hgrows' := hgrows.trans hsecond
  let leads := cache.Leads x.collaborators x.filename
  -- results that the cache had are the same in both graphs; besides these, the two roots are
  -- related, and what the two calls have for one file
  let old (r : Ref) : Prop := ∀ id, r = .node id → id < cache.graph.size
  let related (a b : Ref) : Prop := a = b ∧ old a ∨ a = .node root ∧ b = .node root' ∨
    ∃ f, leads f ∧ z.cache.results.get? f = some a ∧ z'.cache.results.get? f = some b
  refine ⟨_, _, hresult, hresult', related, Or.inr (Or.inl ⟨rfl, rfl⟩), ?_⟩
  have hold : ∀ a, old a → (∃ items, a = .list items ∧ a = .list items) ∨
      ∃ id id', a = .node id ∧ a = .node id' ∧
        List.Forall₂ (fun m m' => m.1 = m'.1 ∧ related m.2 m'.2) (z.cache.graph.members id)
          (z'.cache.graph.members id') := by
    intro a ha
    cases a with
    | list items => exact Or.inl ⟨items, rfl, rfl⟩
    | node id =>
      refine Or.inr ⟨id, id, rfl, rfl, ?_⟩
      rw [hfirst.members id (ha id rfl) (Set.notMem_empty id),
        hgrows'.members id (ha id rfl) (Set.notMem_empty id)]
      refine List.forall₂_same.mpr fun m hm => ⟨rfl, Or.inl ⟨rfl, fun id' hid' => ?_⟩⟩
      exact hcache.member id m.1 id' (hid' ▸ hm)
  rintro a b (⟨rfl, ha⟩ | ⟨rfl, rfl⟩ | ⟨f, hto, ha, hb⟩)
  · exact hold a ha
  · refine Or.inr ⟨root, root', rfl, rfl, ?_⟩
    have hroots := List.Forall₂.cons (R := fun m m' : Path × Ref => m.1 = m'.1 ∧ related m.2 m'.2)
      (a := (x.filename, r)) (b := (x.filename, r'))
      ⟨rfl, Or.inr (Or.inr ⟨_, .refl, hentry, hentry'⟩)⟩ .nil
    rwa [← hroot, ← hroot'] at hroots
  · by_cases hnew : f ∈ cache.files
    · obtain ⟨r₀, hr₀⟩ := Table.exists_of_mem_keys hnew
      obtain rfl : r₀ = a := Option.some.inj ((hfirst.result f r₀ hr₀).symm.trans ha)
      obtain rfl : r₀ = b := Option.some.inj ((hgrows'.result f r₀ hr₀).symm.trans hb)
      exact hold r₀ fun id hid => hcache.result f id (hid ▸ hr₀)
    · obtain ⟨id, hid⟩ := p.maps_led htree hcache hnew hto
      obtain ⟨id', hid'⟩ := p'.maps_found htree hkeys hmaps hnew hto
      obtain rfl : a = .node id := by simpa [hid.result] using ha.symm
      obtain rfl : b = .node id' := by simpa [hid'.result] using hb.symm
      refine Or.inr ⟨id, id', rfl, rfl, Table.forall₂_of_get? ?_ (hid'.keys.trans hid.keys.symm) ?_⟩
      · exact hid.keys.symm ▸ Collaborators.nodup_dependencies f
      · intro d hd
        rw [hid.keys] at hd
        obtain ⟨r, hr, hresult⟩ := hid.child d hd
        obtain ⟨r', hr', hresult'⟩ := hid'.child d hd
        refine ⟨r, r', hr, hr', Or.inr (Or.inr ⟨_, ?_, hresult, hresult'⟩)⟩
        exact hto.tail (Collaborators.edgeFrom_iff.mpr ⟨hnew, hd⟩)

end Tree

section List

/-! The same in list form, if the second call finds lists of files that lead to no cycle. -/

variable {led kept files : Set Path} {stack : List Path} {paths : List Path} {m : State}

theorem Performed.same_lists (p : Performed x cache z s r s₁ v)
    (p' : Performed x cache' z' t r' t₁ v') (hlist : x.shape = .list)
    (k : cache'.Keeps x.collaborators files led kept)
    (hreplays : Replays led files kept ∅ cache' s t)
    (hentry : x.filename ∈ led) :
    ∃ items, z.result = .ok (.list items) ∧ z'.result = .ok (.list items) := by
  have hwalked := p.walked
  have hwalked' := p'.walked
  rw [hlist] at hwalked hwalked'
  obtain ⟨hresults, hends⟩ := hwalked.replays k hreplays
    (fun f hf => absurd hf (Set.notMem_empty f)) (List.forall_mem_singleton.mpr hentry) hwalked'
  obtain rfl : r = r' := by simpa using hresults
  have hgraph : s₁.graph = t₁.graph := hends.graph.trans hends.graph'.symm
  refine ⟨distinct (s₁.graph.namesOf r), p.result.trans ?_, p'.result.trans ?_⟩
  · rw [hlist]
    rfl
  · rw [hlist, ← hgraph]
    rfl

theorem Partway.keeps (h : Partway c .list s paths stack m) (hs : cache.Begins s)
    (hled : ∀ u ∈ led, u ∈ cache.filesᶜ → ∀ d ∈ c.dependencies u, d ∈ led) :
    m.cache.Keeps c cache.filesᶜ led {f | f ∈ cache.filesᶜ ∧ m.visited.stage f = .done} := by
  obtain ⟨hcloses, hgathers⟩ := (carried_gathers c cache.filesᶜ).partway h (fun f => hs.mem_seen)
    (hs.underway _ _) ⟨hs.closes, hs.gathers⟩
  refine ⟨hled, fun f hf => hf.1, fun f hf d hd => ?_, fun f hf => ?_, fun f hf => ?_⟩
  · by_cases hold : d ∈ cache.files
    · exact Or.inr fun hnew => hnew hold
    · exact Or.inl ⟨hold, (hcloses f hf.1 hf.2).2 d hd⟩
  · exact (hcloses f hf.1 hf.2).1
  · exact hgathers f hf.1 hf.2

/-- A call goes on the cache before a broken-off walk and on the cache after it as the two walks of
`Replays` do. -/
theorem Partway.replays {s' t' : State} (h : Partway c .list s paths stack m) (hs : cache.Begins s)
    (hfree : ∀ f ∈ led, m.visited.stage f ≠ .inProgress) (hs' : cache.Begins s')
    (ht' : m.cache.Begins t') :
    Replays led cache.filesᶜ {f | f ∈ cache.filesᶜ ∧ m.visited.stage f = .done} ∅ m.cache
      s' t' := by
  have hm := h.paired hs.paired
  have hseen : ∀ f ∈ cache.files, s.visited.stage f ≠ .unseen := by
    rw [← hs.seen]
    exact fun f hf => hf
  have hold : ∀ f ∈ cache.files, m.visited.stage f ≠ .unseen ∧
      m.visited.results.get? f = cache.results.get? f := by
    intro f hf
    obtain ⟨hstage, hresult⟩ := h.kept_eq (hseen f hf)
    exact ⟨hstage ▸ hseen f hf, hresult.trans (by rw [hs.results])⟩
  have hstage : ∀ f, t'.visited.stage f = .unseen ↔ m.visited.stage f = .unseen := by
    intro f
    have hkey : f ∈ m.cache.results.keys ↔ m.visited.stage f ≠ .unseen := hm.seen_iff.symm
    rw [ht'.stage]
    by_cases hf : f ∈ m.cache.results.keys
    · simp [hf, hkey.mp hf]
    · simpa [hf] using hkey
  have hnew : ∀ f ∈ cache.filesᶜ, s'.visited.stage f = .unseen := by
    intro f hf
    have hnot : f ∉ cache.results.keys := hf
    rw [hs'.stage, if_neg hnot]
  refine ⟨?_, ht'.graph, ht'.paired, fun f hf => ?_, fun f hf hseen => ?_, fun f hled hf => ?_⟩
  · rw [hs'.graph, State.cache, h.graph_eq, hs.graph]
  · rw [Ne, hstage, ht'.results]
    refine ⟨?_, rfl⟩
    rcases hf with hf | hf
    · rw [hf.2]
      decide
    · exact (hold f (Set.notMem_compl_iff.mp hf)).1
  · exact absurd (hnew f hf.1) hseen
  · rw [hstage, hs'.results, ht'.results]
    by_cases hmem : f ∈ cache.files
    · have hseen' : s'.visited.stage f ≠ .unseen := by
        have hin : f ∈ s'.seen := hs'.seen ▸ hmem
        exact hin
      exact ⟨iff_of_false hseen' (hold f hmem).1, (hold f hmem).2.symm⟩
    · have hunseen : m.visited.stage f = .unseen := by
        cases hstage : m.visited.stage f with
        | unseen => rfl
        | inProgress => exact absurd hstage (hfree f hled)
        | done => exact absurd ⟨hmem, hstage⟩ hf
      have hnone : f ∉ m.cache.results.keys := fun hkey => hm.seen_iff.mpr hkey hunseen
      refine ⟨iff_of_true (hnew f hmem) hunseen, ?_⟩
      rw [Table.get?_eq_none_iff.mpr hmem, Table.get?_eq_none_iff.mpr hnone]

end List

/-- The files that a broken-off call has left unfinished. In tree form a file that is held back is
complete. -/
def Outcome.Unfinished (y : Outcome) (file : Path) : Prop :=
  y.state.visited.stage file = .inProgress ∧
    (y.context.shape = .tree → file ∉ y.state.pending)

theorem Partway.maps_finished {paths stack : List Path} {m : State}
    (h : Partway c .tree s paths stack m) (hs : cache.Begins s) (hkey : f ∈ m.cache.files)
    (hnew : f ∉ cache.files) (hfree : m.visited.stage f = .inProgress → f ∈ m.pending) :
    ∃ id, Cache.Maps c m.cache f id := by
  have hbalanced := h.balanced (.of_begins hs)
  rw [List.append_nil] at hbalanced
  have hstack : f ∉ stack := by
    intro hmem
    have hpending := hfree ((hbalanced.open_iff f).mpr (List.mem_append_left _ hmem))
    exact (List.nodup_append.mp hbalanced.nodup).2.2 f hmem f hpending rfl
  obtain ⟨id, -, hid⟩ := (h.maps hs.paired).2 f (hs.seen ▸ hnew) (hbalanced.paired.seen_iff.mpr hkey)
    hstack
  exact ⟨id, hid⟩

section Later

/-! A walk that is broken off, and the same later call on the cache before it and on the one after
it. -/

variable {start : State} {paths stack : List Path}
  (hpartway : Partway x.collaborators x.shape start paths stack y.state)
  (hbegins : cache.Begins start) (p : Performed x cache z s r s₁ v)
  (p' : Performed x y.cache z' t r' t₁ v')
  (hfree : ∀ f, cache.Leads x.collaborators x.filename f →
    y.state.visited.stage f = .inProgress → x.shape = .tree ∧ f ∈ y.state.pending)
include hpartway hbegins p p' hfree

theorem Performed.alike_trees_later (htree : x.shape = .tree) (hcache : cache.Valid) :
    ∃ a b, z.result = .ok a ∧ z'.result = .ok b ∧ z.cache.graph.Alike z'.cache.graph a b := by
  have hgrows := hpartway.grows hbegins.paired
  rw [hbegins.cache_eq] at hgrows
  have hkeys : y.cache.results.keys.Nodup :=
    hpartway.nodup_keys (hbegins.results ▸ hcache.nodup)
  rw [htree] at hpartway
  exact p.alike_trees p' htree hcache hkeys hgrows fun f hkey hnew hto =>
    hpartway.maps_finished hbegins hkey hnew fun hopen => (hfree f hto hopen).2

theorem Performed.same_lists_later (hlist : x.shape = .list) :
    ∃ items, z.result = .ok (.list items) ∧ z'.result = .ok (.list items) := by
  rw [hlist] at hpartway
  let led : Set Path := {f | cache.Leads x.collaborators x.filename f}
  have hled : ∀ u ∈ led, u ∈ cache.filesᶜ → ∀ d ∈ x.collaborators.dependencies u, d ∈ led :=
    fun u hto hnew d hd => hto.tail (Collaborators.edgeFrom_iff.mpr ⟨hnew, hd⟩)
  have hkeeps := hpartway.keeps hbegins hled
  have hnone : ∀ f ∈ led, y.state.visited.stage f ≠ .inProgress := by
    intro f hto hopen
    have htree := (hfree f hto hopen).1
    rw [hlist] at htree
    cases htree
  exact p.same_lists p' hlist hkeeps (hpartway.replays hbegins hnone p.begins p'.begins) .refl

end Later

/-- A call is broken off by the filter. A later call with the same verdicts, under which none of
them breaks off, has the result that it would have on the cache before, as long as it leads to no
file that was left unfinished. -/
theorem later_call_as_if_none_broken_off {w : World} {o o' : Options} {x x' : Context}
    (h : Context.ofOptions w o = .ok x) (hanchor : isAbsolute x.anchor = true) {cache : Cache}
    (hcache : cache.Valid) {unresolved : List Text} {y : Outcome}
    (hy : perform w o cache unresolved = .ok y) (haborted : ∃ e, y.result = .error e)
    (h' : Context.ofOptions w o' = .ok x') (hanchor' : isAbsolute x'.anchor = true)
    (hshape : o'.shape = o.shape) (hc : x.collaborators.Decides x'.collaborators)
    (later later' : List Text) :
    let c := x'.collaborators
    let led : Set Path := {f | cache.Leads c x'.filename f}
    (∀ f ∈ led, ¬ y.Unfinished f) →
    ∃ z z' r r', perform w o' cache later = .ok z ∧ perform w o' y.cache later' = .ok z' ∧
      z.result = .ok r ∧ z'.result = .ok r' ∧ z.state.graph.Alike z'.state.graph r r' := by
  intro c led hfree
  have hx := Context.fits h
  have hx' := Context.fits h'
  obtain ⟨hpresent, stack, -, hpartway⟩ := partway_of_aborted h hanchor hc hy haborted
  cases hpresent' : w.pathExists x'.filename with
  | false =>
    obtain ⟨z, hz, -, hresult, hafter, -⟩ := perform_of_absent h' hpresent' cache later
    obtain ⟨z', hz', -, hresult', hafter', -⟩ := perform_of_absent h' hpresent' y.cache later'
    refine ⟨z, z', _, _, hz, hz', hresult, hresult', ?_⟩
    have hgraph : z.state.graph = _ := congrArg Cache.graph hafter
    have hgraph' : z'.state.graph = _ := congrArg Cache.graph hafter'
    rw [hgraph, hgraph']
    exact Graph.alike_empty _ _ _
  | true =>
    obtain ⟨z, s, r, s₁, v, hz, p⟩ := perform_of_found h' hanchor' hc.decisive hpresent' cache later
    obtain ⟨z', t, r', t₁, v', hz', p'⟩ :=
      perform_of_found h' hanchor' hc.decisive hpresent' y.cache later'
    have hbegins := cache.begins_opened o x unresolved
    have hsame : x.shape = x'.shape := hx.shape.trans (hshape.symm.trans hx'.shape.symm)
    have hleft : ∀ f ∈ led, y.state.visited.stage f = .inProgress →
        x'.shape = .tree ∧ f ∈ y.state.pending := by
      intro f hf hopen
      by_contra hnot
      refine hfree f hf ⟨hopen, fun htree hpending => hnot ⟨?_, hpending⟩⟩
      rwa [context_of_perform h hy, hsame] at htree
    rw [hsame] at hpartway
    cases hcase : x'.shape with
    | tree =>
      obtain ⟨a, b, ha, hb, halike⟩ := p.alike_trees_later hpartway hbegins p' hleft hcase hcache
      exact ⟨z, z', a, b, hz, hz', ha, hb, halike⟩
    | list =>
      obtain ⟨items, ha, hb⟩ := p.same_lists_later hpartway hbegins p' hleft hcase
      exact ⟨z, z', _, _, hz, hz', ha, hb, Graph.alike_list _ _ items⟩

theorem done_file_served_after_broken_off_call :
    let o := FourFiles.options ['/', 'e'] (.function FourFiles.unsure)
    let o' := FourFiles.options ['/', 'w'] (.function FourFiles.sure)
    ∃ y, perform FourFiles.world o .empty [] = .ok y ∧ (∃ e, y.result = .error e) ∧
      y.cache.results.keys = [['/', 'e'], ['/', 'w'], ['/', 'f']] ∧
      ∃ z z' r r', perform FourFiles.world o' .empty [] = .ok z ∧
        perform FourFiles.world o' y.cache [] = .ok z' ∧
        z.result = .ok r ∧ z'.result = .ok r' ∧ z.state.graph.Alike z'.state.graph r r' := by
  intro o o'
  have hoptions : Context.ofOptions FourFiles.world o =
      .ok (FourFiles.context ['/', 'e'] (some FourFiles.unsure)) :=
    FourFiles.ofOptions_filtered _ rfl
  have hoptions' : Context.ofOptions FourFiles.world o' =
      .ok (FourFiles.context ['/', 'w'] (some FourFiles.sure)) :=
    FourFiles.ofOptions_filtered _ rfl
  obtain ⟨y, hperform, -⟩ := perform_cases hoptions rfl
    (FourFiles.decides ['/', 'e'] ['/', 'w']) (by decide +kernel) .empty []
  have hcomputed : (perform FourFiles.world o .empty []).map (fun y => (y.result,
      y.cache.results.keys, y.state.visited.stage ['/', 'w'])) =
      .ok (.error (.filter "no verdict"), [['/', 'e'], ['/', 'w'], ['/', 'f']], .done) := by
    decide +kernel
  rw [hperform] at hcomputed
  obtain ⟨hresult, hrest⟩ := Prod.mk.inj (Except.ok.inj hcomputed)
  obtain ⟨hkeys, hdone⟩ := Prod.mk.inj hrest
  let c := (FourFiles.context ['/', 'w'] (some FourFiles.sure)).collaborators
  have hnone : ∀ v, ¬ c.EdgeFrom Cache.empty.filesᶜ ['/', 'w'] v := by
    intro v hedge
    have hdeps : c.dependencies ['/', 'w'] = [] := by decide +kernel
    have hv := (Collaborators.edgeFrom_iff.mp hedge).2
    rw [hdeps] at hv
    cases hv
  have hled : ∀ f, Cache.empty.Leads c ['/', 'w'] f → f = ['/', 'w'] := by
    intro f hto
    rcases hto.cases_head with rfl | ⟨v, hedge, -⟩
    · rfl
    · exact absurd hedge (hnone v)
  refine ⟨y, hperform, ⟨_, hresult⟩, hkeys, ?_⟩
  refine later_call_as_if_none_broken_off hoptions rfl Cache.valid_empty hperform ⟨_, hresult⟩
    hoptions' rfl rfl (FourFiles.decides _ _) [] [] fun f hf hopen => ?_
  obtain rfl := hled f hf
  have hprogress := hopen.1
  rw [hdone] at hprogress
  cases hprogress

/-- The files that were in progress count as done, with the empty results that they had. -/
theorem files_left_in_progress_served_as_done :
    let o := FourFiles.options ['/', 'e'] (.function FourFiles.unsure)
    let o' := FourFiles.options ['/', 'e'] (.function FourFiles.sure)
    (FourFiles.context ['/', 'e'] (some FourFiles.unsure)).collaborators.Decides
      (FourFiles.context ['/', 'e'] (some FourFiles.sure)).collaborators ∧
    ∃ y z z', perform FourFiles.world o .empty [] = .ok y ∧ (∃ e, y.result = .error e) ∧
      perform FourFiles.world o' .empty [] = .ok z ∧
      perform FourFiles.world o' y.cache [] = .ok z' ∧
      z.result = .ok (.list [['/', 'w'], ['/', 'k'], ['/', 'f'], ['/', 'e']]) ∧
      z'.result = .ok (.list []) := by
  intro o o'
  have hoptions : Context.ofOptions FourFiles.world o =
      .ok (FourFiles.context ['/', 'e'] (some FourFiles.unsure)) :=
    FourFiles.ofOptions_filtered _ rfl
  have hoptions' : Context.ofOptions FourFiles.world o' =
      .ok (FourFiles.context ['/', 'e'] (some FourFiles.sure)) :=
    FourFiles.ofOptions_filtered _ rfl
  have hdecides := FourFiles.decides ['/', 'e'] ['/', 'e']
  have hpresent : FourFiles.world.pathExists ['/', 'e'] = true := by decide +kernel
  obtain ⟨y, hy, -⟩ := perform_cases hoptions rfl hdecides hpresent .empty []
  obtain ⟨z, -, -, -, -, hz, -⟩ :=
    perform_of_found hoptions' rfl hdecides.decisive hpresent .empty []
  obtain ⟨z', -, -, -, -, hz', -⟩ :=
    perform_of_found hoptions' rfl hdecides.decisive hpresent y.cache []
  have hfirst : (perform FourFiles.world o .empty []).map (·.result) =
      .ok (.error (.filter "no verdict")) := by
    decide +kernel
  have hbefore : (perform FourFiles.world o' .empty []).map (·.result) =
      .ok (.ok (.list [['/', 'w'], ['/', 'k'], ['/', 'f'], ['/', 'e']])) := by
    decide +kernel
  have hafter : ((perform FourFiles.world o .empty []).bind fun y =>
      (perform FourFiles.world o' y.cache []).map (·.result)) = .ok (.ok (.list [])) := by
    decide +kernel
  rw [hy] at hfirst hafter
  rw [hz] at hbefore
  simp only [Except.bind, hz'] at hafter
  exact ⟨hdecides, y, z, z', hy, ⟨_, Except.ok.inj hfirst⟩, hz, hz', Except.ok.inj hbefore,
    Except.ok.inj hafter⟩

/-- A call is broken off by the filter. When it is made again, with the same verdicts, it finds its
entry file done and walks nothing: the result is that of a file without dependencies, in list form
without even the file itself. -/
theorem repeated_call_walks_nothing (h : Context.ofOptions w o = .ok x)
    (hanchor : isAbsolute x.anchor = true) {unresolved : List Text}
    (hy : perform w o cache unresolved = .ok y) (haborted : ∃ e, y.result = .error e)
    (h' : Context.ofOptions w o' = .ok x') (hanchor' : isAbsolute x'.anchor = true)
    (hshape : o'.shape = o.shape) (hc : x.collaborators.Decides x'.collaborators)
    (hentry : x'.filename = x.filename) (later : List Text) :
    ∃ z, perform w o' y.cache later = .ok z ∧ z.state.extracted = [] ∧
      match o'.shape with
      | .list => z.result = .ok (.list [])
      | .tree => ∃ root id, z.result = .ok (.node root) ∧
          z.state.graph.members root = [(x'.filename, .node id)] ∧
          z.state.graph.members id = [] := by
  have hx := Context.fits h
  have hx' := Context.fits h'
  obtain ⟨hpresent, stack, hstack, hpartway⟩ := partway_of_aborted h hanchor hc hy haborted
  obtain ⟨z, t, r, t₁, v, hz, p⟩ :=
    perform_of_found h' hanchor' hc.decisive (hentry ▸ hpresent) y.cache later
  have hshapes : x.shape = x'.shape := by rw [hx'.shape, hshape, hx.shape]
  rw [hshapes, ← hentry] at hpartway
  obtain ⟨hcached, hnode⟩ :=
    hpartway.placeholder hstack (cache.begins_opened o x unresolved).paired
  obtain ⟨hextracted, hresult, hgraph⟩ := p.of_cached hcached
  refine ⟨z, hz, hextracted, ?_⟩
  rw [← hx'.shape]
  cases hcase : x'.shape with
  | list =>
    rw [hresult, hcase]
    rfl
  | tree =>
    obtain ⟨hlt, hempty⟩ := hnode hcase
    rw [hcase] at hresult hgraph
    refine ⟨_, (cache.opened o x unresolved).graph.size, hresult, ?_, ?_⟩
    · rw [hgraph]
      exact Graph.members_add_new _ _
    · rw [hgraph, ← hempty]
      exact Graph.members_add_old _ _ hlt

end Walk
end ModuleGraph
