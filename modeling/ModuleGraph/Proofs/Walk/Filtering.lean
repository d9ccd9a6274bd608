import ModuleGraph.Proofs.Walk.Extraction
import ModuleGraph.Proofs.Walk.Records

/-! Filtering deletes edges. A filter that always has a verdict might as well be taken out, and the
specifiers that lead to what it rejects be removed from what the extractor gives: every file then
has the same dependencies and the same specifiers that lead nowhere, and nothing else goes into a
walk. -/

namespace ModuleGraph.Walk

open ModuleGraph.Path

variable {c c' : Collaborators} {shape : Shape} {s s' s₁ s₁' t t' : State} {paths : List Path}
  {results results' : List Ref} {entry : Path} {v v' : Visited Ref} {cache : Cache}
  {keeps : Path → Path → Bool}

def Collaborators.pruned (c : Collaborators) (keeps : Path → Path → Bool) : Extractor := fun file =>
  let kept (specifier : Text) : Bool := (c.target? file specifier).all fun path => keeps path file
  ⟨(c.extract file).value.map fun specifiers => specifiers.filter kept, (c.extract file).notes⟩

namespace Collaborators

def unfiltered (c : Collaborators) (keeps : Path → Path → Bool) : Collaborators :=
  { c with extract := c.pruned keeps, accept := none }

theorem unfiltered_specifiers (keeps : Path → Path → Bool) (file : Path) :
    (c.unfiltered keeps).specifiers file = (c.specifiers file).filter fun specifier =>
      (c.target? file specifier).all fun path => keeps path file := by
  simp only [specifiers, unfiltered, pruned]
  cases (c.extract file).value <;> rfl

theorem unfiltered_missing (keeps : Path → Path → Bool) :
    (c.unfiltered keeps).missing = c.missing := by
  funext file
  have htarget : (c.unfiltered keeps).target? = c.target? := rfl
  rw [missing, missing, htarget, unfiltered_specifiers, List.filter_filter]
  apply List.filter_congr
  intro specifier _
  cases c.target? file specifier <;> rfl

theorem filterMap_kept (f : Text → Option Path) (keep : Path → Bool) (specifiers : List Text) :
    (specifiers.filter fun specifier => (f specifier).all keep).filterMap f =
      (specifiers.filterMap f).filter keep := by
  induction specifiers with
  | nil => rfl
  | cons specifier rest ih =>
    cases hf : f specifier with
    | none => simp [hf, ih]
    | some path => by_cases hkeep : keep path = true <;> simp [hf, hkeep, ih]

theorem unfiltered_dependencies
    (haccept : c.accept = some fun path file => .ok (keeps path file)) :
    (c.unfiltered keeps).dependencies = c.dependencies := by
  funext file
  have htarget : (c.unfiltered keeps).target? = c.target? := rfl
  have haccepts : ∀ path, c.accepts path file = keeps path file := by simp [accepts, haccept]
  have hall : ∀ path, (c.unfiltered keeps).accepts path file = true := fun _ => rfl
  simp only [dependencies, hall, haccepts, List.filter_true]
  rw [candidates, candidates, htarget, unfiltered_specifiers, filterMap_kept, distinct_filter]

end Collaborators

/-- The second state differs at most in what the filter was asked and in the notes. -/
def State.Alike (s t : State) : Prop :=
  ∃ judged notes, t = { s with judged := judged, notes := notes }

theorem Cache.Begins.alike (hs : cache.Begins s) (ht : cache.Begins t)
    (hunresolved : t.unresolved = s.unresolved) : s.Alike t := by
  refine ⟨t.judged, t.notes, ?_⟩
  rw [hs.graph.trans ht.graph.symm, hs.visited.trans ht.visited.symm, ← hunresolved,
    hs.completed.trans ht.completed.symm, hs.dependencies.trans ht.dependencies.symm,
    hs.pending.trans ht.pending.symm, hs.extracted.trans ht.extracted.symm]

theorem Walked.alike (hdependencies : c'.dependencies = c.dependencies)
    (hmissing : c'.missing = c.missing) (h : Walked c shape s paths results s') (hs : s.Alike t)
    (h' : Walked c' shape t paths results' t') : results' = results ∧ s'.Alike t' := by
  -- the second walk comes to the case of the first, since both find the same files in the cache
  induction h generalizing t results' t' with
  | done s =>
    cases h'
    exact ⟨rfl, hs⟩
  | @known s s' path rest r results notes seen hit others ih =>
    obtain ⟨judged, notes', rfl⟩ := hs
    cases h' with
    | known notes'' _ hit' others' =>
      obtain rfl := Option.some.inj (hit.symm.trans hit')
      obtain ⟨rfl, hs'⟩ := ih ⟨judged, notes'', rfl⟩ others'
      exact ⟨rfl, hs'⟩
    | fresh _ unseen _ _ => exact absurd unseen seen
  | @fresh s s₁ s' path rest below results notes unseen inner others ih₁ ih₂ =>
    obtain ⟨judged, notes', rfl⟩ := hs
    cases h' with
    | known _ seen _ _ => exact absurd unseen seen
    | @fresh _ t₁ _ _ _ below' results' notes'' _ inner' others' =>
      rw [hdependencies] at inner' others'
      have hentered : (s.entered c shape path notes).Alike
          (State.entered c' shape path notes''
            { s with judged := judged, notes := notes' }) :=
        ⟨judged ++ c'.asked path, notes'', by
          simp only [State.entered, hmissing]
          rfl⟩
      obtain ⟨rfl, judged₁, notes₁, rfl⟩ := ih₁ hentered inner'
      obtain ⟨rfl, hs'⟩ := ih₂ ⟨judged₁, notes₁, rfl⟩ others'
      rw [hdependencies]
      exact ⟨rfl, hs'⟩

theorem Settled.alike (h : Settled shape entry s v) (h' : Settled shape entry t v')
    (hs : s.Alike t) (hkeys : s.visited.results.keys.Nodup) : v' = v := by
  obtain ⟨judged, notes, rfl⟩ := hs
  have hnodup : v.results.keys.Nodup := h.keys ▸ hkeys
  exact h.paired.eq_of_results h'.paired hnodup (h'.results.trans h.results.symm)
    fun f => (h'.stage f).trans (h.stage f).symm

structure Outcome.Same (y y' : Outcome) : Prop where
  result : y'.result = y.result
  graph : y'.state.graph = y.state.graph
  visited : y'.state.visited = y.state.visited
  extracted : y'.state.extracted = y.state.extracted
  completed : y'.state.completed = y.state.completed
  unresolved : y'.state.unresolved = y.state.unresolved

theorem Performed.same {x : Context} {y y' : Outcome} {r r' : Ref}
    (p : Performed x cache y s r s₁ v)
    (p' : Performed { x with collaborators := c' } cache y' s' r' s₁' v') (hs : s.Alike s')
    (hdependencies : c'.dependencies = x.collaborators.dependencies)
    (hmissing : c'.missing = x.collaborators.missing) (hkeys : cache.results.keys.Nodup) :
    y.Same y' := by
  obtain ⟨hresults, hs₁⟩ := p.walked.alike hdependencies hmissing hs p'.walked
  obtain rfl : r' = r := List.singleton_inj.mp hresults
  have hnodup : s₁.visited.results.keys.Nodup := by
    have hafter := p.nodup_keys hkeys
    rwa [Outcome.cache, p.visited, p.settled.keys] at hafter
  obtain rfl : v' = v := p.settled.alike p'.settled hs₁ hnodup
  obtain ⟨judged, notes, rfl⟩ := hs₁
  refine ⟨?_, ?_, ?_, ?_, ?_, ?_⟩
  · rw [p.result, p'.result]
  · rw [p.graph, p'.graph]
  · rw [p.visited, p'.visited]
  · rw [p.extracted, p'.extracted]
  · rw [p.completed, p'.completed]
  · rw [p.unresolved, p'.unresolved]

variable {w : World} {o : Options} {x : Context}

theorem Context.Fits.decisive (hx : Context.Fits w o x)
    (hfilter : o.filter = .function fun path file => .ok (keeps path file)) :
    x.collaborators.Decisive := by
  intro accept haccept path file
  obtain rfl := Option.some.inj ((hx.accept _ hfilter).symm.trans haccept)
  exact ⟨_, rfl⟩

theorem same_without_filter (h : Context.ofOptions w o = .ok x)
    (hanchor : isAbsolute x.anchor = true)
    (hfilter : o.filter = .function fun path file => .ok (keeps path file))
    (hkeys : cache.results.keys.Nodup) (unresolved : List Text) :
    ∃ y y' r, perform w o cache unresolved = .ok y ∧
      perform w { o with
        filter := .absent
        extractor := .function (x.collaborators.pruned keeps) } cache unresolved = .ok y' ∧
      y.result = .ok r ∧ y.Same y' := by
  have hx := Context.fits h
  have haccept := hx.accept _ hfilter
  have h' := hx.unfiltered (x.collaborators.pruned keeps)
  cases hpresent : w.pathExists x.filename with
  | false =>
    obtain ⟨y, hperform, -, hresult, hcache, hextracted⟩ :=
      perform_of_absent h hpresent cache unresolved
    obtain ⟨y', hperform', -, hresult', hcache', hextracted'⟩ :=
      perform_of_absent h' hpresent cache unresolved
    obtain ⟨hvisited, -, hcompleted, hunresolved, -⟩ := state_of_absent h hpresent hperform
    obtain ⟨hvisited', -, hcompleted', hunresolved', -⟩ := state_of_absent h' hpresent hperform'
    have hgraph : y'.cache.graph = y.cache.graph := by rw [hcache, hcache']
    exact ⟨y, y', _, hperform, hperform', hresult,
      ⟨hresult'.trans hresult.symm, hgraph, hvisited'.trans hvisited.symm,
        hextracted'.trans hextracted.symm, hcompleted'.trans hcompleted.symm,
        hunresolved'.trans hunresolved.symm⟩⟩
  | true =>
    have hc := hx.decisive hfilter
    have hc' : (x.collaborators.unfiltered keeps).Decisive := fun _ hf => by cases hf
    obtain ⟨y, r, s₁, v, hperform, p⟩ := performed_of_found h hanchor hc hpresent cache unresolved
    obtain ⟨y', r', s₁', v', hperform', p'⟩ :=
      performed_of_found h' hanchor hc' hpresent cache unresolved
    have hbegun := (cache.opened_records o x unresolved).1
    have hbegun' := (cache.opened_records { o with
      filter := .absent
      extractor := .function (x.collaborators.pruned keeps) }
      { x with collaborators := x.collaborators.unfiltered keeps } unresolved).1
    have hs := p.begins.alike p'.begins (hbegun'.trans hbegun.symm)
    exact ⟨y, y', _, hperform, hperform', p.result,
      p.same p' hs (Collaborators.unfiltered_dependencies haccept)
        (Collaborators.unfiltered_missing keeps) hkeys⟩

theorem Collaborators.nodup_asked (c : Collaborators) {files : List Path} (h : files.Nodup) :
    (files.flatMap c.asked).Nodup := by
  rw [List.nodup_flatMap]
  refine ⟨fun file _ => ?_, ?_⟩
  · unfold asked
    cases c.accept with
    | none => exact List.nodup_nil
    | some accept =>
      exact (nodup_distinct _).map fun path path' heq => (Prod.ext_iff.mp heq).1
  · refine h.imp fun {file file'} hne pair hpair hpair' => hne ?_
    have hfile : ∀ {f}, pair ∈ c.asked f → pair.2 = f := by
      intro f hf
      unfold asked at hf
      cases haccept : c.accept with
      | none => simp [haccept] at hf
      | some accept =>
        simp only [haccept, List.mem_map] at hf
        obtain ⟨path, -, rfl⟩ := hf
        rfl
    rw [← hfile hpair, ← hfile hpair']

theorem judged_of_decisive (h : Context.ofOptions w o = .ok x)
    (hanchor : isAbsolute x.anchor = true) (hc : x.collaborators.Decisive) {unresolved : List Text}
    {y : Outcome} (hy : perform w o cache unresolved = .ok y) :
    y.state.judged = y.state.extracted.flatMap x.collaborators.asked ∧
      y.state.extracted.Nodup := by
  cases hpresent : w.pathExists x.filename with
  | false =>
    obtain ⟨-, -, hextracted⟩ := outcome_of_absent h hpresent hy
    obtain ⟨-, -, -, -, hjudged⟩ := state_of_absent h hpresent hy
    simp [hextracted, hjudged]
  | true =>
    obtain ⟨y', r, s₁, v, hperform, p⟩ :=
      performed_of_found h hanchor hc hpresent cache unresolved
    obtain rfl := Except.ok.inj (hperform.symm.trans hy)
    obtain ⟨pre, post, held, -, hsearch, hextracted, -⟩ := p.trace
    exact ⟨(p.records (.opened _ cache o x unresolved)).2, hextracted ▸ hsearch.nodup_pre⟩

/-- Filtering deletes edges. A call with a filter that is a predicate gives the same result as the
call without a filter whose extractor leaves out the specifiers that lead to something rejected; it
leaves the same nodes, the same cache in the same order and the same unresolved specifiers, and it
extracts and completes the same files. The filter is asked once about each candidate of each file
that is extracted, in the order of extraction; and whenever the walk is below a file, it has been
asked about all candidates of the file. -/
theorem filtering_deletes_edges (h : Context.ofOptions w o = .ok x)
    (hanchor : isAbsolute x.anchor = true)
    (hfilter : o.filter = .function fun path file => .ok (keeps path file))
    (hkeys : cache.results.keys.Nodup) (unresolved : List Text) :
    let c := x.collaborators
    let asked (files : List Path) : List (Path × Path) :=
      files.flatMap fun file => (c.candidates file).map fun path => (path, file)
    ∃ y y' r, perform w o cache unresolved = .ok y ∧
      perform w { o with
        filter := .absent
        extractor := .function (c.pruned keeps) } cache unresolved = .ok y' ∧
      y.result = .ok r ∧ y.Same y' ∧
      y.state.judged = asked y.state.extracted ∧ y.state.judged.Nodup ∧
      (w.pathExists x.filename = true →
        ∀ m ∈ moments c x.shape x.filename (cache.opened o x unresolved),
          m.stack ⊆ m.state.extracted ∧ m.state.judged = asked m.state.extracted) := by
  intro c asked
  have hx := Context.fits h
  have haccept := hx.accept _ hfilter
  have hc : c.Decisive := hx.decisive hfilter
  have hasked : ∀ files, files.flatMap c.asked = asked files := by
    intro files
    have hone : c.asked = fun file => (c.candidates file).map fun path => (path, file) := by
      funext file
      simp only [Collaborators.asked, c, haccept]
    rw [hone]
  obtain ⟨y, y', r, hperform, hperform', hresult, hsame⟩ :=
    same_without_filter h hanchor hfilter hkeys unresolved
  obtain ⟨hjudged, hnodup⟩ := judged_of_decisive h hanchor hc hperform
  refine ⟨y, y', r, hperform, hperform', hresult, hsame, hjudged.trans (hasked _), ?_, ?_⟩
  · rw [hjudged]
    exact c.nodup_asked hnodup
  · intro hpresent m hm
    have hrecorded := moments_recorded h hanchor hc hpresent cache unresolved m hm
    exact ⟨hrecorded.extracted, hrecorded.records.judged_eq.trans (hasked _)⟩

theorem two_files_without_the_directory :
    let options := { TwoFiles.options .list ['/', 'f'] with
      filter := .function fun path _ => .ok (decide (path ≠ ['/', 'd'])) }
    let pruned := (TwoFiles.context .list ['/', 'f']).collaborators.pruned
      fun path _ => decide (path ≠ ['/', 'd'])
    ∃ y y' r, perform TwoFiles.world options .empty [] = .ok y ∧
      perform TwoFiles.world { options with
        filter := .absent
        extractor := .function pruned } .empty [] = .ok y' ∧
      y.result = .ok r ∧ y'.result = .ok r ∧ y'.cache = y.cache ∧ y.state.judged.Nodup := by
  intro options pruned
  have hkeys : Cache.empty.results.keys.Nodup := List.nodup_nil
  have hfilter : options.filter =
      .function fun path _ => .ok (decide (path ≠ ['/', 'd'])) := rfl
  obtain ⟨y, y', r, hperform, hperform', hresult, hsame, -, hnodup, -⟩ :=
    filtering_deletes_edges (TwoFiles.ofOptions_filtered .list _ rfl) rfl hfilter
      hkeys []
  refine ⟨y, y', r, hperform, hperform', hresult, hsame.result.trans hresult, ?_, hnodup⟩
  rw [Outcome.cache, Outcome.cache, hsame.graph, hsame.visited]

end ModuleGraph.Walk
