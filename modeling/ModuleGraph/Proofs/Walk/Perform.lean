import ModuleGraph.Proofs.Walk.Context
import ModuleGraph.Proofs.Walk.Run
import ModuleGraph.Walk.Sequence

/-! Whole calls: from accepted options a run is made, on the cache that it is given. What every
call keeps of a cache is kept by any sequence of calls. -/

namespace ModuleGraph.Walk

open ModuleGraph.Path

variable {w : World} {o : Options} {x : Context}

def Cache.files (cache : Cache) : Set Path := {f | f ∈ cache.results.keys}

/-- A state in which a run on the cache begins. What is known to lead nowhere and what is noted
make no difference to it. -/
structure Cache.Begins (cache : Cache) (s : State) : Prop where
  graph : s.graph = cache.graph
  visited : s.visited = .ofResults cache.results
  dependencies : s.dependencies = []
  pending : s.pending = []
  extracted : s.extracted = []
  completed : s.completed = []

namespace Cache.Begins

variable {cache : Cache} {s : State} (hs : cache.Begins s)
include hs

theorem results : s.visited.results = cache.results := by
  rw [hs.visited]
  rfl

theorem paired : s.visited.Paired := by
  rw [hs.visited]
  exact Visited.paired_ofResults _

theorem stage (f : Path) :
    s.visited.stage f = if f ∈ cache.results.keys then .done else .unseen := by
  rw [hs.visited, Visited.stage_ofResults, Table.contains]
  by_cases hf : f ∈ cache.results.keys
  · have hsome : cache.results.get? f ≠ none := fun h => Table.get?_eq_none_iff.mp h hf
    simp [hf, Option.isSome_iff_ne_none, hsome]
  · simp [hf, Table.get?_eq_none_iff.mpr hf]

theorem seen : s.seen = cache.files := by
  ext f
  simp only [State.seen, Cache.files, Set.mem_ofPred_eq, hs.stage f]
  by_cases hf : f ∈ cache.results.keys <;> simp [hf]

end Cache.Begins

/-- Options under which, if they are accepted, relative paths are seen from an absolute directory
and the filter never breaks off the walk. -/
def Options.Regular (w : World) (o : Options) : Prop :=
  ∀ x, Context.ofOptions w o = .ok x → isAbsolute x.anchor = true ∧ x.collaborators.Decisive

def Options.Anchored (w : World) (o : Options) : Prop :=
  ∀ x, Context.ofOptions w o = .ok x → isAbsolute x.anchor = true

theorem perform_of_rejected {e : Options.Fault} (h : Context.ofOptions w o = .error e)
    (cache : Cache) (unresolved : List Text) : perform w o cache unresolved = .error e := by
  simp only [perform, h, bind, Except.bind]

def Cache.opened (cache : Cache) (o : Options) (x : Context) (unresolved : List Text) : State :=
  (opening (o.filename.getD []) x cache
    (.start cache.graph cache.results unresolved)).2.announced x.filename

theorem opening_apply (name : Text) (x : Context) (cache : Cache) (s : State) : ∃ notes,
    opening name x cache s = (.ok (), { s with notes := notes }) := by
  cases hempty : cache.results.isEmpty <;>
    simp only [opening, bind_apply, note_apply, hempty, Bool.not_true, Bool.not_false, if_true,
      Bool.false_eq_true, if_false, pure_apply]
  · exact ⟨_, rfl⟩
  · exact ⟨_, rfl⟩

theorem perform_eq (h : Context.ofOptions w o = .ok x) (cache : Cache) (unresolved : List Text) :
    ∃ s, cache.Begins s ∧ s.announced x.filename = cache.opened o x unresolved ∧
      perform w o cache unresolved =
        let (result, state) := run x.collaborators x.shape x.filename s
        .ok ⟨x, result, state⟩ := by
  obtain ⟨notes, hopening⟩ := opening_apply (o.filename.getD []) x cache
    (.start cache.graph cache.results unresolved)
  refine ⟨_, ?_, by rw [Cache.opened, hopening], ?_⟩
  · exact ⟨rfl, rfl, rfl, rfl, rfl, rfl⟩
  · unfold perform
    simp only [h, bind, Except.bind, pure, Except.pure, Walk.bind, hopening]

theorem Cache.begins_opened (cache : Cache) (o : Options) (x : Context) (unresolved : List Text) :
    cache.Begins (cache.opened o x unresolved) := by
  obtain ⟨notes, hopening⟩ := opening_apply (o.filename.getD []) x cache
    (.start cache.graph cache.results unresolved)
  rw [Cache.opened, hopening]
  exact ⟨rfl, rfl, rfl, rfl, rfl, rfl⟩

theorem Cache.opened_records (cache : Cache) (o : Options) (x : Context) (unresolved : List Text) :
    (cache.opened o x unresolved).unresolved = unresolved ∧
      (cache.opened o x unresolved).judged = [] := by
  obtain ⟨notes, hopening⟩ := opening_apply (o.filename.getD []) x cache
    (.start cache.graph cache.results unresolved)
  rw [Cache.opened, hopening]
  exact ⟨rfl, rfl⟩

theorem context_of_perform {cache : Cache} {unresolved : List Text} {y : Outcome}
    (h : Context.ofOptions w o = .ok x) (hy : perform w o cache unresolved = .ok y) :
    y.context = x := by
  obtain ⟨s, -, -, hperform⟩ := perform_eq h cache unresolved
  rw [hperform] at hy
  exact (congrArg Outcome.context (Except.ok.inj hy)).symm

theorem exists_outcome {α : Type} {f : Outcome → α} {a : α} {cache : Cache}
    {unresolved : List Text} (h : (perform w o cache unresolved).map f = .ok a) :
    ∃ y, perform w o cache unresolved = .ok y ∧ f y = a := by
  cases hperform : perform w o cache unresolved with
  | error e =>
    rw [hperform] at h
    cases h
  | ok y =>
    rw [hperform] at h
    exact ⟨y, rfl, Except.ok.inj h⟩

/-- How a call went from an entry file that is there: a walk from the state `s` to the state `s₁`
with the result `r`, after which settling has left `v`. -/
structure Performed (x : Context) (cache : Cache) (y : Outcome) (s : State) (r : Ref) (s₁ : State)
    (v : Visited Ref) : Prop where
  begins : cache.Begins s
  walked : Walked x.collaborators x.shape s [x.filename] [r] s₁
  settled : Settled x.shape x.filename s₁ v
  result : y.result = .ok (x.shape.finalize s₁.graph x.filename r).2
  graph : y.state.graph = (x.shape.finalize s₁.graph x.filename r).1
  visited : y.state.visited = v
  extracted : y.state.extracted = s₁.extracted
  completed : y.state.completed = s₁.completed
  unresolved : y.state.unresolved = distinct s₁.unresolved
  judged : y.state.judged = s₁.judged
  pending : y.state.pending = []

/-- A call from an entry file that is there goes as it would with a filter that never breaks off the
walk, unless the filter breaks it off. -/
theorem perform_cases {c : Collaborators} (h : Context.ofOptions w o = .ok x)
    (hanchor : isAbsolute x.anchor = true) (hc : x.collaborators.Decides c)
    (hpresent : w.pathExists x.filename = true) (cache : Cache) (unresolved : List Text) :
    let s := cache.opened o x unresolved
    let walk := traverse x.collaborators x.shape x.collaborators.depth x.filename s
    ∃ y, perform w o cache unresolved = .ok y ∧
      ((∃ r s₁ v, walk = (.ok r, s₁) ∧
        Performed { x with collaborators := c } cache y s r s₁ v) ∨
      ¬ x.collaborators.Decisive ∧ ∃ reason stack, walk = (.error (.filter reason), y.state) ∧
        stack ≠ [] ∧ Partway c x.shape s [x.filename] stack y.state ∧
        y.result = .error (.filter reason)) := by
  have hx := Context.fits h
  obtain ⟨s, hs, hopened, hperform⟩ := perform_eq h cache unresolved
  have hfiles := hc.grounded (hx.grounded hanchor)
  have hbegins := cache.begins_opened o x unresolved
  simp only [← hopened] at hbegins ⊢
  rcases run_cases x.shape hc hfiles (hc.found (hx.found hanchor hpresent))
      hs.paired hs.pending with
    ⟨r, s₁, v, hwalk, hwalked, hsettled, notes', hrun⟩ |
    ⟨hbreaks, reason, stack, s₁, hwalk, hstack, hpartway, hrun⟩
  · rw [hrun] at hperform
    exact ⟨_, hperform, Or.inl ⟨r, s₁, v, hwalk, hbegins, hwalked, hsettled, rfl, rfl, rfl, rfl,
      rfl, rfl, rfl, rfl⟩⟩
  · rw [hrun] at hperform
    exact ⟨_, hperform, Or.inr ⟨hbreaks, reason, stack, hwalk, hstack, hpartway, rfl⟩⟩

theorem performed_of_found (h : Context.ofOptions w o = .ok x)
    (hanchor : isAbsolute x.anchor = true) (hc : x.collaborators.Decisive)
    (hpresent : w.pathExists x.filename = true) (cache : Cache) (unresolved : List Text) :
    ∃ y r s₁ v, perform w o cache unresolved = .ok y ∧
      Performed x cache y (cache.opened o x unresolved) r s₁ v := by
  obtain ⟨y, hperform, hy⟩ := perform_cases h hanchor hc.decides hpresent cache unresolved
  rcases hy with ⟨r, s₁, v, -, p⟩ | ⟨hbreaks, -⟩
  · exact ⟨y, r, s₁, v, hperform, p⟩
  · exact absurd hc hbreaks

theorem perform_of_found (h : Context.ofOptions w o = .ok x)
    (hanchor : isAbsolute x.anchor = true) (hc : x.collaborators.Decisive)
    (hpresent : w.pathExists x.filename = true) (cache : Cache) (unresolved : List Text) :
    ∃ y s r s₁ v, perform w o cache unresolved = .ok y ∧ Performed x cache y s r s₁ v := by
  obtain ⟨y, r, s₁, v, hperform, p⟩ := performed_of_found h hanchor hc hpresent cache unresolved
  exact ⟨y, _, r, s₁, v, hperform, p⟩

theorem perform_of_absent (h : Context.ofOptions w o = .ok x)
    (habsent : w.pathExists x.filename = false) (cache : Cache) (unresolved : List Text) :
    ∃ y, perform w o cache unresolved = .ok y ∧ y.context = x ∧
      y.result = .ok (x.shape.empty cache.graph).2 ∧
      y.cache = ⟨(x.shape.empty cache.graph).1, cache.results⟩ ∧ y.state.extracted = [] := by
  have hx := Context.fits h
  obtain ⟨s, hs, -, hperform⟩ := perform_eq h cache unresolved
  have habsent' : ¬ x.collaborators.isPresent x.filename := by
    rw [hx.isPresent, habsent]; decide
  obtain ⟨notes, hrun⟩ := run_of_absent x.shape habsent' s
  rw [hrun] at hperform
  refine ⟨_, hperform, rfl, ?_, ?_, hs.extracted⟩
  · rw [State.provisional, hs.graph]
  · simp only [Outcome.cache, hs.graph, hs.results]

theorem outcome_of_absent {cache : Cache} {unresolved : List Text} {y : Outcome}
    (h : Context.ofOptions w o = .ok x) (habsent : w.pathExists x.filename = false)
    (hy : perform w o cache unresolved = .ok y) :
    y.result = .ok (x.shape.empty cache.graph).2 ∧
      y.cache = ⟨(x.shape.empty cache.graph).1, cache.results⟩ ∧ y.state.extracted = [] := by
  obtain ⟨y', hy', -, houtcome⟩ := perform_of_absent h habsent cache unresolved
  obtain rfl := Except.ok.inj (hy'.symm.trans hy)
  exact houtcome

theorem exists_result_of_decisive (h : Context.ofOptions w o = .ok x)
    (hanchor : isAbsolute x.anchor = true) (hc : x.collaborators.Decisive) {cache : Cache}
    {unresolved : List Text} {y : Outcome} (hy : perform w o cache unresolved = .ok y) :
    ∃ r, y.result = .ok r := by
  cases hpresent : w.pathExists x.filename with
  | false => exact ⟨_, (outcome_of_absent h hpresent hy).1⟩
  | true =>
    obtain ⟨y', r, s₁, v, hy', p⟩ := performed_of_found h hanchor hc hpresent cache unresolved
    obtain rfl := Except.ok.inj (hy'.symm.trans hy)
    exact ⟨_, p.result⟩

theorem performed_of_ok (h : Context.ofOptions w o = .ok x)
    (hanchor : isAbsolute x.anchor = true) {c : Collaborators}
    (hc : x.collaborators.Decides c) (hpresent : w.pathExists x.filename = true) {cache : Cache}
    {unresolved : List Text} {y : Outcome} (hy : perform w o cache unresolved = .ok y)
    (hresult : ∃ r, y.result = .ok r) :
    let s := cache.opened o x unresolved
    ∃ r s₁ v, traverse x.collaborators x.shape x.collaborators.depth x.filename s = (.ok r, s₁) ∧
      Performed { x with collaborators := c } cache y s r s₁ v := by
  obtain ⟨y', hy', hcases⟩ := perform_cases h hanchor hc hpresent cache unresolved
  obtain rfl := Except.ok.inj (hy'.symm.trans hy)
  rcases hcases with hperformed | ⟨-, reason, -, -, -, -, hbroken⟩
  · exact hperformed
  · obtain ⟨r, hr⟩ := hresult
    rw [hbroken] at hr
    cases hr

theorem partway_of_aborted (h : Context.ofOptions w o = .ok x)
    (hanchor : isAbsolute x.anchor = true) {c : Collaborators}
    (hc : x.collaborators.Decides c) {cache : Cache} {unresolved : List Text} {y : Outcome}
    (hy : perform w o cache unresolved = .ok y) (haborted : ∃ e, y.result = .error e) :
    w.pathExists x.filename = true ∧ ∃ stack, stack ≠ [] ∧
      Partway c x.shape (cache.opened o x unresolved) [x.filename] stack y.state := by
  obtain ⟨e, he⟩ := haborted
  cases hpresent : w.pathExists x.filename with
  | false =>
    obtain ⟨hresult, -⟩ := outcome_of_absent h hpresent hy
    rw [he] at hresult
    cases hresult
  | true =>
    obtain ⟨y', hy', hcases⟩ := perform_cases h hanchor hc hpresent cache unresolved
    obtain rfl := Except.ok.inj (hy'.symm.trans hy)
    rcases hcases with ⟨r, s₁, v, -, p⟩ | ⟨-, reason, stack, -, hstack, hpartway, -⟩
    · rw [p.result] at he
      cases he
    · exact ⟨rfl, stack, hstack, hpartway⟩

theorem state_of_absent {cache : Cache} {unresolved : List Text} {y : Outcome}
    (h : Context.ofOptions w o = .ok x) (habsent : w.pathExists x.filename = false)
    (hy : perform w o cache unresolved = .ok y) :
    y.state.visited = .ofResults cache.results ∧ y.state.pending = [] ∧
      y.state.completed = [] ∧ y.state.unresolved = distinct unresolved ∧ y.state.judged = [] := by
  have habsent' : ¬ x.collaborators.isPresent x.filename := by
    rw [(Context.fits h).isPresent, habsent]; decide
  obtain ⟨s, hs, hopened, hperform⟩ := perform_eq h cache unresolved
  obtain ⟨hunresolved, hjudged⟩ := cache.opened_records o x unresolved
  rw [← hopened] at hunresolved hjudged
  obtain ⟨notes, hrun⟩ := run_of_absent x.shape habsent' s
  rw [hperform, hrun] at hy
  obtain rfl := Except.ok.inj hy
  exact ⟨hs.visited, hs.pending, hs.completed, congrArg distinct hunresolved, hjudged⟩

theorem mem_outcomes {calls : List Call} {cache : Cache} {outcome : Except Options.Fault Outcome}
    (h : outcome ∈ outcomes w cache calls) :
    ∃ call ∈ calls, ∃ cache', outcome = perform w call.options cache' call.unresolved := by
  induction calls generalizing cache with
  | nil => cases h
  | cons call rest ih =>
    rcases List.mem_cons.mp h with rfl | h
    · exact ⟨call, List.mem_cons_self, cache, rfl⟩
    · obtain ⟨call', hcall', cache', houtcome⟩ := ih h
      exact ⟨call', List.mem_cons_of_mem _ hcall', cache', houtcome⟩

/-- What holds of a cache and is kept by every call holds of the cache after any calls, and what
follows from it for a single call holds of every call. -/
theorem forall₂_outcomes (Good : Cache → Prop) {Went : Call → Except Options.Fault Outcome → Prop}
    {calls : List Call} {cache : Cache} (hcache : Good cache)
    (hstep : ∀ cache, Good cache → ∀ call ∈ calls,
      let outcome := perform w call.options cache call.unresolved
      Went call outcome ∧ Good (cache.after outcome)) :
    List.Forall₂ Went calls (outcomes w cache calls) ∧
      ∀ outcome ∈ outcomes w cache calls, ∀ y, outcome = .ok y → Good y.cache := by
  induction calls generalizing cache with
  | nil => exact ⟨.nil, by simp [outcomes]⟩
  | cons call rest ih =>
    obtain ⟨hwent, hgood⟩ := hstep cache hcache call List.mem_cons_self
    obtain ⟨hwents, hgoods⟩ := ih hgood fun cache hcache call hcall =>
      hstep cache hcache call (List.mem_cons_of_mem _ hcall)
    refine ⟨.cons hwent hwents, fun outcome houtcome y hy => ?_⟩
    rcases List.mem_cons.mp houtcome with rfl | houtcome
    · rwa [hy] at hgood
    · exact hgoods outcome houtcome y hy

namespace TwoFiles

def calls (shape : Shape) : List Call :=
  [⟨options shape ['/', 'd'], []⟩, ⟨options shape ['/', 'f'], []⟩]

variable {shape : Shape} {call : Call}

theorem mem_calls (h : call ∈ calls shape) :
    ∃ name, given (some name) = some name ∧ call.options = options shape name := by
  simp only [calls, List.mem_cons, List.not_mem_nil, or_false] at h
  rcases h with rfl | rfl
  · exact ⟨['/', 'd'], rfl, rfl⟩
  · exact ⟨['/', 'f'], rfl, rfl⟩

theorem regular (h : call ∈ calls shape) : call.options.Regular world := by
  intro x hx
  obtain ⟨name, hname, hoptions⟩ := mem_calls h
  rw [hoptions, ofOptions_eq shape hname] at hx
  cases hx
  exact ⟨rfl, decisive shape name⟩

end TwoFiles

end ModuleGraph.Walk
