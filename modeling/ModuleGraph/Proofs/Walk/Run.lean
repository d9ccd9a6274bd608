import ModuleGraph.Proofs.Walk.Partway
import ModuleGraph.Proofs.Walk.Settling
import ModuleGraph.Proofs.Walk.Trace

/-! A whole run: a walk from the entry file, and after it the settling of what was held back.
Settling keeps the files and their order, finishes what was held back and takes over the results
that the shape makes anew. -/

namespace ModuleGraph.Walk

variable {c c' : Collaborators} {shape : Shape} {s s' : State}

theorem release_apply {file : Path} (hs : s.visited.Paired)
    (hfile : s.visited.stage file = .inProgress) :
    ∃ v, release file s = (.ok (), { s with visited := v }) ∧ v.results = s.visited.results ∧
      (∀ f, v.stage f = if f = file then .done else s.visited.stage f) ∧ v.Paired := by
  have hseen : s.visited.stage file ≠ .unseen := by rw [hfile]; decide
  obtain ⟨r, hr⟩ := hs.exists_result hseen
  have hresult : s.visited.result file = .ok r := by rw [Visited.result, hr]
  refine ⟨s.visited.put file .done r, ?_, ?_, fun f => Visited.stage_put _ _ _ _ f,
    hs.put (by decide) r⟩
  · rw [release, onVisited_apply]
    simp only [hresult, bind, Except.bind, Visited.finish_of_inProgress hfile]
  · rw [Visited.results_put, Table.set_eq_self hr]

theorem releases_apply {files : List Path} (hs : s.visited.Paired) (hnodup : files.Nodup)
    (hopen : ∀ f ∈ files, s.visited.stage f = .inProgress) :
    ∃ units v, forEach release files s = (.ok units, { s with visited := v }) ∧
      v.results = s.visited.results ∧
      (∀ f, v.stage f = if f ∈ files then .done else s.visited.stage f) ∧ v.Paired := by
  induction files generalizing s with
  | nil => exact ⟨[], s.visited, rfl, rfl, by simp, hs⟩
  | cons file rest ih =>
    obtain ⟨hfile, hrest⟩ := List.forall_mem_cons.mp hopen
    obtain ⟨hnew, hnodup⟩ := List.nodup_cons.mp hnodup
    obtain ⟨v₁, hone, hresults₁, hstage₁, hs₁⟩ := release_apply hs hfile
    have hopen' : ∀ f ∈ rest, v₁.stage f = .inProgress := by
      intro f hf
      have hne : f ≠ file := fun h => hnew (h ▸ hf)
      rw [hstage₁, if_neg hne, hrest f hf]
    obtain ⟨units, v, hrun, hresults, hstage, hv⟩ :=
      ih (s := { s with visited := v₁ }) hs₁ hnodup hopen'
    refine ⟨() :: units, v, ?_, hresults.trans hresults₁, fun f => ?_, hv⟩
    · rw [forEach, bind_of_ok hone, bind_of_ok hrun, pure_apply]
    · rw [hstage, hstage₁]
      by_cases hf : f = file <;> simp [hf]

theorem keys_settle {g : Graph} {stale : List Path} {dependencies : Table Path (List Path)}
    {results : Table Path Ref} (h : ∀ f ∈ stale, f ∈ results.keys) :
    (shape.settle g stale dependencies results).keys = results.keys := by
  cases shape with
  | tree => rfl
  | list =>
    rw [Shape.settle]
    induction stale generalizing results with
    | nil => rfl
    | cons file rest ih =>
      obtain ⟨hfile, hrest⟩ := List.forall_mem_cons.mp h
      have hkeys : ∀ r, (results.set file r).keys = results.keys := by
        intro r
        rw [Table.keys_set, if_pos hfile]
      rw [List.foldl_cons, ih, hkeys]
      intro f hf
      rw [hkeys]
      exact hrest f hf

theorem renew_apply (shape : Shape) {file : Path} (h : file ∈ s.visited.results.keys) :
    renew shape file s = (.ok (), { s with
      visited.results := shape.settle s.graph [file] s.dependencies s.visited.results }) := by
  rw [renew, bind_of_ok (get_apply s), onVisited_apply]
  cases shape with
  | tree => rfl
  | list =>
    obtain ⟨r, hr⟩ := Table.exists_of_mem_keys h
    have hresult : s.visited.result file = .ok r := by rw [Visited.result, hr]
    have hcontains : s.visited.results.contains file = true := by simp [Table.contains, hr]
    simp only [Shape.renew, hresult, bind, Except.bind, pure, Except.pure, Visited.revise,
      hcontains, if_true]
    rfl

theorem renewals_apply (shape : Shape) {files : List Path}
    (h : ∀ f ∈ files, f ∈ s.visited.results.keys) : ∃ units,
    forEach (renew shape) files s = (.ok units, { s with
      visited.results := shape.settle s.graph files s.dependencies s.visited.results }) := by
  induction files generalizing s with
  | nil =>
    refine ⟨[], ?_⟩
    cases shape <;> rfl
  | cons file rest ih =>
    obtain ⟨hfile, hrest⟩ := List.forall_mem_cons.mp h
    have hkeys : (shape.settle s.graph [file] s.dependencies s.visited.results).keys =
        s.visited.results.keys := keys_settle (List.forall_mem_singleton.mpr hfile)
    obtain ⟨units, hrun⟩ := ih (s := { s with
      visited.results := shape.settle s.graph [file] s.dependencies s.visited.results })
      fun f hf => hkeys ▸ hrest f hf
    refine ⟨() :: units, ?_⟩
    rw [forEach, bind_of_ok (renew_apply shape hfile), bind_of_ok hrun, pure_apply]
    cases shape <;> rfl

/-- The results with which settling ends, and the state in which they have been taken over and the
files held back are about to be finished. -/
def State.settlement (shape : Shape) (entry : Path) (s : State) : Table Path Ref :=
  shape.settle s.graph (s.pending.filter (· ≠ entry)) s.dependencies s.visited.results

def State.revised (shape : Shape) (entry : Path) (s : State) : State :=
  { s with
    visited.results := s.settlement shape entry
    notes := s.notes ++ [⟨.debug,
      s!"Settling {(s.pending.filter (· ≠ entry)).length} results assembled mid-cycle"⟩] }

theorem State.keys_settlement (shape : Shape) (entry : Path) (hs : s.visited.Paired)
    (hopen : ∀ f ∈ s.pending, s.visited.stage f = .inProgress) :
    (s.settlement shape entry).keys = s.visited.results.keys := by
  refine keys_settle fun f hf => hs.seen_iff.mp ?_
  rw [hopen f (List.mem_filter.mp hf).1]
  decide

theorem State.paired_revised (shape : Shape) (entry : Path) (hs : s.visited.Paired)
    (hopen : ∀ f ∈ s.pending, s.visited.stage f = .inProgress) :
    (s.revised shape entry).visited.Paired :=
  ⟨hs.keys.trans (State.keys_settlement shape entry hs hopen).symm, hs.begun⟩

theorem settlePending_eq (shape : Shape) (entry : Path) (hs : s.visited.Paired)
    (hopen : ∀ f ∈ s.pending, s.visited.stage f = .inProgress) :
    settlePending shape entry s =
      (forEach release s.pending >>= fun _ => modify fun s => { s with pending := [] })
        (s.revised shape entry) := by
  have hstale : ∀ f ∈ s.pending.filter (· ≠ entry), f ∈ s.visited.results.keys := by
    intro f hf
    refine hs.seen_iff.mp ?_
    rw [hopen f (List.mem_filter.mp hf).1]
    decide
  obtain ⟨units, hrun⟩ := renewals_apply (s := { s with notes := (s.revised shape entry).notes })
    shape hstale
  rw [settlePending, bind_of_ok (get_apply s), bind_of_ok (note_apply _ _ s)]
  exact bind_of_ok hrun _

structure Settled (shape : Shape) (entry : Path) (s : State) (v : Visited Ref) : Prop where
  results : v.results = s.settlement shape entry
  keys : v.results.keys = s.visited.results.keys
  stage : ∀ f, v.stage f = if f ∈ s.pending then .done else s.visited.stage f
  paired : v.Paired

theorem settlePending_apply (shape : Shape) (entry : Path) (hs : s.visited.Paired)
    (hnodup : s.pending.Nodup) (hopen : ∀ f ∈ s.pending, s.visited.stage f = .inProgress) :
    ∃ v notes, settlePending shape entry s =
      (.ok (), { s with visited := v, pending := [], notes := notes }) ∧
    Settled shape entry s v := by
  obtain ⟨units, v, hrun, hresults, hstage, hv⟩ :=
    releases_apply (State.paired_revised shape entry hs hopen) hnodup hopen
  refine ⟨v, (s.revised shape entry).notes, ?_, hresults, ?_, hstage, hv⟩
  · rw [settlePending_eq shape entry hs hopen, bind_of_ok hrun, modify_apply]
    rfl
  · rw [hresults]
    exact State.keys_settlement shape entry hs hopen

theorem settled_of_pending_eq_nil (entry : Path) (hs : s.visited.Paired) (h : s.pending = []) :
    Settled shape entry s s.visited := by
  refine ⟨?_, rfl, fun f => by simp [h], hs⟩
  cases shape <;> simp [State.settlement, h, Shape.settle]

theorem run_of_absent (shape : Shape) {entry : Path} (h : ¬ c.isPresent entry) (s : State) :
    ∃ notes, run c shape entry s = (.ok (s.provisional shape), { s with
      graph := (shape.empty s.graph).1
      unresolved := distinct s.unresolved
      notes := notes }) := by
  simp only [run, bind_apply, note_apply, h, Bool.not_false, if_true, modify_apply, build_apply]
  exact ⟨_, rfl⟩

def State.announced (entry : Path) (s : State) : State :=
  { s with notes := s.notes ++ [⟨.info, s!"Traversing dependencies of {Text.string entry}"⟩] }

theorem run_of_walk {entry : Path} {r : Ref} {s₁ : State} {v : Visited Ref}
    (notes : List Log.Record) (h : c.isPresent entry)
    (hwalk : traverse c shape c.depth entry (s.announced entry) = (.ok r, s₁))
    (hsettle : s₁.pending = [] ∧ v = s₁.visited ∨ s₁.pending ≠ [] ∧
      settlePending shape entry s₁ =
        (.ok (), { s₁ with visited := v, pending := [], notes := notes })) : ∃ notes',
    run c shape entry s = (.ok (shape.finalize s₁.graph entry r).2, { s₁ with
      graph := (shape.finalize s₁.graph entry r).1
      visited := v
      pending := []
      unresolved := distinct s₁.unresolved
      notes := notes' }) := by
  rw [State.announced] at hwalk
  simp only [run, bind_apply, note_apply, h, Bool.not_true, Bool.false_eq_true, if_false, hwalk,
    get_apply]
  rcases hsettle with ⟨hempty, rfl⟩ | ⟨hheld, hsettle⟩
  · simp only [hempty, List.isEmpty_nil, Bool.not_true, Bool.false_eq_true, if_false, bind_apply,
      modify_apply, get_apply, note_apply, build_apply]
    exact ⟨_, rfl⟩
  · have hheld' : (!s₁.pending.isEmpty) = true := by simpa using hheld
    simp only [hheld', if_true, bind_apply, hsettle, modify_apply, get_apply, note_apply,
      build_apply]
    exact ⟨_, rfl⟩

theorem run_of_break {entry : Path} {e : Fault} {s₁ : State} (h : c.isPresent entry)
    (hwalk : traverse c shape c.depth entry (s.announced entry) = (.error e, s₁)) :
    run c shape entry s = (.error e, s₁) := by
  rw [State.announced] at hwalk
  simp only [run, bind_apply, note_apply, h, Bool.not_true, Bool.false_eq_true, if_false, hwalk]

/-- A run from an entry that is there: the walk, the settling and the result, unless the filter
breaks off the walk. -/
theorem run_cases (shape : Shape) (hc : c.Decides c') {files : Finset Path}
    (hfiles : c'.Grounded files) {entry : Path} (hentry : c'.Found entry)
    (hpaired : s.visited.Paired) (hpending : s.pending = []) :
    (∃ r s₁ v, traverse c shape c.depth entry (s.announced entry) = (.ok r, s₁) ∧
      Walked c' shape (s.announced entry) [entry] [r] s₁ ∧ Settled shape entry s₁ v ∧ ∃ notes',
      run c shape entry s = (.ok (shape.finalize s₁.graph entry r).2, { s₁ with
        graph := (shape.finalize s₁.graph entry r).1
        visited := v
        pending := []
        unresolved := distinct s₁.unresolved
        notes := notes' })) ∨
    ¬ c.Decisive ∧ ∃ reason stack s₁,
      traverse c shape c.depth entry (s.announced entry) = (.error (.filter reason), s₁) ∧
      stack ≠ [] ∧ Partway c' shape (s.announced entry) [entry] stack s₁ ∧
      run c shape entry s = (.error (.filter reason), s₁) := by
  have hpresent : c.isPresent entry := by
    have hthere := hentry.1
    rw [hc.same] at hthere
    exact hthere
  have hcard : ((s.announced entry).unseen files).card < c.depth := by
    have hless := hfiles.card_lt
    rw [hc.same] at hless
    exact Nat.lt_of_le_of_lt (Finset.card_le_card (Finset.filter_subset _ _)) hless
  rcases traverse_cases shape hc hfiles c.depth (s.announced entry) entry hpaired hentry hcard with
    ⟨r, s₁, hrun, hwalked⟩ | ⟨hbreaks, reason, stack, s₁, hrun, hstack, hpartway⟩
  · left
    obtain ⟨pre, post, held, t⟩ := hwalked.trace
    have hs₁ := t.paired hpaired
    have hheld : s₁.pending = held := by simp [t.pending, State.announced, hpending]
    have hnodup : s₁.pending.Nodup := hheld ▸ t.held_sublist.nodup t.search.nodup_post
    have hopen : ∀ f ∈ s₁.pending, s₁.visited.stage f = .inProgress := by
      intro f hf
      rw [t.stage, if_pos (hheld ▸ hf)]
    by_cases hempty : s₁.pending = []
    · exact ⟨r, s₁, s₁.visited, hrun, hwalked, settled_of_pending_eq_nil entry hs₁ hempty,
        run_of_walk [] hpresent hrun (Or.inl ⟨hempty, rfl⟩)⟩
    · obtain ⟨v, notes, hsettle, hsettled⟩ := settlePending_apply shape entry hs₁ hnodup hopen
      exact ⟨r, s₁, v, hrun, hwalked, hsettled,
        run_of_walk notes hpresent hrun (Or.inr ⟨hempty, hsettle⟩)⟩
  · exact Or.inr ⟨hbreaks, reason, stack, s₁, hrun, hstack, hpartway, run_of_break hpresent hrun⟩

end ModuleGraph.Walk
