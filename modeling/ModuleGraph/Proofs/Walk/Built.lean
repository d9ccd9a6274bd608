import ModuleGraph.Proofs.Graph.Drawing
import ModuleGraph.Proofs.Walk.Perform

/-! What every part of a walk keeps, whatever the walk asks and however it ends: the nodes map each
name once, and the results are lists or nodes that there are. The result of a call in tree form is a
node that maps names to older nodes only, so that it does not stand below itself. -/

namespace ModuleGraph

namespace Graph

variable {g g' : Graph} {r : Ref} {t : Table Text Ref}

def Has (g : Graph) (r : Ref) : Prop := ∀ id, r = .node id → id < g.size

def Tops (g : Graph) (r : Ref) : Prop :=
  ∃ top < g.size, r = .node top ∧ ∀ name id, (name, .node id) ∈ g.members top → id < top

theorem Has.mono (h : g.Has r) (hsize : g.size ≤ g'.size) : g'.Has r :=
  fun id hid => (h id hid).trans_le hsize

theorem Tops.has (h : g.Tops r) : g.Has r := by
  obtain ⟨top, htop, rfl, -⟩ := h
  rintro _ ⟨⟩
  exact htop

theorem has_list (g : Graph) (items : List Text) : g.Has (.list items) := by
  rintro id ⟨⟩

theorem Keyed.add (h : g.Keyed) (ht : t.keys.Nodup) : (g.add t).1.Keyed := by
  intro id
  rcases lt_trichotomy id g.size with hid | rfl | hid
  · rw [members_add_old g t hid]
    exact h id
  · rw [show g.size = (g.add t).2 from rfl, members_add_new]
    exact ht
  · have hnone : (g.add t).1.size ≤ id := by
      rw [size_add]
      exact hid
    rw [members, List.getElem?_eq_none hnone]
    exact List.nodup_nil

theorem Keyed.extend (h : g.Keyed) (id : NodeId) (more : List (Text × Ref)) :
    (g.extend id more).Keyed := by
  intro other
  rw [members_extend]
  split
  · exact Table.nodup_keys_update (h other) more
  · exact h other

end Graph

theorem Visited.eq_put_of_finish {v v' : Visited Ref} {file : Path} {r : Ref}
    (h : v.finish file r = .ok v') : v' = v.put file .done r := by
  rw [finish] at h
  split at h
  · exact (Except.ok.inj h).symm
  · cases h

namespace Walk

variable {α β : Type} {c : Collaborators} {shape : Shape} {s s' : State}

structure State.Built (s : State) : Prop where
  keyed : s.graph.Keyed
  has : ∀ m ∈ s.visited.results, s.graph.Has m.2

/-- A part of a walk that went from a state, also if it broke off: the state that it left is built
as it should be, the nodes are all there still, and a value is good for them. -/
structure Went (s : State) (out : Except Fault α × State) (Good : Graph → α → Prop) : Prop where
  built : out.2.Built
  size : s.graph.size ≤ out.2.graph.size
  good : ∀ a, out.1 = .ok a → Good out.2.graph a

namespace Went

variable {Good : Graph → α → Prop} {Better : Graph → β → Prop}

theorem bind {x : Walk α} {f : α → Walk β} (hx : Went s (x s) Good)
    (hf : ∀ a s', s'.Built → s.graph.size ≤ s'.graph.size → Good s'.graph a →
      Went s' (f a s') Better) : Went s ((x >>= f) s) Better := by
  obtain ⟨hbuilt, hsize, hgood⟩ := hx
  rw [bind_apply]
  cases hout : x s with
  | mk result s' =>
    rw [hout] at hbuilt hsize hgood
    cases result with
    | error e => exact ⟨hbuilt, hsize, fun a ha => (by cases ha)⟩
    | ok a =>
      obtain ⟨hbuilt', hsize', hgood'⟩ := hf a s' hbuilt hsize (hgood a rfl)
      exact ⟨hbuilt', hsize.trans hsize', hgood'⟩

theorem pure (hs : s.Built) {a : α} (h : Good s.graph a) : Went s ((pure a : Walk α) s) Good :=
  ⟨hs, le_rfl, fun _ ha => Except.ok.inj ha ▸ h⟩

theorem fail (hs : s.Built) (e : Fault) : Went s ((fail e : Walk α) s) Good :=
  ⟨hs, le_rfl, fun _ ha => (by cases ha)⟩

theorem modify {f : State → State} (hs : (f s).Built) (hsize : (f s).graph.size = s.graph.size) :
    Went s (modify f s) fun _ _ => True :=
  ⟨hs, hsize.ge, fun _ _ => trivial⟩

theorem bindIf {p : Prop} [Decidable p] {x : Walk Unit} {f : Unit → Walk β} (hs : s.Built)
    (hx : Went s (x s) fun _ _ => True)
    (hf : ∀ s', s'.Built → s.graph.size ≤ s'.graph.size → Went s' (f () s') Better) :
    Went s ((if p then x >>= f else f ()) s) Better := by
  split
  · exact hx.bind fun _ s' hs' hsize _ => hf s' hs' hsize
  · exact hf s hs le_rfl

theorem get (hs : s.Built) : Went s (get s) fun _ a => a = s :=
  ⟨hs, le_rfl, fun _ ha => (Except.ok.inj ha).symm⟩

theorem imp {out : Except Fault α × State} {Good' : Graph → α → Prop} (h : Went s out Good)
    (himp : ∀ g a, Good g a → Good' g a) : Went s out Good' :=
  ⟨h.built, h.size, fun a ha => himp _ a (h.good a ha)⟩

theorem build {f : Graph → Graph × Ref} {Good : Graph → Ref → Prop} (hs : s.Built)
    (hkeyed : (f s.graph).1.Keyed) (hsize : s.graph.size ≤ (f s.graph).1.size)
    (hr : Good (f s.graph).1 (f s.graph).2) : Went s (build f s) Good :=
  ⟨⟨hkeyed, fun m hm => (hs.has m hm).mono hsize⟩, hsize, fun _ ha => Except.ok.inj ha ▸ hr⟩

theorem onVisited {f : Visited Ref → Except Visited.Fault (Visited Ref)} (hs : s.Built)
    (hf : ∀ v, f s.visited = .ok v → ∀ m ∈ v.results, s.graph.Has m.2) :
    Went s (onVisited f s) fun _ _ => True := by
  rw [onVisited_apply]
  cases hv : f s.visited with
  | error e => exact .fail hs _
  | ok v => exact ⟨⟨hs.keyed, hf v hv⟩, le_rfl, fun _ _ => trivial⟩

end Went

theorem State.Built.put (hs : s.Built) {r : Ref} (hr : s.graph.Has r) (file : Path)
    (stage : Stage) : ∀ m ∈ (s.visited.put file stage r).results, s.graph.Has m.2 := by
  intro m hm
  rw [Visited.results_put] at hm
  rcases Table.mem_set hm with rfl | hm
  · exact hr
  · exact hs.has m hm

theorem State.Built.revise (hs : s.Built) {r : Ref} (hr : s.graph.Has r) (file : Path) :
    ∀ m ∈ (s.visited.revise file r).results, s.graph.Has m.2 := by
  rw [Visited.revise]
  split
  · exact hs.put hr file .done
  · exact hs.has

theorem went_add (t : Table Path Ref) (hs : s.Built) (hnames : t.keys.Nodup)
    (ht : ∀ m ∈ t, s.graph.Has m.2) :
    Went s (build (fun g => let (g, id) := g.add t; (g, .node id)) s) Graph.Tops := by
  have hkeyed := hs.keyed.add hnames
  have hsize := Graph.size_add s.graph t
  have hle : s.graph.size ≤ (s.graph.add t).1.size := by omega
  refine ⟨⟨hkeyed, fun m hm => (hs.has m hm).mono hle⟩, hle, ?_⟩
  rintro _ ⟨⟩
  refine ⟨_, Graph.add_lt_size _ _, rfl, fun name id hid => ?_⟩
  rw [build_apply, Graph.members_add_new] at hid
  exact ht _ hid id rfl

theorem went_empty (shape : Shape) (hs : s.Built) :
    Went s (build shape.empty s) fun g r => g.Has r ∧ (shape = .tree → g.Tops r) := by
  cases shape with
  | list => exact .build hs hs.keyed le_rfl ⟨s.graph.has_list [], nofun⟩
  | tree => exact (went_add [] hs List.nodup_nil (by simp)).imp fun g r h => ⟨h.has, fun _ => h⟩

theorem went_finalize (shape : Shape) (entry : Path) {r : Ref} (hs : s.Built)
    (hr : s.graph.Has r) :
    Went s (build (fun g => shape.finalize g entry r) s) fun g r => shape = .tree → g.Tops r := by
  cases shape with
  | list => exact .build hs hs.keyed le_rfl nofun
  | tree =>
    refine (went_add [(entry, r)] hs (List.nodup_singleton _) fun m hm => ?_).imp fun g r h _ => h
    rwa [List.mem_singleton.mp hm]

theorem went_assemble (shape : Shape) (file : Path) (deps : List (Path × Ref)) {provisional : Ref}
    (hs : s.Built) (hprovisional : s.graph.Has provisional) :
    Went s (build (fun g => shape.assemble g file deps provisional) s) Graph.Has := by
  cases shape with
  | list => exact .build hs hs.keyed le_rfl (s.graph.has_list _)
  | tree =>
    cases provisional with
    | list items => exact .build hs hs.keyed le_rfl hprovisional
    | node id =>
      have hsize := Graph.size_extend s.graph id deps
      exact .build hs (hs.keyed.extend id deps) hsize.ge (hprovisional.mono hsize.ge)

theorem went_enter (c : Collaborators) (shape : Shape) {file : Path} (hs : s.Built)
    (hstage : s.visited.stage file = .unseen) :
    Went s (enter c shape file s) fun g entered => g.Has entered.1 := by
  obtain ⟨hbuilt, hsize, hgood⟩ := went_empty shape hs
  have hprovisional : (shape.empty s.graph).1.Has (s.provisional shape) := (hgood _ rfl).1
  rcases enter_apply shape c.decides_decided hstage with
    ⟨notes, henter⟩ | ⟨-, reason, judged, notes, henter⟩
  · rw [henter]
    refine ⟨⟨hbuilt.keyed, hbuilt.put hprovisional file .inProgress⟩, hsize, ?_⟩
    rintro _ ⟨⟩
    exact hprovisional
  · rw [henter]
    exact ⟨⟨hbuilt.keyed, hbuilt.put hprovisional file .inProgress⟩, hsize, fun _ h => by cases h⟩

theorem went_complete (shape : Shape) (file : Path) (deps : List (Path × Ref)) {provisional : Ref}
    (hs : s.Built) (hprovisional : s.graph.Has provisional) :
    Went s (complete shape file deps provisional s) Graph.Has := by
  unfold complete
  refine (went_assemble shape file deps hs hprovisional).bind fun r s₁ hs₁ _ hr => ?_
  refine (Went.modify (f := fun s => { s with
    visited := s.visited.revise file r
    dependencies := s.dependencies.set file (deps.map (·.1)) })
    ⟨hs₁.keyed, hs₁.revise hr file⟩ rfl).bind fun _ s₂ hs₂ hsize₂ _ => ?_
  refine (Went.get hs₂).bind fun s s₃ hs₃ hsize₃ _ => ?_
  have hr₃ := hr.mono (hsize₂.trans hsize₃)
  have hend : ∀ s₄ : State, s₄.Built → s₃.graph.size ≤ s₄.graph.size → True →
      Went s₄ ((modify (fun s => { s with completed := s.completed ++ [file] }) >>= fun _ =>
        pure r : Walk Ref) s₄) Graph.Has := fun s₄ hs₄ hsize₄ _ =>
    (Went.modify (f := fun s => { s with completed := s.completed ++ [file] }) ⟨hs₄.keyed, hs₄.has⟩
      rfl).bind fun _ s₅ hs₅ hsize₅ _ => .pure hs₅ (hr₃.mono (hsize₄.trans hsize₅))
  split
  · exact (Went.modify (f := fun s => { s with pending := s.pending ++ [file] })
      ⟨hs₃.keyed, hs₃.has⟩ rfl).bind fun _ => hend
  · refine (Went.onVisited hs₃ fun v hv => ?_).bind fun _ => hend
    rw [Visited.eq_put_of_finish hv]
    exact hs₃.put hr₃ file .done

theorem went_forEach {walk : Path → Walk Ref}
    (hwalk : ∀ path s, s.Built → Went s (walk path s) Graph.Has) (paths : List Path)
    (hs : s.Built) :
    Went s (forEach (fun d => do return (d, ← walk d)) paths s) fun _ _ => True := by
  induction paths generalizing s with
  | nil => exact .pure hs trivial
  | cons path rest ih =>
    have hone : ∀ s : State, s.Built →
        Went s ((do return (path, ← walk path) : Walk (Path × Ref)) s) fun _ _ => True :=
      fun s hs => (hwalk path s hs).bind fun r s₁ hs₁ _ _ => .pure hs₁ trivial
    exact (hone s hs).bind fun _ s₁ hs₁ _ _ =>
      (ih hs₁).bind fun _ s₂ hs₂ _ _ => .pure hs₂ trivial

theorem went_traverse (c : Collaborators) (shape : Shape) (depth : ℕ) (path : Path)
    (hs : s.Built) : Went s (traverse c shape depth path s) Graph.Has := by
  induction depth generalizing path s with
  | zero => exact .fail hs _
  | succ depth ih =>
    by_cases hpresent : c.isPresent (c.canonical path)
    · by_cases hstage : s.visited.stage (c.canonical path) = .unseen
      · rw [traverse_of_unseen shape rfl hpresent hstage]
        refine (went_enter c shape hs hstage).bind fun entered s₁ hs₁ _ hprovisional => ?_
        refine (went_forEach (fun path s hs => ih path hs) entered.2 hs₁).bind
          fun results s₂ hs₂ hsize₂ _ => ?_
        exact went_complete shape _ results hs₂ (hprovisional.mono hsize₂)
      · simp only [traverse, hpresent, Bool.not_true, Bool.false_eq_true, if_false, bind_apply,
          get_apply, ne_eq, hstage, not_false_eq_true, if_true, note_apply, Visited.lookup]
        cases hresult : s.visited.result (c.canonical path) with
        | error e => exact ⟨⟨hs.keyed, hs.has⟩, le_rfl, fun _ ha => by cases ha⟩
        | ok r =>
          have hgood : s.graph.Has r :=
            hs.has _ (Table.mem_of_get? (Visited.result_eq_ok_iff.mp hresult))
          exact ⟨⟨hs.keyed, hs.has⟩, le_rfl, fun _ ha => Except.ok.inj ha ▸ hgood⟩
    · simp only [traverse, hpresent, Bool.not_false, if_true]
      exact (went_empty shape hs).imp fun g r h => h.1

theorem went_renew (shape : Shape) (file : Path) (hs : s.Built) :
    Went s (renew shape file s) fun _ _ => True := by
  unfold renew
  refine (Went.get hs).bind fun s' s₁ hs₁ _ _ => .onVisited hs₁ fun v hv => ?_
  cases shape with
  | tree =>
    obtain rfl := Except.ok.inj hv
    exact hs₁.has
  | list =>
    simp only [Shape.renew, bind, Except.bind, pure, Except.pure] at hv
    split at hv
    · cases hv
    · obtain rfl := Except.ok.inj hv
      exact hs₁.revise (s₁.graph.has_list _) file

theorem went_release (file : Path) (hs : s.Built) :
    Went s (release file s) fun _ _ => True := by
  refine .onVisited hs fun v hv => ?_
  cases hr : s.visited.result file with
  | error e => simp only [hr, bind, Except.bind] at hv; cases hv
  | ok r =>
    simp only [hr, bind, Except.bind] at hv
    rw [Visited.eq_put_of_finish hv]
    exact hs.put (hs.has _ (Table.mem_of_get? (Visited.result_eq_ok_iff.mp hr))) file .done

theorem went_each {step : Path → Walk Unit}
    (hstep : ∀ file s, s.Built → Went s (step file s) fun _ _ => True) (files : List Path)
    (hs : s.Built) : Went s (forEach step files s) fun _ _ => True := by
  induction files generalizing s with
  | nil => exact .pure hs trivial
  | cons file rest ih =>
    exact (hstep file s hs).bind fun _ s₁ hs₁ _ _ =>
      (ih hs₁).bind fun _ s₂ hs₂ _ _ => .pure hs₂ trivial

theorem went_settlePending (shape : Shape) (entry : Path) (hs : s.Built) :
    Went s (settlePending shape entry s) fun _ _ => True := by
  unfold settlePending
  refine (Went.get hs).bind fun s' s₁ hs₁ _ _ => ?_
  refine (Went.modify ⟨hs₁.keyed, hs₁.has⟩ rfl).bind fun _ s₂ hs₂ _ _ => ?_
  refine (went_each (fun file s => went_renew shape file) _ hs₂).bind fun _ s₃ hs₃ _ _ => ?_
  refine (went_each (fun file s => went_release file) _ hs₃).bind fun _ s₄ hs₄ _ _ => ?_
  exact .modify ⟨hs₄.keyed, hs₄.has⟩ rfl

/-- A run from any state that is built as it should be. In tree form its result is a node at the
top. -/
theorem went_run (c : Collaborators) (shape : Shape) (entry : Path) (hs : s.Built) :
    Went s (run c shape entry s) fun g r => shape = .tree → g.Tops r := by
  unfold run
  refine (Went.modify ⟨hs.keyed, hs.has⟩ rfl).bind fun _ s₁ hs₁ _ _ => ?_
  split
  · refine (Went.modify ⟨hs₁.keyed, hs₁.has⟩ rfl).bind fun _ s₂ hs₂ _ _ => ?_
    refine (Went.modify ⟨hs₂.keyed, hs₂.has⟩ rfl).bind fun _ s₃ hs₃ _ _ => ?_
    exact (went_empty shape hs₃).imp fun g r h => h.2
  · refine (went_traverse c shape c.depth entry hs₁).bind fun r s₂ hs₂ _ hr => ?_
    refine (Went.get hs₂).bind fun _ s₃ hs₃ hsize₃ _ => ?_
    refine .bindIf hs₃ (went_settlePending shape entry hs₃) fun s₄ hs₄ hsize₄ => ?_
    refine (Went.modify ⟨hs₄.keyed, hs₄.has⟩ rfl).bind fun _ s₅ hs₅ hsize₅ _ => ?_
    refine (Went.get hs₅).bind fun _ s₆ hs₆ hsize₆ _ => ?_
    refine (Went.modify ⟨hs₆.keyed, hs₆.has⟩ rfl).bind fun _ s₇ hs₇ hsize₇ _ => ?_
    refine (Went.get hs₇).bind fun _ s₈ hs₈ hsize₈ _ => ?_
    refine (Went.modify ⟨hs₈.keyed, hs₈.has⟩ rfl).bind fun _ s₉ hs₉ hsize₉ _ => ?_
    exact went_finalize shape entry hs₉ (hr.mono (by omega))

/-- A cache whose nodes map each name once and whose results are lists or nodes that it has. What
the nodes map may be shared, and go round in circles. -/
structure Cache.Built (cache : Cache) : Prop where
  keyed : cache.graph.Keyed
  has : ∀ m ∈ cache.results, cache.graph.Has m.2

variable {w : World} {o : Options} {cache : Cache} {unresolved : List Text} {y : Outcome}

theorem built_of_call (hcache : cache.Built) (hy : perform w o cache unresolved = .ok y) :
    y.cache.Built ∧ (o.shape = .tree → ∀ r, y.result = .ok r → y.state.graph.Tops r) := by
  cases hoptions : Context.ofOptions w o with
  | error e =>
    rw [perform_of_rejected hoptions] at hy
    cases hy
  | ok x =>
    obtain ⟨s, hbegins, -, hperform⟩ := perform_eq hoptions cache unresolved
    have hs : s.Built := by
      refine ⟨hbegins.graph ▸ hcache.keyed, ?_⟩
      rw [hbegins.results, hbegins.graph]
      exact hcache.has
    obtain ⟨hbuilt, -, hgood⟩ := went_run x.collaborators x.shape x.filename hs
    obtain rfl := Except.ok.inj (hperform.symm.trans hy)
    refine ⟨⟨hbuilt.keyed, hbuilt.has⟩, fun htree r hr => ?_⟩
    exact hgood r hr ((Context.fits hoptions).shape.trans htree)

end Walk
end ModuleGraph
