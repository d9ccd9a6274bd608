import Mathlib.Data.Finset.Card
import Mathlib.Data.Set.Defs
import ModuleGraph.Proofs.Walk.Step

/-! A walk as a derivation. `Walked` says, case by case, what a walk through some files does to the
state, and whatever holds of walks that end with results is proved by induction on it. -/

namespace ModuleGraph.Walk

variable {c : Collaborators} {shape : Shape} {s s' : State}

namespace State

def provisional (shape : Shape) (s : State) : Ref := (shape.empty s.graph).2

def seen (s : State) : Set Path := {f | s.visited.stage f ≠ .unseen}

/-- The state when a file has been begun and its dependencies have been asked for. -/
def entered (c : Collaborators) (shape : Shape) (file : Path) (notes : List Log.Record)
    (s : State) : State :=
  { s with
    graph := (shape.empty s.graph).1
    visited := s.visited.put file .inProgress (s.provisional shape)
    extracted := s.extracted ++ [file]
    unresolved := s.unresolved ++ c.missing file
    judged := s.judged ++ c.asked file
    notes := notes }

def anyOpen (s : State) (files : List Path) : Bool :=
  files.any fun d => s.visited.stage d = .inProgress

/-- The state when a file has its result. It is done unless one of its dependencies is still in
progress. -/
def left (shape : Shape) (file : Path) (deps : List (Path × Ref)) (provisional : Ref)
    (s : State) : State :=
  let held := s.anyOpen (deps.map (·.1))
  { s with
    graph := (shape.assemble s.graph file deps provisional).1
    visited := s.visited.put file (if held then .inProgress else .done)
      (shape.assemble s.graph file deps provisional).2
    dependencies := s.dependencies.set file (deps.map (·.1))
    pending := if held then s.pending ++ [file] else s.pending
    completed := s.completed ++ [file] }

end State

theorem State.paired_entered (h : s.visited.Paired) {file : Path} (notes : List Log.Record) :
    (s.entered c shape file notes).visited.Paired :=
  h.put (by decide) _

theorem State.paired_left (h : s.visited.Paired) {file : Path} (deps : List (Path × Ref))
    (r : Ref) : (s.left shape file deps r).visited.Paired :=
  h.put (by split <;> decide) _

theorem complete_apply {file : Path} (hpaired : s.visited.Paired)
    (h : s.visited.stage file = .inProgress) (deps : List (Path × Ref)) (provisional : Ref) :
    complete shape file deps provisional s =
      (.ok (shape.assemble s.graph file deps provisional).2,
        s.left shape file deps provisional) := by
  have hstage : ∀ r d, (s.visited.put file .inProgress r).stage d = s.visited.stage d := by
    intro r d
    rw [Visited.stage_put]
    split
    · next hd => rw [hd, h]
    · rfl
  simp only [complete, bind_apply, build_apply, modify_apply, get_apply,
    hpaired.revise_of_inProgress h, hstage, State.left, State.anyOpen]
  by_cases hheld : (deps.map (·.1)).any fun d => s.visited.stage d = .inProgress
  · simp only [hheld, if_true, modify_apply, bind_apply, pure_apply]
  · have hfinish : ∀ r, (s.visited.put file .inProgress r).finish file r =
        .ok (s.visited.put file .done r) := by
      intro r
      rw [Visited.finish_of_inProgress (by rw [hstage, h]), Visited.put_put]
    simp only [hheld, if_false, bind_apply, onVisited_apply, hfinish, modify_apply, pure_apply,
      Bool.false_eq_true]

/-- From one state, a walk through `paths`, one after the other, has the `results` and leaves
another state. -/
inductive Walked (c : Collaborators) (shape : Shape) :
    (s : State) → (paths : List Path) → (results : List Ref) → (s' : State) → Prop where
  | done (s : State) : Walked c shape s [] [] s
  | known {s s' : State} {path : Path} {rest : List Path} {r : Ref} {results : List Ref}
      (notes : List Log.Record)
      (seen : s.visited.stage path ≠ .unseen)
      (hit : s.visited.results.get? path = some r)
      (others : Walked c shape { s with notes := notes } rest results s') :
      Walked c shape s (path :: rest) (r :: results) s'
  | fresh {s s₁ s' : State} {path : Path} {rest : List Path} {below results : List Ref}
      (notes : List Log.Record)
      (unseen : s.visited.stage path = .unseen)
      (inner : Walked c shape (s.entered c shape path notes)
        (c.dependencies path) below s₁)
      (others : Walked c shape
        (s₁.left shape path ((c.dependencies path).zip below)
          (s.provisional shape)) rest results s') :
      Walked c shape s (path :: rest)
        ((shape.assemble s₁.graph path
          ((c.dependencies path).zip below) (s.provisional shape)).2 :: results) s'

namespace Walked

variable {paths : List Path} {results : List Ref}

theorem append {paths' : List Path} {results' : List Ref} {s'' : State}
    (h : Walked c shape s paths results s') (h' : Walked c shape s' paths' results' s'') :
    Walked c shape s (paths ++ paths') (results ++ results') s'' := by
  induction h with
  | done => exact h'
  | known notes seen hit _ ih => exact .known notes seen hit (ih h')
  | fresh notes unseen inner _ _ ih => exact .fresh notes unseen inner (ih h')

theorem length_eq (h : Walked c shape s paths results s') : results.length = paths.length := by
  induction h with
  | done => rfl
  | known _ _ _ _ ih => simp [ih]
  | fresh _ _ _ _ _ ih => simp [ih]

theorem zip_map_fst (h : Walked c shape s paths results s') :
    (paths.zip results).map (·.1) = paths := by
  rw [List.map_fst_zip]
  exact h.length_eq.ge

theorem kept_eq (h : Walked c shape s paths results s') {f : Path}
    (hf : s.visited.stage f ≠ .unseen) : s'.visited.stage f = s.visited.stage f ∧
      s'.visited.results.get? f = s.visited.results.get? f := by
  induction h with
  | done => exact ⟨rfl, rfl⟩
  | known _ _ _ _ ih => exact ih hf
  | @fresh s s₁ s' path rest below results notes unseen _ _ ih₁ ih₂ =>
    have hne : f ≠ path := fun h => hf (h ▸ unseen)
    have hentered : (s.entered c shape path notes).visited.stage f = s.visited.stage f := by
      rw [State.entered, Visited.stage_put, if_neg hne]
    obtain ⟨hstage₁, hresult₁⟩ := ih₁ (hentered ▸ hf)
    have hleft : ∀ deps r, (s₁.left shape path deps r).visited.stage f = s.visited.stage f := by
      intro deps r
      rw [State.left, Visited.stage_put, if_neg hne, hstage₁, hentered]
    obtain ⟨hstage₂, hresult₂⟩ := ih₂ (by rwa [hleft])
    refine ⟨hstage₂.trans (hleft _ _), hresult₂.trans ?_⟩
    rw [State.left, Visited.results_put, Table.get?_set, if_neg hne, hresult₁, State.entered,
      Visited.results_put, Table.get?_set, if_neg hne]

theorem stage_eq (h : Walked c shape s paths results s') {f : Path}
    (hf : s.visited.stage f ≠ .unseen) : s'.visited.stage f = s.visited.stage f :=
  (h.kept_eq hf).1

theorem result_eq (h : Walked c shape s paths results s') {f : Path}
    (hf : s.visited.stage f ≠ .unseen) :
    s'.visited.results.get? f = s.visited.results.get? f :=
  (h.kept_eq hf).2

theorem paired (h : Walked c shape s paths results s') (hs : s.visited.Paired) :
    s'.visited.Paired := by
  induction h with
  | done => exact hs
  | known _ _ _ _ ih => exact ih hs
  | fresh notes _ _ _ ih₁ ih₂ => exact ih₂ (State.paired_left (ih₁ (State.paired_entered hs notes)) _ _)

theorem seen_subset (h : Walked c shape s paths results s') : s.seen ⊆ s'.seen := by
  intro f hf
  rw [State.seen, Set.mem_ofPred_eq, h.stage_eq hf]
  exact hf

theorem hits (h : Walked c shape s paths results s') :
    List.Forall₂ (fun path r => s'.visited.stage path ≠ .unseen ∧
      s'.visited.results.get? path = some r) paths results := by
  induction h with
  | done => exact .nil
  | known notes seen hit others ih =>
    exact .cons ⟨others.stage_eq seen ▸ seen, (others.result_eq seen).trans hit⟩ ih
  | @fresh s s₁ s' path rest below results notes unseen inner others _ ih₂ =>
    have hseen : (s₁.left shape path
        ((c.dependencies path).zip below)
        (s.provisional shape)).visited.stage path ≠ .unseen := by
      rw [State.left, Visited.stage_put, if_pos rfl]
      split <;> decide
    refine .cons ⟨others.stage_eq hseen ▸ hseen, ?_⟩ ih₂
    rw [others.result_eq hseen, State.left, Visited.results_put, Table.get?_set, if_pos rfl]

theorem seen_of_mem (h : Walked c shape s paths results s') {p : Path} (hp : p ∈ paths) :
    s'.visited.stage p ≠ .unseen := by
  have hhits := h.hits
  clear h
  induction hhits with
  | nil => cases hp
  | cons hhit _ ih =>
    rcases List.mem_cons.mp hp with rfl | hp
    · exact hhit.1
    · exact ih hp

end Walked

namespace Collaborators

def Found (c : Collaborators) (path : Path) : Prop := c.isPresent path ∧ c.canonical path = path

def Stable (c : Collaborators) : Prop := ∀ path, c.canonical (c.canonical path) = c.canonical path

/-- The `files` are all that can be walked, and they are fewer than the walk may go down. -/
structure Grounded (c : Collaborators) (files : Finset Path) : Prop where
  stable : c.Stable
  mem : ∀ path, c.Found path → path ∈ files
  card_lt : files.card < c.depth

theorem Stable.found_of_edge (hc : c.Stable) {file d : Path} (h : c.Edge file d) : c.Found d := by
  obtain ⟨specifier, -, path, -, -, rfl, hpresent, -⟩ := h
  exact ⟨hpresent, hc path⟩

theorem Stable.found (hc : c.Stable) {file d : Path} (h : d ∈ c.dependencies file) : c.Found d :=
  hc.found_of_edge (mem_dependencies_iff_edge.mp h)

end Collaborators

def State.unseen (files : Finset Path) (s : State) : Finset Path :=
  files.filter fun f => s.visited.stage f = .unseen

theorem State.entered_stage (file : Path) (notes : List Log.Record) (f : Path) :
    (s.entered c shape file notes).visited.stage f =
      if f = file then .inProgress else s.visited.stage f := by
  rw [State.entered, Visited.stage_put]

theorem Walked.open_entered {file : Path} {notes : List Log.Record} {paths : List Path}
    {results : List Ref} (h : Walked c shape (s.entered c shape file notes) paths results s') :
    s'.visited.stage file = .inProgress := by
  have hbegun : (s.entered c shape file notes).visited.stage file = .inProgress := by
    rw [State.entered_stage, if_pos rfl]
  rw [h.stage_eq (by rw [hbegun]; decide), hbegun]

theorem Walked.result_entered {file : Path} {notes : List Log.Record} {paths : List Path}
    {results : List Ref} (h : Walked c shape (s.entered c shape file notes) paths results s') :
    s'.visited.results.get? file = some (s.provisional shape) := by
  have hseen : (s.entered c shape file notes).visited.stage file ≠ .unseen := by
    rw [State.entered_stage, if_pos rfl]
    decide
  rw [h.result_eq hseen, State.entered, Visited.results_put, Table.get?_set, if_pos rfl]

theorem State.card_unseen_entered (c : Collaborators) (shape : Shape) {files : Finset Path}
    {file : Path} {depth : ℕ} (hfile : file ∈ files) (hstage : s.visited.stage file = .unseen)
    (hcard : (s.unseen files).card < depth + 1) (notes : List Log.Record) :
    ((s.entered c shape file notes).unseen files).card < depth := by
  refine (Finset.card_lt_card ⟨fun f hf => ?_, fun hsub => ?_⟩).trans_le (Nat.lt_succ_iff.mp hcard)
  · rw [State.unseen, Finset.mem_filter, State.entered_stage] at hf
    rw [State.unseen, Finset.mem_filter]
    by_cases hff : f = file
    · simp [hff] at hf
    · rwa [if_neg hff] at hf
  · have hin := hsub (Finset.mem_filter.mpr ⟨hfile, hstage⟩)
    rw [State.unseen, Finset.mem_filter, State.entered_stage, if_pos rfl] at hin
    exact absurd hin.2 (by decide)

theorem Walked.unseen_subset {paths : List Path} {results : List Ref}
    (h : Walked c shape s paths results s') (files : Finset Path) :
    s'.unseen files ⊆ s.unseen files := by
  intro f hf
  rw [State.unseen, Finset.mem_filter] at hf ⊢
  refine ⟨hf.1, ?_⟩
  by_contra hseen
  exact hseen (h.stage_eq hseen ▸ hf.2)

end ModuleGraph.Walk
