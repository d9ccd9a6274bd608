import ModuleGraph.Proofs.Walk.Cycles
import ModuleGraph.Proofs.Walk.Growth

/-! What the lists are gathered from. The list of a file is put together from the lists that its
dependencies have when the file is complete. If the file is done then, these are the lists that the
dependencies have for good. -/

namespace ModuleGraph.Walk

variable {c : Collaborators} {cache : Cache} {s s₁ s' : State} {file f : Path}
  {paths : List Path} {results : List Ref} {r : Ref} {files : Set Path}

def Cache.names (cache : Cache) (file : Path) : List Text :=
  ((cache.results.get? file).map cache.graph.namesOf).getD []

def Collaborators.gathered (c : Collaborators) (names : Path → List Text) (file : Path) :
    List Text :=
  let needed := (c.dependencies file).flatMap fun d => names d
  (distinct needed).filter (· ≠ file) ++ [file]

theorem Cache.names_of_get? (h : cache.results.get? file = some r) :
    cache.names file = cache.graph.namesOf r := by
  rw [Cache.names, h]
  rfl

theorem Collaborators.mem_gathered {names : Path → List Text} {a : Text} :
    a ∈ c.gathered names file ↔
      a = file ∨ ∃ d ∈ c.dependencies file, a ∈ names d := by
  simp only [gathered, List.mem_append, List.mem_filter, mem_distinct, List.mem_flatMap,
    List.mem_singleton, decide_eq_true_eq]
  by_cases ha : a = file
  · simp [ha]
  · simp [ha]

theorem Collaborators.gathered_congr {names names' : Path → List Text}
    (h : ∀ d ∈ c.dependencies file, names d = names' d) :
    c.gathered names file = c.gathered names' file := by
  rw [gathered, gathered, List.flatMap_congr h]

theorem State.names_entered (hne : f ≠ file) (notes : List Log.Record) :
    (s.entered c .list file notes).cache.names f = s.cache.names f := by
  simp only [Cache.names, State.cache, State.entered, Visited.results_put, Table.get?_set,
    if_neg hne]
  rfl

theorem State.names_entered_self (notes : List Log.Record) :
    (s.entered c .list file notes).cache.names file = [] := by
  simp only [Cache.names, State.cache, State.entered, Visited.results_put, Table.get?_set, if_true]
  rfl

theorem State.names_left (hne : f ≠ file) (deps : List (Path × Ref)) (r : Ref) :
    (s.left .list file deps r).cache.names f = s.cache.names f := by
  simp only [Cache.names, State.cache, State.left, Visited.results_put, Table.get?_set, if_neg hne]
  rfl

theorem Walked.names_eq (h : Walked c .list s paths results s') (hf : f ∈ s.seen) :
    s'.cache.names f = s.cache.names f := by
  rw [Cache.names, Cache.names, State.cache, State.cache, h.result_eq hf, h.graph_eq]

theorem Walked.listed_eq (h : Walked c .list s paths results s') :
    s'.listed results = paths.flatMap fun p => s'.cache.names p := by
  have hhits := h.hits
  clear h
  induction hhits with
  | nil => rfl
  | cons hhit _ ih =>
    have hnames : s'.cache.names _ = s'.cache.graph.namesOf _ :=
      Cache.names_of_get? hhit.2
    rw [State.listed, List.flatMap_cons, List.flatMap_cons, hnames]
    exact congrArg (_ ++ ·) ih

theorem Walked.assemble_eq (h : Walked c .list s (c.dependencies file) results s') (r : Ref) :
    Shape.list.assemble s'.graph file ((c.dependencies file).zip results) r =
      (s'.graph, .list (c.gathered s'.cache.names file)) := by
  rw [assemble_list h.length_eq, h.listed_eq, Collaborators.gathered]

theorem Walked.get?_left (h : Walked c .list s (c.dependencies file) results s') (r : Ref) :
    (s'.left .list file ((c.dependencies file).zip results) r).visited.results.get? file =
      some (.list (c.gathered s'.cache.names file)) := by
  rw [State.left, Visited.results_put, Table.get?_set, if_pos rfl, h.assemble_eq]

/-- The list of a file that is done is gathered from the lists of its dependencies. -/
def State.Gathers (c : Collaborators) (files : Set Path) (s : State) : Prop :=
  ∀ f ∈ files, s.visited.stage f = .done →
    s.visited.results.get? f = some (.list (c.gathered s.cache.names f))

theorem Cache.Begins.gathers (hs : cache.Begins s) : s.Gathers c cache.filesᶜ :=
  fun _ hmem hdone => absurd hdone (hs.not_done hmem)

theorem carried_gathers (c : Collaborators) (files : Set Path) :
    Carried c .list files fun s => s.Closes c files ∧ s.Gathers c files := by
  have hcloses := carried_closes c .list files
  refine ⟨fun s s' hgraph hvisited hs => ?_, fun s file notes hunseen hs => ?_,
    fun start s file below r hwalked hfile hopen hself hs => ?_⟩
  · refine ⟨hcloses.same s s' hgraph hvisited hs.1, ?_⟩
    rw [State.Gathers, State.cache, hgraph, hvisited]
    exact hs.2
  · refine ⟨hcloses.entered s file notes hunseen hs.1, fun f hmem hdone => ?_⟩
    rw [State.entered_stage] at hdone
    split at hdone
    · cases hdone
    · next hne =>
      have hgathered := hs.2 f hmem hdone
      rw [State.entered, Visited.results_put, Table.get?_set, if_neg hne, hgathered]
      refine congrArg (fun items => some (Ref.list items))
        (Collaborators.gathered_congr fun d hd => ?_)
      refine (State.names_entered (fun h => ?_) notes).symm
      rw [← h, (hs.1 f hmem hdone).2 d hd] at hunseen
      cases hunseen
  · have hclosed := hcloses.left start s file below r hwalked hfile hopen hself hs.1
    refine ⟨hclosed, fun f hmem hdone => ?_⟩
    have hsame : ∀ d ∈ c.dependencies f, d ≠ file := by
      rintro d hd rfl
      by_cases hff : f = d
      · subst hff
        exact (hclosed f hmem hdone).1
          (.of_loop (.single (Collaborators.edgeFrom_iff.mpr ⟨hmem, hd⟩)))
      · rw [State.left_stage, if_neg hff] at hdone
        rw [(hs.1 f hmem hdone).2 d hd] at hself
        cases hself
    have hnames : c.gathered s.cache.names f = c.gathered
        (s.left .list file ((c.dependencies file).zip below) r).cache.names f :=
      Collaborators.gathered_congr fun d hd => (State.names_left (hsame d hd) _ _).symm
    by_cases hff : f = file
    · subst hff
      rw [hwalked.get?_left, hnames]
    · rw [State.left_stage, if_neg hff] at hdone
      rw [← hnames, State.left, Visited.results_put, Table.get?_set, if_neg hff]
      exact hs.2 f hmem hdone

end ModuleGraph.Walk
