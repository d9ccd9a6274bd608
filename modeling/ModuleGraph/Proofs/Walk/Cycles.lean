import ModuleGraph.Proofs.Walk.Perform
import ModuleGraph.Proofs.Walk.Trace

/-! Which files are held back. A walk asks of a file no more than whether one of its dependencies is
in progress; that one then leads to a cycle, and so does the file. The other way round, a file that
leads to a cycle has a dependency that does, and it is still in progress when the file is complete.
-/

namespace ModuleGraph.Walk

open Relation

variable {c : Collaborators} {shape : Shape} {s s₁ s' : State} {file path : Path}
  {paths rest stack : List Path} {results : List Ref} {files : Set Path}

namespace Collaborators

variable (c : Collaborators) (files : Set Path)

def EdgeFrom (u v : Path) : Prop := u ∈ files ∧ c.Edge u v

/-- The file leads to a cycle, on a way that does not leave the `files`. -/
def Cyclic (file : Path) : Prop :=
  ∃ g, ReflTransGen (c.EdgeFrom files) file g ∧ TransGen (c.EdgeFrom files) g g

variable {c files}

theorem edgeFrom_iff {u v : Path} : c.EdgeFrom files u v ↔ u ∈ files ∧ v ∈ c.dependencies u := by
  rw [EdgeFrom, mem_dependencies_iff_edge]

theorem Cyclic.of_edge {u v : Path} (h : c.EdgeFrom files u v) (hv : c.Cyclic files v) :
    c.Cyclic files u := by
  obtain ⟨g, hto, hloop⟩ := hv
  exact ⟨g, .head h hto, hloop⟩

theorem Cyclic.of_loop (h : TransGen (c.EdgeFrom files) file file) : c.Cyclic files file :=
  ⟨file, .refl, h⟩

theorem Cyclic.next (h : c.Cyclic files file) :
    ∃ v, c.EdgeFrom files file v ∧ c.Cyclic files v := by
  obtain ⟨g, hto, hloop⟩ := h
  rcases hto.cases_head with rfl | ⟨v, hedge, hto⟩
  · obtain ⟨v, hedge, hback⟩ := TransGen.head'_iff.mp hloop
    exact ⟨v, hedge, file, hback, hloop⟩
  · exact ⟨v, hedge, g, hto, hloop⟩

theorem Cyclic.mem (h : c.Cyclic files file) : file ∈ files := by
  obtain ⟨v, hedge, -⟩ := h.next
  exact hedge.1

theorem decided_edgeFrom : c.decided.EdgeFrom files = c.EdgeFrom files := by
  funext u v
  rw [EdgeFrom, EdgeFrom, decided_edge]

theorem decided_cyclic : c.decided.Cyclic files = c.Cyclic files := by
  funext f
  rw [Cyclic, Cyclic, decided_edgeFrom]

theorem reaches_within {inner : Set Path}
    (hclosed : ∀ u ∈ inner, ∀ v ∈ files, c.Edge u v → v ∈ inner)
    {u v : Path} (hu : u ∈ inner) (h : ReflTransGen (c.EdgeFrom files) u v) (hv : v ∈ files) :
    v ∈ inner ∧ ReflTransGen (c.EdgeFrom inner) u v := by
  induction h with
  | refl => exact ⟨hu, .refl⟩
  | tail _ hedge ih =>
    obtain ⟨hmem, hto⟩ := ih hedge.1
    exact ⟨hclosed _ hmem _ hv hedge.2, hto.tail ⟨hmem, hedge.2⟩⟩

theorem cyclic_iff_of_closed {inner : Set Path} (hsub : inner ⊆ files)
    (hclosed : ∀ u ∈ inner, ∀ v ∈ files, c.Edge u v → v ∈ inner) (hfile : file ∈ inner) :
    c.Cyclic files file ↔ c.Cyclic inner file := by
  have hmono : ∀ u v, c.EdgeFrom inner u v → c.EdgeFrom files u v :=
    fun u v h => ⟨hsub h.1, h.2⟩
  constructor
  · rintro ⟨g, hto, hloop⟩
    obtain ⟨u, hback, hedge⟩ := TransGen.tail'_iff.mp hloop
    have hg : g ∈ files := by
      obtain ⟨v, hfirst, -⟩ := TransGen.head'_iff.mp hloop
      exact hfirst.1
    obtain ⟨hg', hto'⟩ := reaches_within hclosed hfile hto hg
    obtain ⟨hu, hback'⟩ := reaches_within hclosed hg' hback hedge.1
    exact ⟨g, hto', .tail' hback' ⟨hu, hedge.2⟩⟩
  · rintro ⟨g, hto, hloop⟩
    exact ⟨g, ReflTransGen.mono hmono _ _ hto, TransGen.mono hmono _ _ hloop⟩

end Collaborators

/-- The files in progress lead to a cycle, or to all files that are walked next. -/
def State.Underway (c : Collaborators) (files : Set Path) (paths : List Path) (s : State) : Prop :=
  ∀ f, s.visited.stage f = .inProgress → f ∈ files ∧
    (c.Cyclic files f ∨ ∀ p ∈ paths, TransGen (c.EdgeFrom files) f p)

def Holds (c : Collaborators) (files : Set Path) (s s' : State) : Prop :=
  ∀ f, s'.visited.stage f = .inProgress → s.visited.stage f = .inProgress ∨ c.Cyclic files f

namespace State.Underway

theorem holds (hs : s.Underway c files paths) (h : Holds c files s s') :
    s'.Underway c files paths := by
  intro f hf
  rcases h f hf with hold | hcyclic
  · exact hs f hold
  · exact ⟨hcyclic.mem, Or.inl hcyclic⟩

theorem mono (hs : s.Underway c files paths) (hrest : ∀ p ∈ rest, p ∈ paths) :
    s.Underway c files rest := by
  intro f hf
  obtain ⟨hmem, hleads⟩ := hs f hf
  exact ⟨hmem, hleads.imp_right fun h p hp => h p (hrest p hp)⟩

theorem entered (shape : Shape) (hs : s.Underway c files (path :: rest)) (hfile : path ∈ files)
    (notes : List Log.Record) :
    (s.entered c shape path notes).Underway c files (c.dependencies path) := by
  have hedge : ∀ d ∈ c.dependencies path, c.EdgeFrom files path d :=
    fun d hd => Collaborators.edgeFrom_iff.mpr ⟨hfile, hd⟩
  intro f hf
  by_cases hff : f = path
  · subst hff
    exact ⟨hfile, Or.inr fun d hd => .single (hedge d hd)⟩
  · rw [State.entered_stage, if_neg hff] at hf
    obtain ⟨hmem, hleads⟩ := hs f hf
    exact ⟨hmem, hleads.imp_right fun h d hd => (h path List.mem_cons_self).tail (hedge d hd)⟩

/-- Below a file, a dependency in progress leads to a cycle: it has been held back, or it leads back
to the file. -/
theorem cyclic_of_open (hs : s.Underway c files (c.dependencies file)) {d : Path}
    (hd : d ∈ c.dependencies file) (hopen : s.visited.stage d = .inProgress) :
    c.Cyclic files d := by
  obtain ⟨-, hcyclic | hleads⟩ := hs d hopen
  · exact hcyclic
  · exact .of_loop (hleads d hd)

end State.Underway

theorem Walked.holds (h : Walked c shape s paths results s') (hfiles : ∀ f, f ∉ files → f ∈ s.seen)
    (hs : s.Underway c files paths) : Holds c files s s' := by
  induction h with
  | done => exact fun f hf => Or.inl hf
  | known notes _ _ _ ih => exact ih hfiles (hs.mono fun p => List.mem_cons_of_mem _)
  | @fresh s s₁ s' path rest below results notes unseen inner others ih₁ ih₂ =>
    have hfile : path ∈ files := by
      by_contra hout
      exact hfiles _ hout unseen
    have hbegun := hs.entered shape hfile notes
    have hbelow := ih₁ (fun f hf => by rw [State.seen_entered]; exact Or.inr (hfiles f hf)) hbegun
    have hopen := hbegun.holds hbelow
    have hleft : Holds c files s (s₁.left shape path
        ((c.dependencies path).zip below) (s.provisional shape)) := by
      intro f hf
      rw [State.left_stage, inner.zip_map_fst] at hf
      by_cases hff : f = path
      · subst hff
        rw [if_pos rfl] at hf
        split at hf
        · next hany =>
          -- held back for an open dependency: it leads back to the file or to a file held back
          obtain ⟨d, hd, hdopen⟩ := List.any_eq_true.mp hany
          exact Or.inr (.of_edge (Collaborators.edgeFrom_iff.mpr ⟨hfile, hd⟩)
            (hopen.cyclic_of_open hd (of_decide_eq_true hdopen)))
        · cases hf
      · rw [if_neg hff] at hf
        have hold := hbelow f hf
        rwa [State.entered_stage, if_neg hff] at hold
    have hbeside := ih₂ (fun f hf => inner.seen_subset_left _ _ (hfiles f hf))
      ((hs.holds hleft).mono fun p => List.mem_cons_of_mem _)
    intro f hf
    rcases hbeside f hf with hf | hcyclic
    · exact hleft f hf
    · exact Or.inr hcyclic

/-- What is kept when a file is begun and when one is completed. It says something of the results
and of the nodes only. -/
structure Carried (c : Collaborators) (shape : Shape) (files : Set Path) (Good : State → Prop) :
    Prop where
  same : ∀ s s', s'.graph = s.graph → s'.visited = s.visited → Good s → Good s'
  entered : ∀ s file notes, s.visited.stage file = .unseen → Good s →
    Good (s.entered c shape file notes)
  left : ∀ start s file below r, Walked c shape start (c.dependencies file) below s →
    file ∈ files → s.Underway c files (c.dependencies file) →
    s.visited.stage file = .inProgress → Good s →
    Good (s.left shape file ((c.dependencies file).zip below) r)

namespace Carried

variable {Good : State → Prop}

theorem walked (hgood : Carried c shape files Good) (h : Walked c shape s paths results s')
    (hfiles : ∀ f, f ∉ files → f ∈ s.seen) (hs : s.Underway c files paths)
    (hstart : Good s) : Good s' := by
  induction h with
  | done => exact hstart
  | @known s _ _ _ _ _ notes _ _ _ ih =>
    exact ih hfiles (hs.mono fun p => List.mem_cons_of_mem _) (hgood.same s _ rfl rfl hstart)
  | @fresh s s₁ s' path rest below results notes unseen inner others ih₁ ih₂ =>
    have hfile : path ∈ files := by
      by_contra hout
      exact hfiles _ hout unseen
    have hbegun := hs.entered shape hfile notes
    have hseen : ∀ f, f ∉ files → f ∈ (s.entered c shape path notes).seen := by
      intro f hf
      rw [State.seen_entered]
      exact Or.inr (hfiles f hf)
    have hopen := hbegun.holds (inner.holds hseen hbegun)
    have hbelow := ih₁ hseen hbegun (hgood.entered s _ notes unseen hstart)
    have hone := hgood.left _ s₁ _ below (s.provisional shape) inner hfile hopen
      inner.open_entered hbelow
    have hfresh := Walked.fresh notes unseen inner (.done _)
    have hholds := hfresh.holds hfiles
      (hs.mono fun p hp => List.mem_singleton.mp hp ▸ List.mem_cons_self)
    exact ih₂ (fun f hf => inner.seen_subset_left _ _ (hfiles f hf))
      ((hs.holds hholds).mono fun p => List.mem_cons_of_mem _) hone

theorem partway (hgood : Carried c shape files Good) (h : Partway c shape s paths stack s')
    (hfiles : ∀ f, f ∉ files → f ∈ s.seen) (hs : s.Underway c files paths)
    (hstart : Good s) : Good s' := by
  induction h with
  | @here s s₁ before after results judged walked =>
    have hwalked := hgood.walked walked hfiles (hs.mono fun p => List.mem_append_left _) hstart
    exact hgood.same s₁ _ rfl rfl hwalked
  | @within s s₁ s' path before after stack results notes walked unseen inner ih =>
    have hunderway : s.Underway c files before := hs.mono fun p => List.mem_append_left _
    have hseen : ∀ f, f ∉ files → f ∈ s₁.seen := fun f hf => walked.seen_subset (hfiles f hf)
    have hfile : path ∈ files := by
      by_contra hout
      exact hseen _ hout unseen
    have hhere : s₁.Underway c files (path :: after) :=
      (hs.holds (walked.holds hfiles hunderway)).mono fun p => List.mem_append_right _
    refine ih (fun f hf => ?_) (hhere.entered shape hfile notes)
      (hgood.entered s₁ _ notes unseen ?_)
    · rw [State.seen_entered]
      exact Or.inr (hseen f hf)
    · exact hgood.walked walked hfiles hunderway hstart

end Carried

/-- A file that is done leads to no cycle, and what it needs is done. -/
def State.Closes (c : Collaborators) (files : Set Path) (s : State) : Prop :=
  ∀ f ∈ files, s.visited.stage f = .done →
    ¬ c.Cyclic files f ∧ ∀ d ∈ c.dependencies f, s.visited.stage d = .done

theorem State.Closes.entered (shape : Shape) (hs : s.Closes c files)
    (hfile : s.visited.stage file = .unseen) (notes : List Log.Record) :
    (s.entered c shape file notes).Closes c files := by
  intro f hmem hdone
  rw [State.entered_stage] at hdone
  split at hdone
  · cases hdone
  · obtain ⟨hcyclic, hdeps⟩ := hs f hmem hdone
    refine ⟨hcyclic, fun d hd => ?_⟩
    have hne : d ≠ file := by
      rintro rfl
      rw [hdeps d hd] at hfile
      cases hfile
    rw [State.entered_stage, if_neg hne, hdeps d hd]

theorem Walked.closed_left {start : State} {below : List Ref}
    (h : Walked c shape start (c.dependencies file) below s) (hfile : file ∈ files)
    (hopen : s.Underway c files (c.dependencies file)) (hself : s.visited.stage file = .inProgress)
    (hcloses : s.Closes c files) (r : Ref) :
    (s.left shape file ((c.dependencies file).zip below) r).Closes c files := by
  intro f hmem hdone
  have hkept : ∀ d, s.visited.stage d = .done →
      (s.left shape file ((c.dependencies file).zip below) r).visited.stage d = .done := by
    intro d hd
    have hne : d ≠ file := by
      rintro rfl
      rw [hself] at hd
      cases hd
    rw [State.left_stage, if_neg hne, hd]
  rw [State.left_stage, h.zip_map_fst] at hdone
  by_cases hff : f = file
  · subst hff
    rw [if_pos rfl] at hdone
    have hdeps : ∀ d ∈ c.dependencies f, s.visited.stage d = .done := by
      intro d hd
      cases hstage : s.visited.stage d with
      | unseen => exact absurd hstage (h.seen_of_mem hd)
      | inProgress =>
        have hany : s.anyOpen (c.dependencies f) = true :=
          List.any_eq_true.mpr ⟨d, hd, decide_eq_true hstage⟩
        rw [if_pos hany] at hdone
        cases hdone
      | done => rfl
    refine ⟨fun hcyclic => ?_, fun d hd => hkept d (hdeps d hd)⟩
    -- a dependency on the way to the cycle would, by the invariant, not be done
    obtain ⟨d, hedge, hdcyclic⟩ := hcyclic.next
    have hd := hdeps d (Collaborators.edgeFrom_iff.mp hedge).2
    exact (hcloses d hdcyclic.mem hd).1 hdcyclic
  · rw [if_neg hff] at hdone
    obtain ⟨hacyclic, hdeps⟩ := hcloses f hmem hdone
    exact ⟨hacyclic, fun d hd => hkept _ (hdeps d hd)⟩

theorem carried_closes (c : Collaborators) (shape : Shape) (files : Set Path) :
    Carried c shape files (State.Closes c files) where
  same s s' _ hvisited hs := by
    rw [State.Closes, hvisited]
    exact hs
  entered s file notes hunseen hs := hs.entered shape hunseen notes
  left start s file below r hwalked hfile hopen hself hs :=
    hwalked.closed_left hfile hopen hself hs r

theorem Partway.closes (h : Partway c shape s paths stack s')
    (hfiles : ∀ f, f ∉ files → f ∈ s.seen) (hs : s.Underway c files paths)
    (hcloses : s.Closes c files) : s'.Closes c files :=
  (carried_closes c shape files).partway h hfiles hs hcloses

namespace Cache.Begins

variable {cache : Cache} (hs : cache.Begins s)
include hs

theorem mem_seen {f : Path} (hf : f ∉ cache.filesᶜ) : f ∈ s.seen := by
  rw [hs.seen]
  exact Set.notMem_compl_iff.mp hf

theorem not_done {f : Path} (hf : f ∈ cache.filesᶜ) : s.visited.stage f ≠ .done := by
  have hnew : f ∉ cache.results.keys := hf
  rw [hs.stage, if_neg hnew]
  decide

theorem underway (files : Set Path) (paths : List Path) : s.Underway c files paths := by
  intro f hf
  rw [hs.stage] at hf
  split at hf <;> cases hf

theorem closes : s.Closes c cache.filesᶜ :=
  fun _ hmem hdone => absurd hdone (hs.not_done hmem)

end Cache.Begins

end ModuleGraph.Walk
