import ModuleGraph.Proofs.Walk.Walked

/-! Walks that may break off. As long as the files are finitely many, no step of a walk is refused:
it ends with a result, and has gone as `Walked` says, or the filter breaks it off. It then has come
part of the way: some files have been begun, each below the one before, and whatever was walked
beside them has its results. -/

namespace ModuleGraph.Walk

variable {c c' : Collaborators} {shape : Shape} {s s₁ s' : State} {path : Path}
  {paths rest stack : List Path} {results : List Ref}

/-- From one state, a walk through `paths` has come to another state. The files on the `stack`, the
innermost first, have been begun and are not complete. What the filter has been asked last is left
open. -/
inductive Partway (c : Collaborators) (shape : Shape) :
    (s : State) → (paths stack : List Path) → (s' : State) → Prop where
  | here {s s₁ : State} {before after : List Path} {results : List Ref}
      (judged : List (Path × Path)) (walked : Walked c shape s before results s₁) :
      Partway c shape s (before ++ after) [] { s₁ with judged := judged }
  | within {s s₁ s' : State} {path : Path} {before after stack : List Path} {results : List Ref}
      (notes : List Log.Record) (walked : Walked c shape s before results s₁)
      (unseen : s₁.visited.stage path = .unseen)
      (inner : Partway c shape (s₁.entered c shape path notes) (c.dependencies path) stack s') :
      Partway c shape s (before ++ path :: after) (stack ++ [path]) s'

namespace Partway

theorem start (s : State) (paths : List Path) : Partway c shape s paths [] s :=
  .here s.judged (.done s)

theorem more (h : Partway c shape s paths stack s') (rest : List Path) :
    Partway c shape s (paths ++ rest) stack s' := by
  cases h with
  | here judged walked =>
    rw [List.append_assoc]
    exact .here judged walked
  | within notes walked unseen inner =>
    rw [List.append_assoc, List.cons_append]
    exact .within notes walked unseen inner

theorem after_walked (w : Walked c shape s paths results s₁)
    (h : Partway c shape s₁ rest stack s') : Partway c shape s (paths ++ rest) stack s' := by
  cases h with
  | here judged walked =>
    rw [← List.append_assoc]
    exact .here judged (w.append walked)
  | within notes walked unseen inner =>
    rw [← List.append_assoc]
    exact .within notes (w.append walked) unseen inner

theorem enter (notes : List Log.Record) (unseen : s.visited.stage path = .unseen)
    (h : Partway c shape (s.entered c shape path notes) (c.dependencies path) stack s') :
    Partway c shape s [path] (stack ++ [path]) s' := by
  have hwithin : Partway c shape s ([] ++ path :: []) (stack ++ [path]) s' :=
    .within notes (.done s) unseen h
  exact hwithin

end Partway

theorem Collaborators.Decides.grounded (hc : c.Decides c') {files : Finset Path}
    (h : c.Grounded files) : c'.Grounded files := by
  rw [hc.same]
  exact ⟨h.stable, h.mem, h.card_lt⟩

theorem Collaborators.Decides.found (hc : c.Decides c') (h : c.Found path) : c'.Found path := by
  rw [hc.same]
  exact h

def enter (c : Collaborators) (shape : Shape) (file : Path) : Walk (Ref × List Path) := do
  let provisional ← build shape.empty
  onVisited fun v => v.begin_ file provisional
  note .debug s!"Traversing {Text.string file}"
  let deps ← dependenciesOf c file
  return (provisional, deps)

theorem traverse_of_seen (shape : Shape) {r : Ref} (hpath : c.Found path)
    (hstage : s.visited.stage path ≠ .unseen) (hr : s.visited.results.get? path = some r)
    (depth : ℕ) : ∃ notes,
    traverse c shape (depth + 1) path s = (.ok r, { s with notes := notes }) := by
  simp only [traverse, hpath.1, hpath.2, Bool.not_true, Bool.false_eq_true, if_false, bind_apply,
    get_apply, ne_eq, hstage, not_false_eq_true, if_true, note_apply,
    Visited.lookup_of_result hstage hr, pure_apply]
  exact ⟨_, rfl⟩

theorem traverse_of_unseen (shape : Shape) {file : Path} (hfile : c.canonical path = file)
    (hpresent : c.isPresent file) (hstage : s.visited.stage file = .unseen) (depth : ℕ) :
    traverse c shape (depth + 1) path s =
      (enter c shape file >>= fun entered =>
        forEach (fun d => do return (d, ← traverse c shape depth d)) entered.2 >>= fun results =>
          complete shape file results entered.1) s := by
  simp only [traverse, enter, hfile, hpresent, Bool.not_true, Bool.false_eq_true, if_false,
    bind_apply, get_apply, ne_eq, hstage, not_true_eq_false, build_apply, onVisited_apply,
    Visited.begin_of_unseen hstage, note_apply, pure_apply]
  cases dependenciesOf c file _ with
  | mk result s' => cases result <;> rfl

theorem enter_apply (shape : Shape) (hc : c.Decides c') {file : Path}
    (hstage : s.visited.stage file = .unseen) :
    (∃ notes, enter c shape file s =
      (.ok (s.provisional shape, c'.dependencies file), s.entered c' shape file notes)) ∨
    ¬ c.Decisive ∧ ∃ reason judged notes, enter c shape file s =
      (.error (.filter reason), { s.entered c' shape file notes with judged := judged }) := by
  simp only [enter, bind_apply, build_apply, onVisited_apply, Visited.begin_of_unseen hstage,
    note_apply]
  rcases dependenciesOf_apply hc file { s with
      graph := (shape.empty s.graph).1
      visited := s.visited.put file .inProgress (shape.empty s.graph).2
      notes := s.notes ++ [⟨.debug, s!"Traversing {Text.string file}"⟩] } with
    ⟨notes, hdeps⟩ | ⟨hbreaks, reason, judged, notes, hdeps⟩
  · refine Or.inl ⟨notes, ?_⟩
    simp only [hdeps, pure_apply]
    rfl
  · refine Or.inr ⟨hbreaks, reason, judged, notes, ?_⟩
    simp only [hdeps]
    rfl

theorem forEach_of_ok {walk : Path → Walk Ref} {p : Path} {r : Ref}
    (h : walk p s = (.ok r, s₁)) (rest : List Path) :
    forEach (fun d => do return (d, ← walk d)) (p :: rest) s =
      (forEach (fun d => do return (d, ← walk d)) rest >>= fun others =>
        pure ((p, r) :: others)) s₁ := by
  have hone : (do return (p, ← walk p) : Walk (Path × Ref)) s = (.ok (p, r), s₁) := by
    rw [bind_of_ok h, pure_apply]
  rw [forEach, bind_of_ok hone]

theorem forEach_of_error {walk : Path → Walk Ref} {p : Path} {e : Fault}
    (h : walk p s = (.error e, s₁)) (rest : List Path) :
    forEach (fun d => do return (d, ← walk d)) (p :: rest) s = (.error e, s₁) := by
  have hone : (do return (p, ← walk p) : Walk (Path × Ref)) s = (.error e, s₁) := by
    rw [bind_apply, h]
  rw [forEach, bind_apply, hone]

theorem forEach_cases {walk : Path → Walk Ref} {files : Finset Path} {depth : ℕ}
    (hwalk : ∀ s path, s.visited.Paired → c'.Found path → (s.unseen files).card < depth →
      (∃ r s', walk path s = (.ok r, s') ∧ Walked c' shape s [path] [r] s') ∨
      ¬ c.Decisive ∧ ∃ reason stack s', walk path s = (.error (.filter reason), s') ∧
        stack ≠ [] ∧ Partway c' shape s [path] stack s')
    (hs : s.visited.Paired) (hpaths : ∀ p ∈ paths, c'.Found p)
    (hcard : (s.unseen files).card < depth) :
    (∃ results s', forEach (fun d => do return (d, ← walk d)) paths s =
      (.ok (paths.zip results), s') ∧ Walked c' shape s paths results s') ∨
    ¬ c.Decisive ∧ ∃ reason stack s', forEach (fun d => do return (d, ← walk d)) paths s =
      (.error (.filter reason), s') ∧ stack ≠ [] ∧ Partway c' shape s paths stack s' := by
  induction paths generalizing s with
  | nil => exact Or.inl ⟨[], s, rfl, .done s⟩
  | cons p rest ih =>
    obtain ⟨hp, hrest⟩ := List.forall_mem_cons.mp hpaths
    rcases hwalk s p hs hp hcard with
      ⟨r, s₁, hrun, hwalked⟩ | ⟨hbreaks, reason, stack, s₁, hrun, hstack, hpartway⟩
    · have hcard₁ : (s₁.unseen files).card < depth :=
        (Finset.card_le_card (hwalked.unseen_subset files)).trans_lt hcard
      rw [forEach_of_ok hrun]
      rcases ih (hwalked.paired hs) hrest hcard₁ with
        ⟨results, s₂, hruns, hwalkeds⟩ | ⟨hbreaks, reason, stack, s₂, hruns, hstack, hpartway⟩
      · refine Or.inl ⟨r :: results, s₂, ?_, hwalked.append hwalkeds⟩
        rw [bind_of_ok hruns, pure_apply, List.zip_cons_cons]
      · refine Or.inr ⟨hbreaks, reason, stack, s₂, ?_, hstack, hpartway.after_walked hwalked⟩
        rw [bind_apply, hruns]
    · exact Or.inr ⟨hbreaks, reason, stack, s₁, forEach_of_error hrun rest, hstack,
        hpartway.more rest⟩

theorem traverse_cases (shape : Shape) (hc : c.Decides c') {files : Finset Path}
    (hfiles : c'.Grounded files) (depth : ℕ) (s : State) (path : Path) (hs : s.visited.Paired)
    (hpath : c'.Found path) (hcard : (s.unseen files).card < depth) :
    (∃ r s', traverse c shape depth path s = (.ok r, s') ∧ Walked c' shape s [path] [r] s') ∨
    ¬ c.Decisive ∧ ∃ reason stack s', traverse c shape depth path s =
      (.error (.filter reason), s') ∧ stack ≠ [] ∧ Partway c' shape s [path] stack s' := by
  -- each step down begins one of the files that have not been seen
  induction depth generalizing s path with
  | zero => omega
  | succ depth ih =>
    have hfound : c.Found path := by
      have hthere := hpath
      rw [hc.same] at hthere
      exact hthere
    by_cases hunseen : s.visited.stage path = .unseen
    · rw [traverse_of_unseen shape hfound.2 hfound.1 hunseen depth]
      rcases enter_apply shape hc hunseen with
        ⟨notes, henter⟩ | ⟨hbreaks, reason, judged, notes, henter⟩
      · rw [bind_of_ok henter]
        rcases forEach_cases (c := c) ih (State.paired_entered hs notes) (fun d => hfiles.stable.found)
          (State.card_unseen_entered c' shape (hfiles.mem path hpath) hunseen hcard notes) with
          ⟨below, s₁, hruns, hwalked⟩ | ⟨hbreaks, reason, stack, s₁, hruns, -, hpartway⟩
        · refine Or.inl ⟨_, _, ?_, .fresh notes hunseen hwalked (.done _)⟩
          rw [bind_of_ok hruns, complete_apply (hwalked.paired (State.paired_entered hs notes))
            hwalked.open_entered]
        · refine Or.inr ⟨hbreaks, reason, _, s₁, ?_, by simp, hpartway.enter notes hunseen⟩
          rw [bind_apply, hruns]
      · refine Or.inr ⟨hbreaks, reason, _, _, ?_, by simp,
          (Partway.here judged (.done _)).enter notes hunseen⟩
        rw [bind_apply, henter]
    · obtain ⟨r, hr⟩ := hs.exists_result hunseen
      obtain ⟨notes, hrun⟩ := traverse_of_seen shape hfound hunseen hr depth
      exact Or.inl ⟨r, _, hrun, .known notes hunseen hr (.done _)⟩

end ModuleGraph.Walk
