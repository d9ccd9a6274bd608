import ModuleGraph.Proofs.Walk.Moments

/-! What a walk records of the files that it extracts: the specifiers that lead nowhere, and what
the filter is asked. Both can be read off the list of these files, at every moment. -/

namespace ModuleGraph.Walk

open ModuleGraph.Path

variable {c : Collaborators} {shape : Shape} {s s₁ s' : State} {file : Path}
  {paths stack inner : List Path} {results : List Ref} {unresolved : List Text}

structure State.Records (c : Collaborators) (unresolved : List Text) (s : State) : Prop where
  unresolved_eq : s.unresolved = unresolved ++ s.extracted.flatMap c.missing
  judged_eq : s.judged = s.extracted.flatMap c.asked

namespace State.Records

theorem entered (h : s.Records c unresolved) (file : Path) (notes : List Log.Record) :
    (s.entered c shape file notes).Records c unresolved := by
  constructor
  · simp [State.entered, h.unresolved_eq]
  · simp [State.entered, h.judged_eq]

theorem left (h : s.Records c unresolved) (file : Path) (deps : List (Path × Ref)) (r : Ref) :
    (s.left shape file deps r).Records c unresolved :=
  ⟨h.unresolved_eq, h.judged_eq⟩

theorem walked (h : s.Records c unresolved) (hwalked : Walked c shape s paths results s') :
    s'.Records c unresolved := by
  induction hwalked with
  | done => exact h
  | known _ _ _ _ ih => exact ih ⟨h.unresolved_eq, h.judged_eq⟩
  | fresh notes _ _ _ ih₁ ih₂ => exact ih₂ ((ih₁ (h.entered _ notes)).left _ _ _)

theorem opened (c : Collaborators) (cache : Cache) (o : Options) (x : Context)
    (unresolved : List Text) : (cache.opened o x unresolved).Records c unresolved := by
  obtain ⟨hunresolved, hjudged⟩ := cache.opened_records o x unresolved
  have hextracted := (cache.begins_opened o x unresolved).extracted
  exact ⟨by simp [hunresolved, hextracted], by simp [hjudged, hextracted]⟩

end State.Records

theorem Performed.records {x : Context} {cache : Cache} {y : Outcome} {r : Ref} {v : Visited Ref}
    (p : Performed x cache y s r s₁ v) (h : s.Records x.collaborators unresolved) :
    y.state.unresolved =
        distinct (unresolved ++ y.state.extracted.flatMap x.collaborators.missing) ∧
      y.state.judged = y.state.extracted.flatMap x.collaborators.asked := by
  have hwalked := h.walked p.walked
  rw [p.unresolved, p.judged, p.extracted]
  exact ⟨congrArg distinct hwalked.unresolved_eq, hwalked.judged_eq⟩

structure Moment.Recorded (c : Collaborators) (unresolved : List Text) (m : Moment) : Prop where
  extracted : m.stack ⊆ m.state.extracted
  records : m.state.Records c unresolved

namespace Moment.Recorded

theorem walked (h : Moment.Recorded c unresolved ⟨stack, s⟩)
    (hwalked : Walked c shape s paths results s') : Moment.Recorded c unresolved ⟨stack, s'⟩ := by
  refine ⟨fun f hf => ?_, h.records.walked hwalked⟩
  obtain ⟨pre, post, held, t⟩ := hwalked.trace
  have hold : f ∈ s.extracted := h.extracted hf
  show f ∈ s'.extracted
  rw [t.extracted]
  exact List.mem_append_left pre hold

theorem entered (h : Moment.Recorded c unresolved ⟨stack, s⟩) (shape : Shape) (file : Path)
    (notes : List Log.Record) :
    Moment.Recorded c unresolved ⟨file :: stack, s.entered c shape file notes⟩ := by
  refine ⟨fun f hf => ?_, h.records.entered file notes⟩
  show f ∈ s.extracted ++ [file]
  rcases List.mem_cons.mp hf with rfl | hf
  · simp
  · exact List.mem_append_left _ (h.extracted hf)

end Moment.Recorded

theorem along_recorded {walk : Path → Walk Ref} {below : Path → State → List Moment}
    {files : Finset Path} {depth : ℕ}
    (hwalk : ∀ s path, s.visited.Paired → c.Found path → (s.unseen files).card < depth →
      ∃ r s', walk path s = (.ok r, s') ∧ Walked c shape s [path] [r] s')
    (hbelow : ∀ s path, Moment.Recorded c unresolved ⟨stack, s⟩ → s.visited.Paired →
      c.Found path → (s.unseen files).card < depth → ∀ m ∈ below path s, m.Recorded c unresolved)
    (hpaths : ∀ p ∈ paths, c.Found p) (hcard : (s.unseen files).card < depth)
    (hs : Moment.Recorded c unresolved ⟨stack, s⟩) (hpaired : s.visited.Paired) :
    ∀ m ∈ along stack walk below paths s, m.Recorded c unresolved := by
  induction paths generalizing s with
  | nil => simp [along]
  | cons p rest ih =>
    obtain ⟨hp, hrest⟩ := List.forall_mem_cons.mp hpaths
    obtain ⟨r, s₁, hrun, hwalked⟩ := hwalk s p hpaired hp hcard
    have hcard₁ : (s₁.unseen files).card < depth :=
      (Finset.card_le_card (hwalked.unseen_subset files)).trans_lt hcard
    have hs₁ := hs.walked hwalked
    -- a moment before the path, those below it, and one after it
    intro m hm
    simp only [along, hrun, List.mem_cons, List.mem_append] at hm
    rcases hm with rfl | hm | rfl | hm
    · exact hs
    · exact hbelow s p hs hpaired hp hcard m hm
    · exact hs₁
    · exact ih hrest hcard₁ hs₁ (hwalked.paired hpaired) m hm

theorem traverse_of_decisive (shape : Shape) (hc : c.Decisive) {files : Finset Path}
    (hfiles : c.Grounded files) (depth : ℕ) (s : State) (path : Path) (hs : s.visited.Paired)
    (hpath : c.Found path) (hcard : (s.unseen files).card < depth) :
    ∃ r s', traverse c shape depth path s = (.ok r, s') ∧ Walked c shape s [path] [r] s' := by
  rcases traverse_cases shape hc.decides hfiles depth s path hs hpath hcard with
    hwalked | ⟨hbreaks, -⟩
  · exact hwalked
  · exact absurd hc hbreaks

theorem momentsBelow_recorded (shape : Shape) (hc : c.Decisive) {files : Finset Path}
    (hfiles : c.Grounded files) (depth : ℕ) (stack : List Path) (s : State) (path : Path)
    (hs : Moment.Recorded c unresolved ⟨stack, s⟩) (hpaired : s.visited.Paired)
    (hpath : c.Found path) (hcard : (s.unseen files).card < depth) :
    ∀ m ∈ momentsBelow c shape depth stack path s, m.Recorded c unresolved := by
  induction depth generalizing stack s path with
  | zero => omega
  | succ depth ih =>
    by_cases hunseen : s.visited.stage path = .unseen
    · rcases enter_apply shape hc.decides hunseen with ⟨notes, henter⟩ | ⟨hbreaks, -⟩
      · have hentered := hs.entered shape path notes
        have hcard' :=
          State.card_unseen_entered c shape (hfiles.mem path hpath) hunseen hcard notes
        have hdeps : ∀ d ∈ c.dependencies path, c.Found d := fun d => hfiles.stable.found
        intro m hm
        simp only [momentsBelow, hpath.2, hpath.1, hunseen, and_self, if_true, henter,
          List.mem_cons] at hm
        rcases hm with rfl | hm
        · exact hentered
        · exact along_recorded (traverse_of_decisive shape hc hfiles depth)
            (ih (path :: stack)) hdeps hcard' hentered
            (State.paired_entered hpaired notes) m hm
      · exact absurd hc hbreaks
    · simp [momentsBelow, hpath.2, hunseen]

/-- At every moment of a walk the filter has been asked about all candidates of the files begun, in
the order in which they were begun. -/
theorem moments_recorded {w : World} {o : Options} {x : Context}
    (h : Context.ofOptions w o = .ok x) (hanchor : isAbsolute x.anchor = true)
    (hc : x.collaborators.Decisive) (hpresent : w.pathExists x.filename = true) (cache : Cache)
    (unresolved : List Text) :
    ∀ m ∈ moments x.collaborators x.shape x.filename (cache.opened o x unresolved),
      m.Recorded x.collaborators unresolved := by
  have hx := Context.fits h
  have hfiles := hx.grounded hanchor
  have hcard : ((cache.opened o x unresolved).unseen (normalForms w)).card <
      x.collaborators.depth :=
    (Finset.card_le_card (Finset.filter_subset _ _)).trans_lt hfiles.card_lt
  exact along_recorded (traverse_of_decisive x.shape hc hfiles _)
    (momentsBelow_recorded x.shape hc hfiles _ [])
    (List.forall_mem_singleton.mpr (hx.found hanchor hpresent)) hcard
    ⟨List.nil_subset _, .opened _ cache o x unresolved⟩ (cache.begins_opened o x unresolved).paired

end ModuleGraph.Walk
