import ModuleGraph.Proofs.Walk.Dependencies

/-! What the parts of a walk do to its state. Each part has one equation; what it notes is left
open. -/

namespace ModuleGraph.Walk

variable {α β : Type} {c c' : Collaborators} {s : State}

theorem pure_apply (a : α) (s : State) : (pure a : Walk α) s = (.ok a, s) := rfl

theorem bind_apply (x : Walk α) (f : α → Walk β) (s : State) :
    (x >>= f) s = match x s with
      | (.error e, s) => (.error e, s)
      | (.ok a, s) => f a s := rfl

theorem bind_of_ok {x : Walk α} {s' : State} {a : α} (h : x s = (.ok a, s')) (f : α → Walk β) :
    (x >>= f) s = f a s' := by
  rw [bind_apply, h]

theorem get_apply (s : State) : get s = (.ok s, s) := rfl

theorem modify_apply (f : State → State) (s : State) : modify f s = (.ok (), f s) := rfl

theorem note_apply (level : Log.Level) (message : String) (s : State) :
    note level message s = (.ok (), { s with notes := s.notes ++ [⟨level, message⟩] }) := rfl

theorem hear_apply (x : Noted α) (s : State) :
    hear x s = (.ok x.value, { s with notes := s.notes ++ x.notes }) := rfl

theorem build_apply (f : Graph → Graph × Ref) (s : State) :
    build f s = (.ok (f s.graph).2, { s with graph := (f s.graph).1 }) := rfl

theorem onVisited_apply (f : Visited Ref → Except Visited.Fault (Visited Ref)) (s : State) :
    onVisited f s = match f s.visited with
      | .error e => (.error (.cache e), s)
      | .ok v => (.ok (), { s with visited := v }) := by
  simp only [onVisited, bind_apply, get_apply]
  cases f s.visited <;> rfl

theorem specifiersOf_apply (file : Path) (s : State) : ∃ notes,
    specifiersOf c file s =
      (.ok (c.specifiers file), { s with extracted := s.extracted ++ [file], notes := notes }) := by
  unfold specifiersOf Collaborators.specifiers
  simp only [bind_apply, modify_apply, hear_apply]
  cases (c.extract file).value <;> simp only [bind_apply, note_apply, pure_apply]
  · exact ⟨_, rfl⟩
  · exact ⟨_, rfl⟩

theorem resolved_apply (specifier : Text) (file : Path) (s : State) : ∃ notes,
    resolved c specifier file s =
      (.ok (c.resolution? file specifier), { s with notes := notes }) := by
  unfold resolved Collaborators.resolution?
  simp only [bind_apply, hear_apply]
  cases (c.resolve specifier file).value <;> simp only [bind_apply, note_apply, pure_apply]
  · exact ⟨_, rfl⟩
  · exact ⟨_, rfl⟩

theorem dependency?_apply (file : Path) (specifier : Text) (s : State) : ∃ notes,
    dependency? c file specifier s = (.ok (c.target? file specifier), { s with
      unresolved := s.unresolved ++ if (c.target? file specifier).isNone then [specifier] else []
      notes := notes }) := by
  obtain ⟨notes, h⟩ := resolved_apply (c := c) specifier file s
  unfold dependency?
  rw [bind_of_ok h]
  have htarget : ((((c.resolution? file specifier).filter fun p => !p.isEmpty).map
      c.canonical).filter c.isPresent) = c.target? file specifier := rfl
  simp only [htarget]
  cases c.target? file specifier with
  | some d => exact ⟨notes, by simp [pure_apply]⟩
  | none =>
    simp only [bind_apply, note_apply, modify_apply, pure_apply, Option.isNone_none, if_true]
    exact ⟨_, rfl⟩

theorem found_apply (file : Path) (specifiers : List Text) (s : State) : ∃ notes,
    forEach (dependency? c file) specifiers s = (.ok (specifiers.map (c.target? file)), { s with
      unresolved := s.unresolved ++
        specifiers.filter fun specifier => (c.target? file specifier).isNone
      notes := notes }) := by
  induction specifiers generalizing s with
  | nil => exact ⟨s.notes, by simp [forEach, pure_apply]⟩
  | cons specifier rest ih =>
    obtain ⟨notes, h⟩ := dependency?_apply (c := c) file specifier s
    obtain ⟨notes', h'⟩ := ih (s := { s with
      unresolved := s.unresolved ++ if (c.target? file specifier).isNone then [specifier] else []
      notes := notes })
    refine ⟨notes', ?_⟩
    rw [forEach, bind_of_ok h, bind_of_ok h', pure_apply]
    by_cases hn : (c.target? file specifier).isNone <;> simp [hn]

theorem judge_apply {accept : Path → Path → Except String Bool} {file path : Path} {verdict : Bool}
    (h : accept path file = .ok verdict) (s : State) :
    judge accept file path s = (.ok verdict, { s with judged := s.judged ++ [(path, file)] }) := by
  simp only [judge, bind_apply, modify_apply, h, pure_apply]

theorem judge_breaks {accept : Path → Path → Except String Bool} {file path : Path}
    {reason : String} (h : accept path file = .error reason) (s : State) :
    judge accept file path s =
      (.error (.filter reason), { s with judged := s.judged ++ [(path, file)] }) := by
  simp only [judge, bind_apply, modify_apply, h, fail]

theorem verdicts_apply (hc : c.Decides c') {accept : Path → Path → Except String Bool}
    (haccept : c.accept = some accept) (file : Path) (paths : List Path) (s : State) :
    forEach (fun p => do return (p, ← judge accept file p)) paths s =
        (.ok (paths.map fun p => (p, c'.accepts p file)), { s with
          judged := s.judged ++ paths.map fun p => (p, file) }) ∨
      ¬ c.Decisive ∧ ∃ reason judged,
        forEach (fun p => do return (p, ← judge accept file p)) paths s =
          (.error (.filter reason), { s with judged := judged }) := by
  induction paths generalizing s with
  | nil => exact Or.inl (by simp [forEach, pure_apply])
  | cons p rest ih =>
    cases hv : accept p file with
    | error reason =>
      have hbreaks : ¬ c.Decisive := by
        intro hdecisive
        obtain ⟨verdict, hverdict⟩ := hdecisive accept haccept p file
        rw [hv] at hverdict
        cases hverdict
      refine Or.inr ⟨hbreaks, reason, s.judged ++ [(p, file)], ?_⟩
      simp only [forEach, bind_apply, judge_breaks hv]
    | ok verdict =>
      obtain ⟨accept', haccept', hsame⟩ := hc.filtered accept haccept
      have hverdict : c'.accepts p file = verdict := by
        simp [Collaborators.accepts, haccept', hsame p file verdict hv]
      have hstep : (do return (p, ← judge accept file p) : Walk (Path × Bool)) s =
          (.ok (p, c'.accepts p file), { s with judged := s.judged ++ [(p, file)] }) := by
        rw [bind_of_ok (judge_apply hv s), pure_apply, hverdict]
      rcases ih { s with judged := s.judged ++ [(p, file)] } with
        hrest | ⟨hbreaks, reason, judged, hrest⟩
      · left
        rw [forEach, bind_of_ok hstep, bind_of_ok hrest, pure_apply]
        simp
      · refine Or.inr ⟨hbreaks, reason, judged, ?_⟩
        rw [forEach, bind_of_ok hstep, bind_apply, hrest]

theorem filtered_apply (hc : c.Decides c') (file : Path) (s : State) :
    (∃ notes, filtered c file (c'.candidates file) s = (.ok (c'.dependencies file), { s with
      judged := s.judged ++ c'.asked file, notes := notes })) ∨
    ¬ c.Decisive ∧ ∃ reason judged, filtered c file (c'.candidates file) s =
      (.error (.filter reason), { s with judged := judged }) := by
  unfold filtered Collaborators.dependencies Collaborators.asked
  cases haccept : c.accept with
  | none =>
    have hnone := hc.unfiltered haccept
    have hall : (c'.candidates file).filter (c'.accepts · file) = c'.candidates file :=
      List.filter_eq_self.mpr fun p _ => by simp [Collaborators.accepts, hnone]
    exact Or.inl ⟨s.notes, by simp [hall, hnone, pure_apply]⟩
  | some accept =>
    obtain ⟨accept', haccept', -⟩ := hc.filtered accept haccept
    have hkept : ((((c'.candidates file).map fun p => (p, c'.accepts p file)).filter (·.2)).map
        (·.1)) = (c'.candidates file).filter (c'.accepts · file) := by
      simp [List.filter_map, Function.comp_def]
    rcases verdicts_apply hc haccept file (c'.candidates file) s with
      hverdicts | ⟨hbreaks, reason, judged, hverdicts⟩
    · left
      simp only [bind_of_ok hverdicts, bind_apply, note_apply, pure_apply, hkept, haccept']
      exact ⟨_, rfl⟩
    · refine Or.inr ⟨hbreaks, reason, judged, ?_⟩
      simp only [bind_apply, hverdicts]

theorem dependenciesOf_apply (hc : c.Decides c') (file : Path) (s : State) :
    (∃ notes, dependenciesOf c file s = (.ok (c'.dependencies file), { s with
      extracted := s.extracted ++ [file]
      unresolved := s.unresolved ++ c'.missing file
      judged := s.judged ++ c'.asked file
      notes := notes })) ∨
    ¬ c.Decisive ∧ ∃ reason judged notes, dependenciesOf c file s =
      (.error (.filter reason), { s with
        extracted := s.extracted ++ [file]
        unresolved := s.unresolved ++ c'.missing file
        judged := judged
        notes := notes }) := by
  obtain ⟨notes₁, h₁⟩ := specifiersOf_apply (c := c) file s
  obtain ⟨notes₂, h₂⟩ := found_apply (c := c) file (c.specifiers file)
    { s with extracted := s.extracted ++ [file], notes := notes₁ }
  have hcandidates : distinct (((c.specifiers file).map (c.target? file)).filterMap id) =
      c'.candidates file := by
    have hsame : c'.candidates file = c.candidates file := by
      rw [hc.same]
      rfl
    rw [hsame, Collaborators.candidates, List.filterMap_map]
    rfl
  have hmissing : c'.missing file = c.missing file := by
    rw [hc.same]
    rfl
  rw [hmissing, dependenciesOf, bind_of_ok h₁, bind_of_ok h₂, hcandidates]
  rcases filtered_apply hc file { s with
    extracted := s.extracted ++ [file]
    unresolved := s.unresolved ++ c.missing file
    notes := notes₂ } with ⟨notes₃, h₃⟩ | ⟨hbreaks, reason, judged, h₃⟩
  · exact Or.inl ⟨notes₃, h₃⟩
  · exact Or.inr ⟨hbreaks, reason, judged, notes₂, h₃⟩

end ModuleGraph.Walk
