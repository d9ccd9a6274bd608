import ModuleGraph.Proofs.Resolution.Found
import ModuleGraph.Proofs.Walk.Perform

/-! Where recorded specifiers come from. Of all the parts of a walk only the one that asks for the
dependencies of a file records specifiers, and only those of that file that lead nowhere. So it is
in every call, whatever its paths are seen from and also if it breaks off. With the resolver that
comes with a walk, what it resolves is a file and is never recorded. -/

namespace ModuleGraph.Walk

open ModuleGraph.Path

variable {α β : Type} {w : World} {o : Options} {x : Context} {c : Collaborators} {cache : Cache}
  {unresolved : List Text} {s s' s'' : State} {y : Outcome}

def Collaborators.Extends (c : Collaborators) (s s' : State) : Prop :=
  ∃ files, s'.extracted = s.extracted ++ files ∧ ∀ specifier, specifier ∈ s'.unresolved ↔
    specifier ∈ s.unresolved ∨ ∃ file ∈ files, specifier ∈ c.missing file

namespace Collaborators.Extends

theorem of_eq (hextracted : s'.extracted = s.extracted)
    (hunresolved : s'.unresolved = s.unresolved) : c.Extends s s' :=
  ⟨[], by rw [hextracted, List.append_nil], by simp [hunresolved]⟩

theorem trans (h : c.Extends s s') (h' : c.Extends s' s'') : c.Extends s s'' := by
  obtain ⟨files, hextracted, hmem⟩ := h
  obtain ⟨files', hextracted', hmem'⟩ := h'
  refine ⟨files ++ files', by rw [hextracted', hextracted, List.append_assoc], fun specifier => ?_⟩
  simp only [hmem', hmem, List.mem_append, or_and_right, exists_or, or_assoc]

end Collaborators.Extends

/-- A part of a walk that, whatever the state is, records at most what is missing in the files that
it extracts. -/
def RecordsMissing (c : Collaborators) (part : Walk α) : Prop := ∀ s, c.Extends s (part s).2

namespace RecordsMissing

theorem of_eq {part : Walk α} (hextracted : ∀ s, (part s).2.extracted = s.extracted)
    (hunresolved : ∀ s, (part s).2.unresolved = s.unresolved) : RecordsMissing c part :=
  fun s => .of_eq (hextracted s) (hunresolved s)

theorem pure (a : α) : RecordsMissing c (Pure.pure a : Walk α) := .of_eq (fun _ => rfl) fun _ => rfl

theorem get : RecordsMissing c get := .of_eq (fun _ => rfl) fun _ => rfl

theorem fail (e : Fault) : RecordsMissing c (fail e : Walk α) := .of_eq (fun _ => rfl) fun _ => rfl

theorem note (level : Log.Level) (message : String) : RecordsMissing c (note level message) :=
  .of_eq (fun _ => rfl) fun _ => rfl

theorem build (f : Graph → Graph × Ref) : RecordsMissing c (build f) :=
  .of_eq (fun _ => rfl) fun _ => rfl

theorem modify {f : State → State} (hextracted : ∀ s, (f s).extracted = s.extracted)
    (hunresolved : ∀ s, (f s).unresolved = s.unresolved) : RecordsMissing c (modify f) :=
  .of_eq hextracted hunresolved

theorem onVisited (f : Visited Ref → Except Visited.Fault (Visited Ref)) :
    RecordsMissing c (onVisited f) := by
  refine .of_eq (fun s => ?_) fun s => ?_
  · rw [onVisited_apply]
    cases f s.visited <;> rfl
  · rw [onVisited_apply]
    cases f s.visited <;> rfl

theorem bind {part : Walk α} {next : α → Walk β} (hpart : RecordsMissing c part)
    (hnext : ∀ a, RecordsMissing c (next a)) : RecordsMissing c (part >>= next) := by
  intro s
  have hfirst := hpart s
  rw [bind_apply]
  cases hrun : part s with
  | mk result s' =>
    rw [hrun] at hfirst
    cases result with
    | error e => exact hfirst
    | ok a => exact hfirst.trans (hnext a s')

theorem forEach {f : α → Walk β} (hf : ∀ a, RecordsMissing c (f a)) (as : List α) :
    RecordsMissing c (forEach f as) := by
  induction as with
  | nil => exact pure []
  | cons a rest ih => exact (hf a).bind fun b => ih.bind fun bs => pure (b :: bs)

theorem dependenciesOf (c : Collaborators) (file : Path) :
    RecordsMissing c (dependenciesOf c file) := by
  intro s
  have hmissing : c.decided.missing = c.missing := rfl
  refine ⟨[file], ?_⟩
  rcases dependenciesOf_apply c.decides_decided file s with
    ⟨notes, h⟩ | ⟨-, reason, judged, notes, h⟩
  · simp [h, hmissing]
  · simp [h, hmissing]

theorem complete (shape : Shape) (file : Path) (deps : List (Path × Ref)) (provisional : Ref) :
    RecordsMissing c (complete shape file deps provisional) := by
  refine bind (build _) fun result => ?_
  dsimp only
  refine bind (modify (fun _ => rfl) fun _ => rfl) fun _ => bind get fun s => ?_
  split
  · exact bind (modify (fun _ => rfl) fun _ => rfl) fun _ =>
      bind (modify (fun _ => rfl) fun _ => rfl) fun _ => pure result
  · exact bind (onVisited _) fun _ =>
      bind (modify (fun _ => rfl) fun _ => rfl) fun _ => pure result

theorem traverse (c : Collaborators) (shape : Shape) (depth : ℕ) (path : Path) :
    RecordsMissing c (traverse c shape depth path) := by
  induction depth generalizing path with
  | zero => exact fail _
  | succ depth ih =>
    unfold Walk.traverse
    dsimp only
    split
    · exact build _
    · refine bind get fun s => ?_
      split
      · -- the file has been visited
        refine bind (note _ _) fun _ => ?_
        split
        · exact fail _
        · exact pure _
      · exact bind (build _) fun provisional => bind (onVisited _) fun _ => bind (note _ _) fun _ =>
          bind (dependenciesOf c _) fun deps =>
          bind (forEach (fun d => bind (ih d) fun r => pure (d, r)) deps) fun results =>
          complete shape _ results provisional

theorem settlePending (shape : Shape) (entry : Path) :
    RecordsMissing c (settlePending shape entry) := by
  refine bind get fun s => bind (note _ _) fun _ => ?_
  exact bind (forEach (fun file => bind get fun s => onVisited _) _) fun _ =>
    bind (forEach (fun file => onVisited _) _) fun _ => modify (fun _ => rfl) fun _ => rfl

theorem dedupe : RecordsMissing c
    (Walk.modify fun s => { s with unresolved := distinct s.unresolved }) :=
  fun s => ⟨[], (List.append_nil s.extracted).symm, by simp [Walk.modify]⟩

theorem run (c : Collaborators) (shape : Shape) (entry : Path) :
    RecordsMissing c (run c shape entry) := by
  refine bind (note _ _) fun _ => ?_
  dsimp only
  split
  · exact bind (note _ _) fun _ => bind dedupe fun _ => build _
  · refine bind (traverse c shape c.depth entry) fun result => bind get fun s => ?_
    split
    · exact bind (settlePending shape entry) fun _ => bind dedupe fun _ => bind get fun s =>
        bind (note _ _) fun _ => bind get fun s => bind (note _ _) fun _ => build _
    · exact bind dedupe fun _ => bind get fun s =>
        bind (note _ _) fun _ => bind get fun s => bind (note _ _) fun _ => build _

end RecordsMissing

theorem mem_unresolved_iff (h : Context.ofOptions w o = .ok x)
    (hy : perform w o cache unresolved = .ok y) (specifier : Text) :
    specifier ∈ y.state.unresolved ↔ specifier ∈ unresolved ∨
      ∃ file ∈ y.state.extracted, specifier ∈ x.collaborators.missing file := by
  obtain ⟨s, hbegins, hopened, hperform⟩ := perform_eq h cache unresolved
  obtain ⟨files, hextracted, hmem⟩ := RecordsMissing.run x.collaborators x.shape x.filename s
  obtain ⟨hunresolved, -⟩ := cache.opened_records o x unresolved
  have hbefore : s.unresolved = unresolved := by
    rw [← hopened] at hunresolved
    exact hunresolved
  obtain rfl := Except.ok.inj (hperform.symm.trans hy)
  rw [hbegins.extracted, List.nil_append] at hextracted
  rw [hbefore, ← hextracted] at hmem
  exact hmem specifier

theorem Context.Fits.target_of_resolve (hx : Context.Fits w o x) (hresolver : o.resolver = .absent)
    (hcwd : isAbsolute w.workingDirectory = true) {specifier : Text} {file p : Path}
    (h : (Resolution.resolve w specifier file x.directory (.ofObject o.resolverConfig)).value =
      .ok (some p)) : x.collaborators.target? file specifier = some p := by
  have hsound := Resolution.sound_of_resolve hcwd h
  have hcanonical : x.collaborators.canonical p = p := by
    simp only [hx.canonical, World.canonical_of_isAbsolute hsound.isAbsolute, hsound.normal]
  refine Collaborators.target?_eq_some_iff.mpr ⟨p, ?_, ?_, ?_, hcanonical.symm⟩
  · exact (hx.resolve_eq_ok_iff hresolver).mpr h
  · rintro rfl
    cases hsound.isAbsolute
  · rw [hcanonical, hx.isPresent]
    exact World.pathExists_of_isFile hsound.isFile

theorem Context.Fits.mem_missing_iff (hx : Context.Fits w o x) (hresolver : o.resolver = .absent)
    (hcwd : isAbsolute w.workingDirectory = true) {specifier : Text} {file : Path} :
    specifier ∈ x.collaborators.missing file ↔ specifier ∈ x.collaborators.specifiers file ∧
      ∀ p, (Resolution.resolve w specifier file x.directory (.ofObject o.resolverConfig)).value ≠
        .ok (some p) := by
  rw [Collaborators.missing, List.mem_filter, Option.isNone_iff_eq_none]
  refine and_congr_right fun _ => ⟨fun hnone p hp => ?_, fun hall => ?_⟩
  · rw [hx.target_of_resolve hresolver hcwd hp] at hnone
    cases hnone
  · rw [Option.eq_none_iff_forall_ne_some]
    intro d hd
    obtain ⟨p, hp, -⟩ := Collaborators.target?_eq_some_iff.mp hd
    exact hall p ((hx.resolve_eq_ok_iff hresolver).mp hp)

/-- What the resolver finds is the absolute path, in normal form, of a file that is there and no
directory. So in a call with this resolver it is what the specifier leads to. A specifier that is
recorded comes from earlier calls, or it stands in a file from which the resolver finds nothing
under it. -/
theorem resolved_specifiers_lead_to_files (hcwd : isAbsolute w.workingDirectory = true) :
    (∀ specifier file directory config p,
      (Resolution.resolve w specifier file directory config).value = .ok (some p) →
        Resolution.Sound w p) ∧
    ∀ o x, Context.ofOptions w o = .ok x → o.resolver = .absent →
      let resolve := fun specifier file =>
        (Resolution.resolve w specifier file x.directory (.ofObject o.resolverConfig)).value
      (∀ specifier file p, resolve specifier file = .ok (some p) →
        x.collaborators.target? file specifier = some p) ∧
      ∀ cache unresolved y, perform w o cache unresolved = .ok y →
        ∀ specifier, specifier ∈ y.state.unresolved ↔ specifier ∈ unresolved ∨
          ∃ file ∈ y.state.extracted, specifier ∈ x.collaborators.specifiers file ∧
            ∀ p, resolve specifier file ≠ .ok (some p) := by
  refine ⟨fun specifier file directory config p => Resolution.sound_of_resolve hcwd,
    fun o x h hresolver => ?_⟩
  have hx := Context.fits h
  refine ⟨fun specifier file p => hx.target_of_resolve hresolver hcwd,
    fun cache unresolved y hy specifier => ?_⟩
  simp only [mem_unresolved_iff h hy, hx.mem_missing_iff hresolver hcwd]

def TwoFiles.selfOptions : Options :=
  { options .list ['/', 'f'] with
    extractor := .function fun _ => pure (.ok [['.', '/', 'f'], ['z']])
    resolver := .absent }

theorem file_found_under_own_name :
    Resolution.Sound TwoFiles.world ['/', 'f'] ∧
    ∃ y, perform TwoFiles.world TwoFiles.selfOptions .empty [] = .ok y ∧
      ['z'] ∈ y.state.unresolved ∧ ['.', '/', 'f'] ∉ y.state.unresolved := by
  obtain ⟨hsound, hcalls⟩ := resolved_specifiers_lead_to_files (w := TwoFiles.world) rfl
  have hfound : (Resolution.resolve TwoFiles.world ['.', '/', 'f'] ['/', 'f'] ['/']
      (.ofObject [])).value = .ok (some ['/', 'f']) := by
    decide +kernel
  have hnone : (Resolution.resolve TwoFiles.world ['z'] ['/', 'f'] ['/'] (.ofObject [])).value =
      .ok none := by
    decide +kernel
  refine ⟨hsound _ _ _ _ _ hfound, ?_⟩
  obtain ⟨x, hx, hdirectory, hextract⟩ : ∃ x,
      Context.ofOptions TwoFiles.world TwoFiles.selfOptions = .ok x ∧ x.directory = ['/'] ∧
        x.collaborators.specifiers ['/', 'f'] = [['.', '/', 'f'], ['z']] := ⟨_, rfl, rfl, rfl⟩
  obtain ⟨-, hrecorded⟩ := hcalls _ x hx rfl
  have hcomputed : (perform TwoFiles.world TwoFiles.selfOptions .empty []).map
      (·.state.extracted) = .ok [['/', 'f']] := by
    decide +kernel
  obtain ⟨y, hy, hextracted⟩ := exists_outcome hcomputed
  have hiff := hrecorded .empty [] y hy
  simp only [hextracted, hdirectory] at hiff
  refine ⟨y, hy, (hiff _).mpr (Or.inr ⟨_, List.mem_singleton_self _, ?_, fun p hp => ?_⟩),
    fun hmem => ?_⟩
  · rw [hextract]
    simp
  · cases hnone.symm.trans hp
  · rcases (hiff _).mp hmem with h | ⟨file, hfile, -, hnowhere⟩
    · cases h
    · obtain rfl := List.mem_singleton.mp hfile
      exact hnowhere _ hfound

end ModuleGraph.Walk
