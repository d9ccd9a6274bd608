import ModuleGraph.Proofs.Walk.Context
import ModuleGraph.Proofs.Walk.Shapes
import ModuleGraph.Run

/-! What the reports of runs in the two shapes have in common: the tree form has as many names as the
list form has files, and as many files have been walked. -/

namespace ModuleGraph.Walk

open ModuleGraph.Path Relation

variable {w : World} {s : Settings} {config : Json.Object} {x : Context} {y : Outcome} {r : Ref}
  {f : Findings}

structure Reports (f : Findings) (y : Outcome) (r : Ref) : Prop where
  filename : f.filename = y.context.filename
  directory : f.directory = y.context.directory
  shape : f.shape = y.context.shape
  graph : f.graph = y.state.graph
  result : f.result = r
  visitedCount : f.visitedCount = y.state.visited.size
  filesWalked : f.filesWalked = y.state.completed.length

theorem reported_of_perform (hconfig : (Run.resolverConfigOf w s).value = .ok config)
    (hnone : Run.escaping? s = none)
    (hperform : perform w (Run.optionsOf w s config) .empty [] = .ok y) (hr : y.result = .ok r) :
    ∃ f, (Run.withSettings w s).value = .ok (.found f) ∧ Reports f y r := by
  simp only [Run.withSettings, Noted.value_bind, hconfig, hnone, hperform, Run.concluded, hr,
    Noted.value_pure, Except.ok.injEq, Report.found.injEq, exists_eq_left']
  exact ⟨rfl, rfl, rfl, rfl, rfl, rfl, rfl⟩

/-- A run that ends with a report has rejected its settings, or it has made a walk to a result. -/
theorem report_cases {report : Report} (h : (Run.withSettings w s).value = .ok report) :
    (∃ reason shape, report = .rejected reason s.filename s.directory shape) ∨
      ∃ f config y r, report = .found f ∧ (Run.resolverConfigOf w s).value = .ok config ∧
        Run.escaping? s = none ∧
        perform w (Run.optionsOf w s config) .empty [] = .ok y ∧ y.result = .ok r ∧
        Reports f y r := by
  have hrejected : ∀ message, (Run.rejected s message).value = .ok report →
      ∃ reason shape, report = .rejected reason s.filename s.directory shape := by
    intro message hvalue
    simp only [Run.rejected, Noted.value_bind, Noted.value_pure, Except.ok.injEq] at hvalue
    exact ⟨_, _, hvalue.symm⟩
  unfold Run.withSettings at h
  rw [Noted.value_bind] at h
  cases hconfig : (Run.resolverConfigOf w s).value with
  | error fault =>
    simp only [hconfig] at h
    split at h
    · exact Or.inl (hrejected _ h)
    · cases h
  | ok config =>
    simp only [hconfig] at h
    cases hnone : Run.escaping? s with
    | some fault =>
      simp only [hnone] at h
      cases h
    | none =>
      simp only [hnone] at h
      cases hperform : perform w (Run.optionsOf w s config) .empty [] with
      | error fault =>
        simp only [hperform] at h
        exact Or.inl (hrejected _ h)
      | ok y =>
        simp only [hperform, Run.concluded, Noted.value_bind] at h
        cases hr : y.result with
        | error fault =>
          simp only [hr] at h
          cases h
        | ok r =>
          simp only [hr, Noted.value_bind, Noted.value_pure, Except.ok.injEq] at h
          exact Or.inr ⟨_, config, y, r, h.symm, rfl, rfl, hperform, hr,
            rfl, rfl, rfl, rfl, rfl, rfl, rfl⟩

theorem performed_of_report (h : (Run.withSettings w s).value = .ok (.found f)) :
    ∃ config y r, (Run.resolverConfigOf w s).value = .ok config ∧
      Run.escaping? s = none ∧
      perform w (Run.optionsOf w s config) .empty [] = .ok y ∧ y.result = .ok r ∧
      Reports f y r := by
  obtain ⟨reason, shape, ⟨⟩⟩ | ⟨_, config, y, r, ⟨⟩, hrest⟩ := report_cases h
  exact ⟨config, y, r, hrest⟩

theorem Context.Fits.decisive_of_settings (hx : Context.Fits w (Run.optionsOf w s config) x) :
    x.collaborators.Decisive := by
  intro accept haccept path file
  cases hfilter : Exclusion.filter? s.excludePatterns with
  | none =>
    rw [hx.unhooked (by simp [Run.optionsOf, hfilter])] at haccept
    cases haccept
  | some keeps =>
    have hown := hx.accept (fun p _ => .ok (keeps p)) (by simp [Run.optionsOf, hfilter])
    obtain rfl := Option.some.inj (hown.symm.trans haccept)
    exact ⟨_, rfl⟩

theorem counts_of_settings (hcwd : isAbsolute w.workingDirectory = true)
    (h : Context.ofOptions w (Run.optionsOf w s config) = .ok x) :
    ∃ y z root list,
      perform w { Run.optionsOf w s config with shape := .tree } .empty [] = .ok y ∧
      perform w { Run.optionsOf w s config with shape := .list } .empty [] = .ok z ∧
      y.result = .ok root ∧ z.result = .ok (.list list) ∧
      (distinct (y.state.graph.outline root).names).length = list.length ∧
      y.Walks list.length ∧ z.Walks list.length := by
  have hx := Context.fits h
  have hanchor : isAbsolute x.anchor = true := by
    rw [hx.anchor]
    exact hcwd
  obtain ⟨y, z, root, list, hy, hz, hroot, hlist, hrenders, hcount, hcount'⟩ :=
    tree_renders_list h hanchor hx.decisive_of_settings .empty .empty []
  exact ⟨y, z, root, list, hy, hz, hroot, hlist, hrenders.length_names, hcount, hcount'⟩

structure SameCounts (tree list : Findings) : Prop where
  visitedCount : tree.visitedCount = list.dependencies.length
  filesWalked : tree.filesWalked = list.dependencies.length
  visitedCount_list : list.visitedCount = list.dependencies.length
  filesWalked_list : list.filesWalked = list.dependencies.length
  names : (distinct tree.outline.names).length = list.dependencies.length

theorem reports_of_settings (hcwd : isAbsolute w.workingDirectory = true)
    (hconfig : (Run.resolverConfigOf w s).value = .ok config)
    (hnone : Run.escaping? s = none)
    (h : Context.ofOptions w (Run.optionsOf w s config) = .ok x) :
    ∃ tree list, (Run.withSettings w { s with listForm := false }).value = .ok (.found tree) ∧
      (Run.withSettings w { s with listForm := true }).value = .ok (.found list) ∧
      SameCounts tree list := by
  obtain ⟨y, z, root, list, hy, hz, hroot, hlist, hnames, hcount, hcount'⟩ :=
    counts_of_settings hcwd h
  have hx := Context.fits h
  obtain ⟨tree, htree, hreport⟩ :=
    reported_of_perform (s := { s with listForm := false }) hconfig hnone hy hroot
  obtain ⟨listed, hlisted, hreport'⟩ :=
    reported_of_perform (s := { s with listForm := true }) hconfig hnone hz hlist
  have hshape : tree.shape = .tree := by
    rw [hreport.shape, context_of_perform (hx.reshaped .tree) hy]
  have hshape' : listed.shape = .list := by
    rw [hreport'.shape, context_of_perform (hx.reshaped .list) hz]
  have hdependencies : listed.dependencies = list := by
    simp only [Findings.dependencies, hshape', hreport'.result, Graph.namesOf]
  have houtline : tree.outline = y.state.graph.outline root := by
    simp only [Findings.outline, hshape, hreport.graph, hreport.result]
  refine ⟨tree, listed, htree, hlisted, ?_, ?_, ?_, ?_, ?_⟩
  · rw [hreport.visitedCount, hcount.visited, hdependencies]
  · rw [hreport.filesWalked, hcount.completed, hdependencies]
  · rw [hreport'.visitedCount, hcount'.visited, hdependencies]
  · rw [hreport'.filesWalked, hcount'.completed, hdependencies]
  · rw [houtline, hnames, hdependencies]

theorem reports_of_report (hcwd : isAbsolute w.workingDirectory = true) {listForm : Bool}
    (h : (Run.withSettings w { s with listForm := listForm }).value = .ok (.found f)) :
    ∃ tree list, (Run.withSettings w { s with listForm := false }).value = .ok (.found tree) ∧
      (Run.withSettings w { s with listForm := true }).value = .ok (.found list) ∧
      SameCounts tree list := by
  obtain ⟨config, y, r, hconfig, hnone, hperform, -⟩ := performed_of_report h
  -- the shape has no part in whether options are accepted
  cases hoptions : Context.ofOptions w
      (Run.optionsOf w { s with listForm := listForm } config) with
  | error e =>
    rw [perform_of_rejected hoptions] at hperform
    cases hperform
  | ok x =>
    exact reports_of_settings (s := { s with listForm := listForm }) hcwd hconfig hnone hoptions

def ReadsAs (w : World) (config : Json.Value) (s : Settings) : Prop :=
  ∃ warnings, Settings.validate w.workingDirectory false config = .ok ⟨s, warnings⟩

theorem run_of_readsAs {config : Json.Value} (h : ReadsAs w config s) :
    (Run.run w config).value = (Run.withSettings w s).value := by
  obtain ⟨warnings, hvalidate⟩ := h
  simp only [Run.run, hvalidate, Noted.value_bind]

theorem reports_of_run (hcwd : isAbsolute w.workingDirectory = true) {config config' : Json.Value}
    (htree : ReadsAs w config { s with listForm := false })
    (hlist : ReadsAs w config' { s with listForm := true })
    (h : (Run.run w config).value = .ok (.found f) ∨ (Run.run w config').value = .ok (.found f)) :
    ∃ tree list, (Run.run w config).value = .ok (.found tree) ∧
      (Run.run w config').value = .ok (.found list) ∧ SameCounts tree list := by
  rw [run_of_readsAs htree, run_of_readsAs hlist] at h ⊢
  rcases h with h | h
  · exact reports_of_report hcwd h
  · exact reports_of_report hcwd h

/-- The two shapes are two renderings of one walk. Calls in tree form and in list form with the same
options, on caches with the same files, end with a result; they extract and complete the same files
in the same order, ask the filter the same, leave the same unresolved specifiers, add the same files
to the cache in the same order, and leave each file in the same stage. Without earlier results, the
list form is the depth-first post-order of the tree form, where a name is passed over if it has come
up, and has as many files as the tree form has different names. Of two runs from values that are
read as the same settings but for the shape, either both find something or none does; they have
walked and visited as many files as there are in the list form and as there are different names in
the tree form. -/
theorem shapes_render_one_walk (w : World) :
    (∀ o x, Context.ofOptions w o = .ok x → isAbsolute x.anchor = true →
      x.collaborators.Decisive → ∀ unresolved,
      (∀ a b : Cache, (∀ f, f ∈ a.results.keys ↔ f ∈ b.results.keys) →
        ∃ y z, perform w { o with shape := .tree } a unresolved = .ok y ∧
          perform w { o with shape := .list } b unresolved = .ok z ∧
          (∃ r, y.result = .ok r) ∧ (∃ r, z.result = .ok r) ∧ y.SameWalk a b z) ∧
      ∀ g g' : Graph, ∃ y z root list,
        perform w { o with shape := .tree } ⟨g, []⟩ unresolved = .ok y ∧
        perform w { o with shape := .list } ⟨g', []⟩ unresolved = .ok z ∧
        y.result = .ok root ∧ z.result = .ok (.list list) ∧
        let outline := y.state.graph.outline root
        outline.postOrder = list ∧ (distinct outline.names).length = list.length ∧
        y.Walks list.length ∧ z.Walks list.length) ∧
    (isAbsolute w.workingDirectory = true → ∀ (config config' : Json.Value) (s : Settings),
      ReadsAs w config { s with listForm := false } →
      ReadsAs w config' { s with listForm := true } → ∀ f,
      (Run.run w config).value = .ok (.found f) ∨ (Run.run w config').value = .ok (.found f) →
      ∃ tree list, (Run.run w config).value = .ok (.found tree) ∧
        (Run.run w config').value = .ok (.found list) ∧ SameCounts tree list) := by
  refine ⟨fun o x h hanchor hc unresolved => ⟨fun a b hkeys => ?_, fun g g' => ?_⟩,
    fun hcwd config config' s htree hlist f h => reports_of_run hcwd htree hlist h⟩
  · exact same_walk h hanchor hc hkeys unresolved .tree .list
  · obtain ⟨y, z, root, list, hy, hz, hroot, hlist, hrenders, hcount, hcount'⟩ :=
      tree_renders_list h hanchor hc g g' unresolved
    exact ⟨y, z, root, list, hy, hz, hroot, hlist, hrenders.postOrder, hrenders.length_names,
      hcount, hcount'⟩

def TwoFiles.settings : Settings := { Settings.default ['/'] with filename := ['f'] }

def TwoFiles.json (listForm : Bool) : Json.Value :=
  .obj [(Settings.Field.filename.key, .str ['f']), (Settings.Field.listForm.key, .bool listForm)]

theorem TwoFiles.readsAs_json (listForm : Bool) :
    ReadsAs world (json listForm) { settings with listForm := listForm } :=
  ⟨[], rfl⟩

theorem two_files_in_both_shapes :
    (∃ y z root list,
      perform TwoFiles.world (TwoFiles.options .tree ['/', 'f']) .empty [] = .ok y ∧
      perform TwoFiles.world (TwoFiles.options .list ['/', 'f']) .empty [] = .ok z ∧
      y.result = .ok root ∧ z.result = .ok (.list list) ∧ y.Walks list.length ∧
      z.Walks list.length) ∧
    ∃ tree list, (Run.run TwoFiles.world (TwoFiles.json false)).value = .ok (.found tree) ∧
      (Run.run TwoFiles.world (TwoFiles.json true)).value = .ok (.found list) ∧
      SameCounts tree list := by
  obtain ⟨hcalls, hruns⟩ := shapes_render_one_walk TwoFiles.world
  have hname : given (some ['/', 'f']) = some ['/', 'f'] := rfl
  constructor
  · obtain ⟨-, hempty⟩ := hcalls _ _ (TwoFiles.ofOptions_eq .tree hname) rfl
      (TwoFiles.decisive .tree ['/', 'f']) []
    obtain ⟨y, z, root, list, hy, hz, hroot, hlist, -, -, hcount, hcount'⟩ := hempty .empty .empty
    exact ⟨y, z, root, list, hy, hz, hroot, hlist, hcount, hcount'⟩
  · obtain ⟨f, hf⟩ : ∃ f, (Run.run TwoFiles.world (TwoFiles.json false)).value =
        .ok (.found f) := by
      have haccepted : (Context.ofOptions TwoFiles.world
          (Run.optionsOf TwoFiles.world TwoFiles.settings [])).isOk = true := by
        decide +kernel
      cases hoptions : Context.ofOptions TwoFiles.world
          (Run.optionsOf TwoFiles.world TwoFiles.settings []) with
      | error e => simp [hoptions, Except.isOk, Except.toBool] at haccepted
      | ok x =>
        obtain ⟨tree, -, htree, -⟩ := reports_of_settings rfl rfl rfl hoptions
        exact ⟨tree, (run_of_readsAs (TwoFiles.readsAs_json false)).trans htree⟩
    exact hruns rfl _ _ TwoFiles.settings
      (TwoFiles.readsAs_json false) (TwoFiles.readsAs_json true) f (Or.inl hf)

end ModuleGraph.Walk
