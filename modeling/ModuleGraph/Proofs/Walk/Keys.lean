import ModuleGraph.Proofs.Resolution.Found
import ModuleGraph.Proofs.Walk.Ending

/-! Keys of files. Seen from an absolute directory, the key of a file is absolute and its own normal
form, and two keys of one file differ at most in whether they begin with exactly two slashes. -/

namespace ModuleGraph

open ModuleGraph.Path

variable {p : Path}

theorem Path.ne_nil_of_mem_foldl_push {rooted : Bool} {parts inner : List Text}
    (hinner : ∀ n ∈ inner, n ≠ []) : ∀ n ∈ parts.foldl (push rooted) inner, n ≠ [] := by
  induction parts generalizing inner with
  | nil => exact hinner
  | cons part rest ih =>
    refine ih fun n hn => ?_
    by_cases hpart : part = []
    · rw [hpart, push_nil] at hn
      exact hinner n hn
    · rcases mem_of_mem_push hn with hn | rfl
      · exact hinner n hn
      · exact hpart

theorem Path.isAbsolute_normal_iff : isAbsolute (normal p) = true ↔ isAbsolute p = true := by
  refine ⟨fun h => ?_, isAbsolute_normal⟩
  by_contra hp
  have hrelative : isAbsolute p = false := Bool.eq_false_iff.mpr hp
  have hslashes : leadingSlashes p = [] := by
    unfold leadingSlashes
    split
    all_goals first | rfl | cases hrelative
  have hjoined : isAbsolute (Text.joined ['/'] ((components p).foldl (push false) []).reverse) =
      false := by
    refine isAbsolute_joined (fun n hn => ?_) fun n hn hs => ?_
    · exact ne_nil_of_mem_foldl_push (by simp) n (List.mem_reverse.mp hn)
    · rcases mem_of_mem_foldl_push (List.mem_reverse.mp hn) with hn | hn
      · cases hn
      · exact (Text.mem_of_mem_fields hn hs).2 rfl
  simp only [normal, hslashes, hrelative, List.nil_append] at h
  split at h
  · cases h
  · rw [hjoined] at h
    cases h

theorem Path.isAbsolute_join_iff {base : Path} :
    isAbsolute (join base p) = true ↔ isAbsolute base = true ∨ isAbsolute p = true := by
  unfold join
  split
  · next hp => simp [hp]
  · next hp =>
    rw [or_iff_left hp]
    cases base with
    | nil => simpa [isAbsolute] using hp
    | cons a rest => split <;> simp [isAbsolute]

namespace Walk

variable {w : World} {o : Options} {x : Context} {c : Collaborators} {shape : Shape}
  {cache : Cache} {s s₁ s' : State} {y : Outcome} {r : Ref} {paths stack : List Path}
  {results : List Ref} {P : Path → Prop}

def State.NewKeys (P : Path → Prop) (s s' : State) : Prop :=
  ∀ f ∈ s'.visited.results.keys, f ∈ s.visited.results.keys ∨ P f

namespace State.NewKeys

theorem trans (h : State.NewKeys P s s₁) (h' : State.NewKeys P s₁ s') :
    State.NewKeys P s s' :=
  fun f hf => (h' f hf).elim (h f) Or.inr

theorem of_put {path : Path} (hpath : P path) {stage : Stage} {r : Ref}
    (h : s'.visited = s.visited.put path stage r) : State.NewKeys P s s' := by
  intro f hf
  rw [h, Visited.results_put, Table.keys_set] at hf
  split at hf
  · exact Or.inl hf
  · rcases List.mem_append.mp hf with hf | hf
    · exact Or.inl hf
    · exact Or.inr (List.mem_singleton.mp hf ▸ hpath)

theorem entered {path : Path} (hpath : P path) (notes : List Log.Record) :
    State.NewKeys P s (s.entered c shape path notes) :=
  of_put hpath rfl

theorem left {path : Path} (hpath : P path) (deps : List (Path × Ref)) (provisional : Ref) :
    State.NewKeys P s (s.left shape path deps provisional) :=
  of_put hpath rfl

theorem walked (hdependencies : ∀ file, ∀ d ∈ c.dependencies file, P d)
    (h : Walked c shape s paths results s') (hpaths : ∀ p ∈ paths, P p) :
    State.NewKeys P s s' := by
  induction h with
  | done => exact fun f => Or.inl
  | known _ _ _ _ ih => exact ih (List.forall_mem_cons.mp hpaths).2
  | fresh _ _ _ _ ih₁ ih₂ =>
    obtain ⟨hpath, hrest⟩ := List.forall_mem_cons.mp hpaths
    have hinner := (entered hpath _).trans (ih₁ (hdependencies _))
    exact hinner.trans ((left hpath _ _).trans (ih₂ hrest))

theorem partway (hdependencies : ∀ file, ∀ d ∈ c.dependencies file, P d)
    (h : Partway c shape s paths stack s') (hpaths : ∀ p ∈ paths, P p) :
    State.NewKeys P s s' := by
  induction h with
  | here _ walked' =>
    have hbefore := walked hdependencies walked' fun p hp => hpaths p (List.mem_append_left _ hp)
    exact fun f hf => hbefore f hf
  | within _ walked' _ _ ih =>
    have hbefore := walked hdependencies walked' fun p hp => hpaths p (List.mem_append_left _ hp)
    have hpath := hpaths _ (List.mem_append_right _ List.mem_cons_self)
    exact hbefore.trans ((entered hpath _).trans (ih (hdependencies _)))

end State.NewKeys

/-- A path that a call may walk: something is there, and it is the entry path or the canonical path
of what the resolver finds. -/
structure Context.Walks (x : Context) (path : Path) : Prop where
  found : x.collaborators.Found path
  origin : path = x.filename ∨ ∃ specifier file target,
    (x.collaborators.resolve specifier file).value = .ok (some target) ∧
      path = x.collaborators.canonical target

namespace Context.Walks

variable {path : Path}

theorem of_mem_dependencies (hstable : x.collaborators.Stable) {file : Path}
    (h : path ∈ x.collaborators.dependencies file) : x.Walks path := by
  obtain ⟨specifier, -, target, hresolve, -, hpath, -⟩ :=
    Collaborators.mem_dependencies_iff_edge.mp h
  exact ⟨hstable.found h, Or.inr ⟨specifier, file, target, hresolve, hpath⟩⟩

theorem leadingSlashes_eq (h : x.Walks path) (hentry : leadingSlashes x.filename = ['/'])
    (hresolved : ∀ specifier file target,
      (x.collaborators.resolve specifier file).value = .ok (some target) →
        leadingSlashes (x.collaborators.canonical target) = ['/']) :
    leadingSlashes path = ['/'] := by
  rcases h.origin with rfl | ⟨specifier, file, target, hresolve, rfl⟩
  · exact hentry
  · exact hresolved specifier file target hresolve

end Context.Walks

theorem keys_of_perform (h : Context.ofOptions w o = .ok x) (hanchor : isAbsolute x.anchor = true)
    {unresolved : List Text} (hy : perform w o cache unresolved = .ok y) :
    ∀ f ∈ y.cache.results.keys, f ∈ cache.results.keys ∨ x.Walks f := by
  have hx := Context.fits h
  have hdependencies : ∀ file, ∀ d ∈ x.collaborators.decided.dependencies file, x.Walks d := by
    intro file d hd
    rw [Collaborators.decided_dependencies] at hd
    exact .of_mem_dependencies (hx.stable hanchor) hd
  intro f hf
  cases hpresent : w.pathExists x.filename with
  | false =>
    obtain ⟨-, hcache, -⟩ := outcome_of_absent h hpresent hy
    rw [hcache] at hf
    exact Or.inl hf
  | true =>
    have hentry : ∀ p ∈ [x.filename], x.Walks p :=
      List.forall_mem_singleton.mpr ⟨hx.found hanchor hpresent, Or.inl rfl⟩
    obtain ⟨y', hy', hcases⟩ :=
      perform_cases h hanchor x.collaborators.decides_decided hpresent cache unresolved
    obtain rfl := Except.ok.inj (hy'.symm.trans hy)
    have hnew : State.NewKeys x.Walks (cache.opened o x unresolved) y'.state := by
      rcases hcases with ⟨r, s₁, v, -, p⟩ | ⟨-, reason, stack, -, -, hpartway, -⟩
      · have hwalked := State.NewKeys.walked hdependencies p.walked hentry
        intro f hf
        rw [p.visited, p.settled.keys] at hf
        exact hwalked f hf
      · exact State.NewKeys.partway hdependencies hpartway hentry
    rw [← (cache.begins_opened o x unresolved).results]
    exact hnew f hf

theorem Context.exists_name (h : Context.ofOptions w o = .ok x) : ∃ name,
    o.filename = some name ∧ x.filename = w.canonical name (some x.anchor) := by
  have hrenamed := (Context.fits h).renamed o.filename
  cases hname : given o.filename with
  | none =>
    rw [hname] at hrenamed
    cases h.symm.trans hrenamed
  | some name =>
    rw [hname] at hrenamed
    have heq := Except.ok.inj (h.symm.trans hrenamed)
    exact ⟨name, (Option.filter_eq_some_iff.mp hname).1, congrArg Context.filename heq⟩

namespace Context.Fits

variable (hx : Context.Fits w o x)
include hx

theorem canonical_eq_normal (hcwd : isAbsolute w.workingDirectory = true) (p : Path) :
    w.canonical p (some x.anchor) = normal (join x.anchor p) := by
  cases hanchor : x.anchor with
  | cons a rest => rfl
  | nil =>
    -- an anchor that is given is not empty, and the working directory is not either
    have hanchor' := hx.anchor.symm.trans hanchor
    cases hgiven : given o.cwd with
    | none =>
      rw [hgiven, Option.getD_none] at hanchor'
      rw [hanchor'] at hcwd
      cases hcwd
    | some cwd =>
      rw [hgiven, Option.getD_some] at hanchor'
      have hne := (Option.filter_eq_some_iff.mp hgiven).2
      simp [hanchor'] at hne

theorem canonical_filename (hcwd : isAbsolute w.workingDirectory = true)
    (habs : isAbsolute x.filename = true) : x.collaborators.canonical x.filename = x.filename := by
  obtain ⟨name, hname⟩ := hx.filename
  have hfilename := hname.trans (hx.canonical_eq_normal hcwd name)
  have hjoin : isAbsolute (join x.anchor name) = true :=
    isAbsolute_normal_iff.mp (hfilename ▸ habs)
  simp only [hx.canonical, World.canonical_of_isAbsolute habs]
  rw [hfilename, normal_normal hjoin]

end Context.Fits

/-- The entry path is absolute if it is given so or is seen from an absolute directory, and it is
then its own canonical path. In a call that sees its paths from an absolute directory, the list of
an entry file that the cache does not have ends with the entry path, and the keys that the call adds
are absolute and their own canonical paths. Two of them that lead to the same place are equal,
unless one begins with exactly two slashes and the other does not; and none does if neither the
entry path nor what the resolver finds does so. -/
theorem each_file_has_one_key (hcwd : isAbsolute w.workingDirectory = true)
    (h : Context.ofOptions w o = .ok x) :
    let canonical := x.collaborators.canonical
    ∃ name, o.filename = some name ∧
      (isAbsolute x.filename = true ↔ isAbsolute x.anchor = true ∨ isAbsolute name = true) ∧
      (isAbsolute x.filename = true → canonical x.filename = x.filename) ∧
      (isAbsolute x.anchor = true → ∀ cache unresolved, ∃ y,
        perform w o cache unresolved = .ok y ∧
        (x.collaborators.Decisive → ∃ r, y.result = .ok r) ∧
        (o.shape = .list → w.pathExists x.filename = true →
          x.filename ∉ cache.results.keys → ∀ r, y.result = .ok r →
          ∃ list, r = .list list ∧ EndsWith x.filename list) ∧
        let new := fun f => f ∈ y.cache.results.keys ∧ f ∉ cache.results.keys
        ∀ a, new a → isAbsolute a = true ∧ canonical a = a ∧
          (leadingSlashes x.filename = ['/'] →
            (∀ specifier file path,
              (x.collaborators.resolve specifier file).value = .ok (some path) →
                leadingSlashes (canonical path) = ['/']) → leadingSlashes a = ['/']) ∧
          ∀ b, new b → leadingSlashes a = leadingSlashes b → ∀ loc e e',
            w.files.lookup a = .ok (loc, e) → w.files.lookup b = .ok (loc, e') → a = b) := by
  intro canonical
  have hx := Context.fits h
  obtain ⟨name, hname, hfilename⟩ := Context.exists_name h
  have hnormal := hfilename.trans (hx.canonical_eq_normal hcwd name)
  refine ⟨name, hname, ?_, hx.canonical_filename hcwd, fun hanchor cache unresolved => ?_⟩
  · rw [hnormal, isAbsolute_normal_iff, isAbsolute_join_iff]
  obtain ⟨s, -, -, hperform⟩ := perform_eq h cache unresolved
  refine ⟨_, hperform, fun hc => exists_result_of_decisive h hanchor hc hperform,
    fun hlist hpresent hnew r hr =>
      endsWith_of_perform h hlist hanchor hpresent hperform hr hnew, ?_⟩
  have hkeys := keys_of_perform h hanchor hperform
  rintro new a ⟨ha, hnewa⟩
  have hpath := (hkeys a ha).resolve_left hnewa
  obtain ⟨habs, -, hself⟩ := hx.present_of_found hanchor hpath.found
  refine ⟨habs, hpath.found.2, hpath.leadingSlashes_eq, ?_⟩
  rintro b ⟨hb, hnewb⟩ hsame loc e e' hla hlb
  have hpath' := (hkeys b hb).resolve_left hnewb
  obtain ⟨habs', -, hself'⟩ := hx.present_of_found hanchor hpath'.found
  exact World.eq_of_lookup habs habs' hself hself' hla hlb hsame

theorem two_files_have_own_keys : ∃ y list,
    perform TwoFiles.world (TwoFiles.options .list ['.', '/', '/', 'f']) .empty [] =
      .ok y ∧ y.result = .ok (.list list) ∧ EndsWith ['/', 'f'] list ∧
    ∀ a ∈ y.cache.results.keys, leadingSlashes a = ['/'] := by
  have hgiven : given (some ['.', '/', '/', 'f']) = some ['.', '/', '/', 'f'] := rfl
  obtain ⟨name, hname, -, -, hcalls⟩ :=
    each_file_has_one_key rfl (TwoFiles.ofOptions_eq .list hgiven)
  obtain ⟨y, hy, hends, hlist, hkeys⟩ := hcalls rfl .empty []
  obtain ⟨r, hr⟩ := hends (TwoFiles.decisive .list ['.', '/', '/', 'f'])
  have hentry : (TwoFiles.context .list ['.', '/', '/', 'f']).filename = ['/', 'f'] := by
    decide +kernel
  have hresolved : ∀ specifier file path,
      ((TwoFiles.context .list ['.', '/', '/', 'f']).collaborators.resolve
        specifier file).value = .ok (some path) →
      leadingSlashes (TwoFiles.world.canonical path (some ['/'])) = ['/'] := by
    intro specifier file path hpath
    have hpath' : (if specifier = ['f'] then ['/', 'f'] else ['/', 'd']) = path :=
      Option.some.inj (Except.ok.inj hpath)
    rw [← hpath']
    split
    · decide +kernel
    · decide +kernel
  obtain ⟨list, rfl, hlist⟩ := hlist rfl (by decide +kernel) List.not_mem_nil r hr
  refine ⟨y, list, hy, hr, hentry ▸ hlist, fun a ha => ?_⟩
  obtain ⟨-, -, hslash, -⟩ := hkeys a ⟨ha, List.not_mem_nil⟩
  exact hslash (by rw [hentry]; rfl) hresolved

namespace BelowDirectory

def world : World where
  files := ⟨[([['d']], .directory), ([['f'], ['d']], .file [])]⟩
  workingDirectory := ['/']
  environment := .empty
  nesting := 100
  isCharacterName _ := false

def options : Options :=
  { TwoFiles.options .list ['f'] with cwd := some ['d'] }

end BelowDirectory

/-- Seen from a relative directory, the entry path is not absolute, and the walk looks for it below
the directory once more. The list of a file that is there is empty. -/
theorem entry_below_relative_directory_not_walked : ∃ x y,
    Context.ofOptions BelowDirectory.world BelowDirectory.options = .ok x ∧
    BelowDirectory.world.pathExists x.filename = true ∧ isAbsolute x.filename = false ∧
    x.collaborators.canonical x.filename ≠ x.filename ∧
    perform BelowDirectory.world BelowDirectory.options .empty [] = .ok y ∧
    y.result = .ok (.list []) := by
  have hcomputed : (perform BelowDirectory.world BelowDirectory.options .empty []).map
      Outcome.result = .ok (.ok (.list [])) := by
    decide +kernel
  obtain ⟨y, hy, hresult⟩ := exists_outcome hcomputed
  exact ⟨_, y, rfl, by decide +kernel, by decide +kernel, by decide +kernel, hy, hresult⟩

/-- One file with two keys: with one leading slash and with two. -/
theorem file_has_key_with_two_slashes :
    let o := { TwoFiles.options .list ['/', 'f'] with
      resolver := .function fun _ _ _ => pure (.ok (some ['/', '/', 'f'])) }
    ∃ y, perform TwoFiles.world o .empty [] = .ok y ∧
      y.cache.results.keys = [['/', 'f'], ['/', '/', 'f']] ∧
      TwoFiles.world.files.lookup ['/', 'f'] = TwoFiles.world.files.lookup ['/', '/', 'f'] := by
  intro o
  have hcomputed : (perform TwoFiles.world o .empty []).map (·.cache.results.keys) =
      .ok [['/', 'f'], ['/', '/', 'f']] := by
    decide +kernel
  obtain ⟨y, hy, hkeys⟩ := exists_outcome hcomputed
  exact ⟨y, hy, hkeys, by decide +kernel⟩

end Walk
end ModuleGraph
