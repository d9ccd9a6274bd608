import ModuleGraph.CommandLine.Call
import ModuleGraph.Proofs.Path.Expansion
import ModuleGraph.Proofs.Settings.Validation
import ModuleGraph.Proofs.Walk.Reports

/-! The base directory of runs that are not told any. It is the working directory, but on its way
to the walk it is read like a directory that a user has written: blanks at its end are taken off,
and variables are filled in. The two leave it as it is in every environment if there is nothing for
them to do, and only then. -/

namespace ModuleGraph.Run

open ModuleGraph.Path (isAbsolute normal)
open Settings (Field)
open Walk (ReadsAs)

variable {w : World} {s : Settings} {wd : Path} {config : Json.Value} {rc : Json.Object}

/-- A value that leaves the base directory to its default: it says nothing of the directory,
nothing that can be read as one, or the working directory itself. -/
def LeavesDirectory (wd : Path) (config : Json.Value) : Prop :=
  ∀ o t, config = .obj o → Table.get? o Field.directory.key = some (.str t) →
    Text.trim t = [] ∨ t = wd

theorem directory_of_asText {v : Json.Value} {c : Settings.Coerced Text}
    (h : Settings.asText false .directory wd v = .ok c)
    (hv : ∀ t, v = .str t → Text.trim t = [] ∨ t = wd) : c.value = wd ∨ c.value = Text.trim wd := by
  cases v with
  | str t =>
    obtain rfl := Except.ok.inj h
    dsimp only
    split
    · exact Or.inl rfl
    · next hne =>
      rcases hv t rfl with hblank | rfl
      · exact absurd (by rw [hblank]; rfl) hne
      · exact Or.inr rfl
  | null | bool | int | float | arr | obj =>
    obtain rfl := Except.ok.inj h
    exact Or.inl rfl

theorem directory_of_readsAs (h : ReadsAs w config s)
    (hleaves : LeavesDirectory w.workingDirectory config) :
    s.directory = w.workingDirectory ∨ s.directory = Text.trim w.workingDirectory := by
  obtain ⟨warnings, hvalidate⟩ := h
  by_cases hobj : ∃ o, config = .obj o
  · obtain ⟨o, rfl⟩ := hobj
    obtain ⟨r, hr, hs⟩ := Settings.validate_obj_eq_ok_iff.mp hvalidate
    obtain ⟨rfl, -⟩ := Settings.Coerced.mk.inj hs
    refine directory_of_asText hr.directory fun t ht => ?_
    rw [Settings.given] at ht
    cases hvalue : Table.get? o Field.directory.key with
    | none =>
      rw [hvalue] at ht
      exact Or.inr (Json.Value.str.inj ht).symm
    | some v =>
      rw [hvalue, Option.getD_some] at ht
      exact hleaves o t rfl (ht ▸ hvalue)
  · rw [Settings.validate_of_not_obj (not_exists.mp hobj)] at hvalidate
    obtain ⟨rfl, -⟩ := Settings.Coerced.mk.inj (Except.ok.inj hvalidate)
    exact Or.inl rfl

theorem get?_merged {base overrides : Json.Object} {key : Text}
    (h : ∀ v, (key, v) ∈ overrides → v = .null) :
    Table.get? (CommandLine.Arguments.merged base overrides) key = Table.get? base key := by
  refine Table.get?_update_of_not_mem_keys fun hmem => ?_
  obtain ⟨⟨k, v⟩, hm, rfl⟩ := List.mem_map.mp hmem
  obtain ⟨hm, hkept⟩ := List.mem_filter.mp hm
  obtain rfl := h v hm
  cases hkept

theorem directory_of_mem_overrides {a : CommandLine.Arguments} {v : Json.Value}
    (h : (Field.directory.key, v) ∈ a.overrides) : v = a.directory.toJson := by
  have hkey : ∀ f : Field, Field.directory.key = f.key → f = .directory := by
    intro f
    cases f <;> decide
  have hwhen : ∀ {b f v'}, (Field.directory.key, v) ∈ CommandLine.Arguments.when b f v' →
      f = .directory := by
    intro b f v' hmem
    unfold CommandLine.Arguments.when at hmem
    split at hmem
    · exact hkey f (Prod.mk.inj (List.mem_singleton.mp hmem)).1
    · cases hmem
  unfold CommandLine.Arguments.overrides at h
  simp only [List.mem_append] at h
  rcases h with ((((h | h) | h) | h) | h) | h
  · simp only [List.mem_cons, List.not_mem_nil, or_false, Prod.mk.injEq] at h
    obtain ⟨h, -⟩ | ⟨-, h⟩ | ⟨h, -⟩ := h
    · cases hkey _ h
    · exact h
    · cases hkey _ h
  · cases hwhen h
  · split at h
    · cases hkey _ (Prod.mk.inj (List.mem_singleton.mp h)).1
    · cases h
  · cases hwhen h
  · cases hwhen h
  · cases hwhen h

theorem leavesDirectory_settingsOf {a : CommandLine.Arguments} (h : a.directory = .missing) :
    LeavesDirectory w.workingDirectory (.obj (CommandLine.settingsOf w a)) := by
  rintro o t ⟨⟩ ht
  have hunsaid : ∀ v, (Field.directory.key, v) ∈ a.overrides → v = .null := fun v hv => by
    rw [directory_of_mem_overrides hv, h]
    rfl
  rw [CommandLine.settingsOf, get?_merged hunsaid, Settings.get?_toObject] at ht
  exact Or.inr (Json.Value.str.inj (Option.some.inj ht)).symm

/-- The walk with the settings is made. It starts from their file as seen from the working
directory, and hands the base directory to the resolver. -/
def WalksFrom (w : World) (s : Settings) (rc : Json.Object) (base : Path) : Prop :=
  ∃ y, Walk.perform w (optionsOf w s rc) .empty [] = .ok y ∧
    y.context.directory = base ∧
    y.context.filename = Path.canonical w.workingDirectory s.filename ∧
    ∀ specifier file, y.context.collaborators.resolve specifier file =
      Walk.Options.bundledResolver w rc specifier file base

theorem WalksFrom.unique {base base' : Path} (h : WalksFrom w s rc base)
    (h' : WalksFrom w s rc base') : base = base' := by
  obtain ⟨y, hy, rfl, -⟩ := h
  obtain ⟨y', hy', rfl, -⟩ := h'
  rw [Except.ok.inj (hy.symm.trans hy')]

theorem filename_of_perform {y : Walk.Outcome}
    (h : Walk.perform w (optionsOf w s rc) .empty [] = .ok y) : s.filename ≠ [] := by
  intro hnil
  have hrejected : Walk.Context.ofOptions w (optionsOf w s rc) = .error .noFilename := by
    simp [Walk.Context.ofOptions, Walk.given, optionsOf, hnil]
  rw [Walk.perform_of_rejected hrejected] at h
  cases h

theorem ofOptions_of_settings (hdirectory : isAbsolute s.directory = true)
    (hfilename : s.filename ≠ []) (rc : Json.Object) :
    ∃ x, Walk.Context.ofOptions w (optionsOf w s rc) = .ok x ∧
      x.directory = w.canonical (w.userDirectory s.directory Path.here) (some w.workingDirectory) ∧
      x.filename = w.canonical s.filename (some w.workingDirectory) := by
  have hgiven : Walk.given (optionsOf w s rc).filename = some s.filename := by
    have hne : s.filename.isEmpty = false := by simpa using hfilename
    simp [Walk.given, optionsOf, hne]
  have hgiven' : Walk.given (optionsOf w s rc).directory =
      some (w.userDirectory s.directory Path.here) := by
    have hne := Path.isEmpty_of_isAbsolute hdirectory
    have hne' := Path.isEmpty_of_isAbsolute (World.isAbsolute_userDirectory hdirectory w Path.here)
    simp [Walk.given, optionsOf, hne, hne']
  unfold Walk.Context.ofOptions
  simp only [hgiven, hgiven', Option.some_or]
  cases hfilter : Exclusion.filter? s.excludePatterns with
  | none =>
    simp only [optionsOf, hfilter]
    exact ⟨_, rfl, rfl, rfl⟩
  | some keeps =>
    simp only [optionsOf, hfilter]
    exact ⟨_, rfl, rfl, rfl⟩

theorem walksFrom_of_isAbsolute (hdirectory : isAbsolute s.directory = true)
    (hcwd : isAbsolute w.workingDirectory = true) (hfilename : s.filename ≠ [])
    (rc : Json.Object) :
    WalksFrom w s rc (normal (normal (w.expandVariables (Text.trim s.directory)))) := by
  obtain ⟨x, hx, hxdirectory, hxfilename⟩ := ofOptions_of_settings (w := w) hdirectory hfilename rc
  obtain ⟨state, -, -, hperform⟩ := Walk.perform_eq hx .empty []
  have hcanonical : ∀ p, w.canonical p (some w.workingDirectory) =
      Path.canonical w.workingDirectory p := by
    intro p
    cases hcase : w.workingDirectory with
    | nil => rw [hcase] at hcwd; cases hcwd
    | cons c rest => rfl
  have hbase : x.directory = normal (normal (w.expandVariables (Text.trim s.directory))) := by
    rw [hxdirectory, hcanonical, Path.canonical,
      Path.join_of_isAbsolute _ (World.isAbsolute_userDirectory hdirectory w Path.here),
      World.userDirectory_of_isAbsolute hdirectory]
  refine ⟨_, hperform, hbase, hxfilename.trans (hcanonical _), fun specifier file => ?_⟩
  have hresolve := congrFun (congrFun ((Walk.Context.fits hx).resolve rfl) specifier) file
  rwa [hbase] at hresolve

/-- A run from the value works with a base directory. The value is read as settings; if they name a
file, the walk is made from that directory; and whatever is reported, it is reported with that
directory, and with the file as seen from the working directory. -/
structure BasedOn (w : World) (config : Json.Value) (s : Settings) (base : Path) : Prop where
  reads : ReadsAs w config s
  walks : s.filename ≠ [] → ∀ rc, WalksFrom w s rc base
  report : ∀ r, (run w config).value = .ok r →
    Table.get? r.toObject Field.directory.key = some (.str base)
  entry : ∀ f, (run w config).value = .ok (.found f) →
    f.filename = Path.canonical w.workingDirectory s.filename

theorem basedOn_of_directory (hreads : ReadsAs w config s)
    (habsolute : isAbsolute w.workingDirectory = true)
    (hdirectory : s.directory = w.workingDirectory)
    (hfull : normal (normal (w.expandVariables (Text.trim w.workingDirectory))) =
      w.workingDirectory) :
    BasedOn w config s w.workingDirectory := by
  have hwalks : s.filename ≠ [] → ∀ rc, WalksFrom w s rc w.workingDirectory := by
    intro hfilename rc
    have h := walksFrom_of_isAbsolute (hdirectory ▸ habsolute) habsolute hfilename rc
    rwa [hdirectory, hfull] at h
  have hfound : ∀ f, (withSettings w s).value = .ok (.found f) →
      f.directory = w.workingDirectory ∧
        f.filename = Path.canonical w.workingDirectory s.filename := by
    intro f hf
    obtain ⟨rc, y, r, -, -, hy, -, hreports⟩ := Walk.performed_of_report hf
    obtain ⟨y', hy', hbase, hentry, -⟩ := hwalks (filename_of_perform hy) rc
    obtain rfl := Except.ok.inj (hy'.symm.trans hy)
    exact ⟨hreports.directory.trans hbase, hreports.filename.trans hentry⟩
  have hrun := Walk.run_of_readsAs hreads
  refine ⟨hreads, hwalks, fun r hr => ?_, fun f hf => (hfound f (hrun ▸ hf)).2⟩
  rw [hrun] at hr
  rcases Walk.report_cases hr with ⟨reason, shape, rfl⟩ | ⟨f, -, -, -, rfl, -⟩
  · rw [← hdirectory]
    rfl
  · rw [← (hfound f hr).1]
    rfl

def naming (filename : Text) : Json.Value := .obj [(Field.filename.key, .str filename)]

theorem leavesDirectory_naming (wd : Path) (filename : Text) :
    LeavesDirectory wd (naming filename) := by
  rintro o t ⟨⟩ ht
  cases ht

def settingsNaming (wd : Path) (filename : Text) : Settings :=
  { Settings.default wd with filename := filename }

theorem settings_of_naming {filename : Text} (h : ReadsAs w (naming filename) s)
    (habsolute : isAbsolute w.workingDirectory = true) :
    s = settingsNaming (Text.trim w.workingDirectory) (Text.trim filename) := by
  obtain ⟨warnings, hs⟩ := h
  have hread : Settings.validate w.workingDirectory false (naming filename) =
      .ok ⟨settingsNaming (if (Text.trim w.workingDirectory).isEmpty then w.workingDirectory
        else Text.trim w.workingDirectory)
        (if (Text.trim filename).isEmpty then [] else Text.trim filename), []⟩ := rfl
  have hname : (if (Text.trim filename).isEmpty then [] else Text.trim filename) =
      Text.trim filename := by
    cases Text.trim filename <;> rfl
  have hempty := Path.isEmpty_of_isAbsolute (World.isAbsolute_trim habsolute)
  obtain ⟨rfl, -⟩ := Settings.Coerced.mk.inj (Except.ok.inj (hs.symm.trans hread))
  rw [hname, hempty, if_neg Bool.false_ne_true]

theorem withSettings_of_no_file (hdirectory : isAbsolute wd = true) :
    (withSettings w (settingsNaming wd [])).value =
      .ok (.rejected Walk.Options.Fault.noFilename.message [] wd .tree) := by
  have hconfig : (resolverConfigOf w (settingsNaming wd [])).value = .ok [] := rfl
  have hnone : escaping? (settingsNaming wd []) = none := by
    have huser : World.refusesUser (settingsNaming wd []).directory Path.here = false :=
      World.refusesUser_of_isAbsolute hdirectory Path.here
    rw [escaping?, huser]
    rfl
  unfold withSettings
  rw [Noted.value_bind, hconfig]
  dsimp only
  rw [hnone]
  rfl

/-- In a world, the default is used as it is exactly if reading it as a user's directory does not
change it. -/
theorem default_kept_iff (habsolute : isAbsolute w.workingDirectory = true) :
    (∀ config, LeavesDirectory w.workingDirectory config →
      ∃ s, BasedOn w config s w.workingDirectory) ↔
    Text.trim w.workingDirectory = w.workingDirectory ∧
      normal (normal (w.expandVariables w.workingDirectory)) = w.workingDirectory := by
  constructor
  · intro h
    have htrim : Text.trim w.workingDirectory = w.workingDirectory := by
      -- a run without a file reports the directory as the settings have it
      obtain ⟨s, hbased⟩ := h _ (leavesDirectory_naming w.workingDirectory [])
      obtain rfl := settings_of_naming hbased.reads habsolute
      have hreport := hbased.report _ ((Walk.run_of_readsAs hbased.reads).trans
        (withSettings_of_no_file (World.isAbsolute_trim habsolute)))
      exact Json.Value.str.inj (Option.some.inj hreport)
    obtain ⟨s, hbased⟩ := h _ (leavesDirectory_naming w.workingDirectory ['a'])
    obtain rfl := settings_of_naming hbased.reads habsolute
    have hread := walksFrom_of_isAbsolute
      (s := settingsNaming (Text.trim w.workingDirectory) ['a'])
      (World.isAbsolute_trim habsolute) habsolute (List.cons_ne_nil _ _) []
    have hbase := hread.unique (hbased.walks (List.cons_ne_nil _ _) [])
    rw [show (settingsNaming (Text.trim w.workingDirectory) ['a']).directory =
      Text.trim w.workingDirectory from rfl, htrim, htrim] at hbase
    exact ⟨htrim, hbase⟩
  · rintro ⟨htrim, hfull⟩ config hleaves
    obtain ⟨⟨s, warnings⟩, hs⟩ := Settings.exists_validate w.workingDirectory config
    have hreads : ReadsAs w config s := ⟨warnings, hs⟩
    refine ⟨s, basedOn_of_directory hreads habsolute ?_ (htrim.symm ▸ hfull)⟩
    rcases directory_of_readsAs hreads hleaves with h | h
    · exact h
    · exact h.trans htrim

/-- In all environments it is used as it is if there is nothing in it to take off or to fill in. -/
theorem default_kept_everywhere_iff (habsolute : isAbsolute wd = true) (hnormal : normal wd = wd) :
    (∀ w : World, w.workingDirectory = wd → ∀ config, LeavesDirectory wd config →
      ∃ s, BasedOn w config s wd) ↔
    Text.trim wd = wd ∧ World.NamesNoVariable wd := by
  constructor
  · intro h
    let world (environment : Environment) : World := ⟨.empty, wd, environment, 0, fun _ => false⟩
    have hkept : ∀ environment, Text.trim wd = wd ∧
        normal (normal ((world environment).expandVariables wd)) = wd :=
      fun environment => (default_kept_iff (w := world environment) habsolute).mp (h _ rfl)
    refine ⟨(hkept .empty).1, fun name hname => Classical.or_iff_not_imp_left.mpr fun heq => ?_⟩
    refine Classical.not_not.mp fun hnul => ?_
    -- the variable can be set, also to the empty text
    let environment : Environment :=
      ⟨[(name, [])], List.forall_mem_singleton.mpr ⟨heq, hnul, nofun⟩⟩
    have hexpanded : isAbsolute ((world environment).expandVariables wd) = true :=
      World.isAbsolute_expandFrom habsolute
    refine Nat.lt_irrefl wd.length ?_
    calc wd.length
        = (normal (normal ((world environment).expandVariables wd))).length := by
          rw [(hkept environment).2]
      _ ≤ (normal ((world environment).expandVariables wd)).length :=
          Path.length_normal_le (Path.isAbsolute_normal hexpanded)
      _ ≤ ((world environment).expandVariables wd).length := Path.length_normal_le hexpanded
      _ < wd.length := hname.length_expandFrom_lt rfl (Nat.le_refl _)
  · rintro ⟨htrim, hliteral⟩ w rfl
    refine (default_kept_iff habsolute).mpr ⟨htrim, ?_⟩
    rw [World.expandVariables, (hliteral.namesNothingSet w).expandFrom_eq, hnormal, hnormal]

/-- The base directory of a run whose settings leave it to its default. It is the working directory,
as it is, if there is no blank at its end and no variable in it that is set. For a working directory
in which nothing can be taken off or filled in it is so in every environment, and only for such a
one. A call without the flag leaves the directory to its default. -/
theorem default_directory_is_base (habsolute : isAbsolute wd = true) (hnormal : normal wd = wd) :
    (∀ w : World, w.workingDirectory = wd → Text.trim wd = wd → w.NamesNothingSet wd →
      ∀ config, LeavesDirectory wd config → ∃ s, BasedOn w config s wd) ∧
    ((∀ w : World, w.workingDirectory = wd → ∀ config, LeavesDirectory wd config →
      ∃ s, BasedOn w config s wd) ↔
        Text.trim wd = wd ∧ World.NamesNoVariable wd) ∧
    ∀ (w : World) a, w.workingDirectory = wd → a.directory = .missing →
      LeavesDirectory wd (.obj (CommandLine.settingsOf w a)) := by
  refine ⟨?_, default_kept_everywhere_iff habsolute hnormal, ?_⟩
  · rintro w rfl htrim hunset
    refine (default_kept_iff habsolute).mpr ⟨htrim, ?_⟩
    rw [World.expandVariables, hunset.expandFrom_eq, hnormal, hnormal]
  · rintro w a rfl h
    exact leavesDirectory_settingsOf h

def peculiar : World where
  files := .empty
  workingDirectory := "/$ ~".toList
  environment := ⟨[("HOME".toList, "/h".toList)], by decide⟩
  nesting := 100
  isCharacterName _ := false

theorem peculiar_directory_is_base : ∃ s,
    BasedOn peculiar (.obj (CommandLine.settingsOf peculiar
      { CommandLine.Arguments.none with filename := ['a'] })) s "/$ ~".toList := by
  have habsolute : isAbsolute "/$ ~".toList = true := by decide
  have hnormal : normal "/$ ~".toList = "/$ ~".toList := by decide
  obtain ⟨-, hkept, hcall⟩ := default_directory_is_base habsolute hnormal
  have hliteral : World.NamesNoVariable "/$ ~".toList := by
    intro name hname
    -- no name begins at the dollar sign, and there is no other
    obtain ⟨⟩ | ⟨⟩ | ⟨-, hdollar⟩ := hname
    obtain ⟨⟨⟩⟩ | ⟨⟨⟩⟩ | ⟨-, hblank⟩ := hdollar
    obtain ⟨⟩ | ⟨⟩ | ⟨-, htilde⟩ := hblank
    obtain ⟨⟩ | ⟨⟩ | ⟨-, ⟨⟩⟩ := htilde
  exact hkept.mpr ⟨by decide, hliteral⟩ peculiar rfl _ (hcall peculiar _ rfl rfl)

/-- A working directory that has the name of a variable in its own. -/
def misleading : World where
  files := ⟨[(["p".toList], .directory), (["$HOME".toList, "p".toList], .directory),
    (["a.js".toList, "$HOME".toList, "p".toList], .file [])]⟩
  workingDirectory := "/p/$HOME".toList
  environment := ⟨[("HOME".toList, "/home/u".toList)], by decide⟩
  nesting := 100
  isCharacterName _ := false

theorem misleading_directory_filled_in :
    LeavesDirectory misleading.workingDirectory (naming "a.js".toList) ∧
      (∃ f, (run misleading (naming "a.js".toList)).value = .ok (.found f) ∧
        f.filename = "/p/$HOME/a.js".toList ∧ f.directory = "/p/home/u".toList) ∧
      ¬ ∃ s, BasedOn misleading (naming "a.js".toList) s misleading.workingDirectory := by
  have hran : (run misleading (naming "a.js".toList)).value.toOption.bind (fun
      | .found f => some (f.filename, f.directory)
      | .rejected .. => none) = some ("/p/$HOME/a.js".toList, "/p/home/u".toList) := by
    decide +kernel
  have hreport : ∃ f, (run misleading (naming "a.js".toList)).value = .ok (.found f) ∧
      f.filename = "/p/$HOME/a.js".toList ∧ f.directory = "/p/home/u".toList := by
    cases hrun : (run misleading (naming "a.js".toList)).value with
    | error fault =>
      rw [hrun] at hran
      cases hran
    | ok report =>
      rw [hrun] at hran
      cases report with
      | rejected => cases hran
      | found f =>
        obtain ⟨hfilename, hdirectory⟩ := Prod.mk.inj (Option.some.inj hran)
        exact ⟨f, rfl, hfilename, hdirectory⟩
  refine ⟨leavesDirectory_naming _ _, hreport, ?_⟩
  rintro ⟨s, hbased⟩
  obtain ⟨f, hf, -, hdirectory⟩ := hreport
  have hkept := Json.Value.str.inj (Option.some.inj (hbased.report _ hf))
  rw [show f.directory = _ from hdirectory] at hkept
  revert hkept
  decide

end ModuleGraph.Run
