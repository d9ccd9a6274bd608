import ModuleGraph.Proofs.Settings.Coercion

/-! Settings read as a whole, strictly and leniently. The nine fields are read one by one; what the
two readings of each field have in common, the readings of all settings have. What the lenient
reading gives is of the right kinds, and reading it again changes nothing. -/

namespace ModuleGraph.Settings

open Json (Value)

variable {strict : Bool} {wd : Text} {o : Json.Object} {config : Value}

def known : List Text := Field.all.map Field.key

structure Readings where
  filename : Coerced Text
  directory : Coerced Text
  resolverConfigPath : Coerced Text
  listForm : Coerced Bool
  includeCore : Coerced Bool
  skipLoaderPlugins : Coerced Bool
  showNonExistent : Coerced Bool
  excludePatterns : Coerced (List Text)
  resolverConfig : Coerced Json.Object

namespace Readings

def warnings (r : Readings) : List Warning :=
  r.filename.warnings ++ r.directory.warnings ++ r.resolverConfigPath.warnings
    ++ r.listForm.warnings ++ r.includeCore.warnings ++ r.skipLoaderPlugins.warnings
    ++ r.showNonExistent.warnings ++ r.excludePatterns.warnings ++ r.resolverConfig.warnings

def settings (r : Readings) (o : Json.Object) : Settings where
  filename := r.filename.value
  directory := r.directory.value
  listForm := r.listForm.value
  excludePatterns := r.excludePatterns.value
  includeCore := r.includeCore.value
  skipLoaderPlugins := r.skipLoaderPlugins.value
  resolverConfig := r.resolverConfig.value
  resolverConfigPath := r.resolverConfigPath.value
  showNonExistent := r.showNonExistent.value
  others := o.filter fun m => !known.contains m.1

/-- Each field of the object is read as the readings say. -/
structure Of (wd : Text) (strict : Bool) (o : Json.Object) (r : Readings) : Prop where
  filename : asText strict .filename [] (given (default wd) o .filename) = .ok r.filename
  directory : asText strict .directory wd (given (default wd) o .directory) = .ok r.directory
  resolverConfigPath : asText strict .resolverConfigPath []
    (given (default wd) o .resolverConfigPath) = .ok r.resolverConfigPath
  listForm : asBool strict .listForm false (given (default wd) o .listForm) = .ok r.listForm
  includeCore :
    asBool strict .includeCore false (given (default wd) o .includeCore) = .ok r.includeCore
  skipLoaderPlugins : asBool strict .skipLoaderPlugins true
    (given (default wd) o .skipLoaderPlugins) = .ok r.skipLoaderPlugins
  showNonExistent : asBool strict .showNonExistent false
    (given (default wd) o .showNonExistent) = .ok r.showNonExistent
  excludePatterns : asTexts strict .excludePatterns
    (given (default wd) o .excludePatterns) = .ok r.excludePatterns
  resolverConfig : asObject strict .resolverConfig
    (given (default wd) o .resolverConfig) = .ok r.resolverConfig

end Readings

theorem bind_eq_ok_iff {ε α β : Type} {x : Except ε α} {f : α → Except ε β} {b : β} :
    x >>= f = .ok b ↔ ∃ a, x = .ok a ∧ f a = .ok b := by
  cases x with
  | error e => simp [bind, Except.bind]
  | ok a => simp [bind, Except.bind]

theorem validate_obj_eq_ok_iff {c : Coerced Settings} :
    validate wd strict (.obj o) = .ok c ↔
      ∃ r : Readings, r.Of wd strict o ∧ c = ⟨r.settings o, r.warnings⟩ := by
  unfold validate
  simp only [bind_eq_ok_iff]
  constructor
  · rintro ⟨a1, h1, a2, h2, a3, h3, a4, h4, a5, h5, a6, h6, a7, h7, a8, h8, a9, h9, hc⟩
    obtain rfl := Except.ok.inj hc
    exact ⟨⟨a1, a2, a3, a4, a5, a6, a7, a8, a9⟩, ⟨h1, h2, h3, h4, h5, h6, h7, h8, h9⟩, rfl⟩
  · rintro ⟨r, hr, rfl⟩
    exact ⟨_, hr.filename, _, hr.directory, _, hr.resolverConfigPath, _, hr.listForm, _,
      hr.includeCore, _, hr.skipLoaderPlugins, _, hr.showNonExistent, _, hr.excludePatterns, _,
      hr.resolverConfig, rfl⟩

theorem validate_of_not_obj (h : ∀ o, config ≠ .obj o) (wd : Text) (strict : Bool) :
    validate wd strict config =
      complain strict (.notAnObject config.kindName) (default wd) "Using defaults." := by
  cases config with
  | obj o => exact absurd rfl (h o)
  | null | bool | int | float | str | arr => rfl

namespace Readings

theorem exists_of (wd : Text) (o : Json.Object) : ∃ r : Readings, r.Of wd false o := by
  obtain ⟨filename, hfilename⟩ := (agrees_asText .filename []
    (given (default wd) o .filename)).exists_lenient
  obtain ⟨directory, hdirectory⟩ := (agrees_asText .directory wd
    (given (default wd) o .directory)).exists_lenient
  obtain ⟨path, hpath⟩ := (agrees_asText .resolverConfigPath []
    (given (default wd) o .resolverConfigPath)).exists_lenient
  obtain ⟨list, hlist⟩ := (agrees_asBool .listForm false
    (given (default wd) o .listForm)).exists_lenient
  obtain ⟨core, hcore⟩ := (agrees_asBool .includeCore false
    (given (default wd) o .includeCore)).exists_lenient
  obtain ⟨plugins, hplugins⟩ := (agrees_asBool .skipLoaderPlugins true
    (given (default wd) o .skipLoaderPlugins)).exists_lenient
  obtain ⟨shown, hshown⟩ := (agrees_asBool .showNonExistent false
    (given (default wd) o .showNonExistent)).exists_lenient
  obtain ⟨patterns, hpatterns⟩ := (agrees_asTexts .excludePatterns
    (given (default wd) o .excludePatterns)).exists_lenient
  obtain ⟨resolver, hresolver⟩ := (agrees_asObject .resolverConfig
    (given (default wd) o .resolverConfig)).exists_lenient
  exact ⟨⟨filename, directory, path, list, core, plugins, shown, patterns, resolver⟩,
    ⟨hfilename, hdirectory, hpath, hlist, hcore, hplugins, hshown, hpatterns, hresolver⟩⟩

/-- The strict readings of an object are the lenient ones, if these come without warnings and no
text stands for a list. -/
theorem Of.strict_iff {r : Readings} (h : r.Of wd false o) (r' : Readings) :
    r'.Of wd true o ↔ r' = r ∧ r.warnings = [] ∧
      ¬ ∃ s, given (default wd) o .excludePatterns = .str s := by
  have hfilename := (agrees_asText ..).strict_eq_ok_iff_of_loud h.filename r'.filename
  have hdirectory := (agrees_asText ..).strict_eq_ok_iff_of_loud h.directory r'.directory
  have hpath :=
    (agrees_asText ..).strict_eq_ok_iff_of_loud h.resolverConfigPath r'.resolverConfigPath
  have hlist := (agrees_asBool ..).strict_eq_ok_iff_of_loud h.listForm r'.listForm
  have hcore := (agrees_asBool ..).strict_eq_ok_iff_of_loud h.includeCore r'.includeCore
  have hplugins :=
    (agrees_asBool ..).strict_eq_ok_iff_of_loud h.skipLoaderPlugins r'.skipLoaderPlugins
  have hshown := (agrees_asBool ..).strict_eq_ok_iff_of_loud h.showNonExistent r'.showNonExistent
  have hpatterns := (agrees_asTexts ..).strict_eq_ok_iff h.excludePatterns r'.excludePatterns
  have hresolver := (agrees_asObject ..).strict_eq_ok_iff_of_loud h.resolverConfig r'.resolverConfig
  simp only [warnings, List.append_eq_nil_iff]
  constructor
  · intro h'
    obtain ⟨e1, w1⟩ := hfilename.mp h'.filename
    obtain ⟨e2, w2⟩ := hdirectory.mp h'.directory
    obtain ⟨e3, w3⟩ := hpath.mp h'.resolverConfigPath
    obtain ⟨e4, w4⟩ := hlist.mp h'.listForm
    obtain ⟨e5, w5⟩ := hcore.mp h'.includeCore
    obtain ⟨e6, w6⟩ := hplugins.mp h'.skipLoaderPlugins
    obtain ⟨e7, w7⟩ := hshown.mp h'.showNonExistent
    obtain ⟨e8, w8, hloud⟩ := hpatterns.mp h'.excludePatterns
    obtain ⟨e9, w9⟩ := hresolver.mp h'.resolverConfig
    refine ⟨?_, ⟨⟨⟨⟨⟨⟨⟨⟨w1, w2⟩, w3⟩, w4⟩, w5⟩, w6⟩, w7⟩, w8⟩, w9⟩, hloud⟩
    obtain ⟨⟩ := r
    obtain ⟨⟩ := r'
    simp only [Readings.mk.injEq]
    exact ⟨e1, e2, e3, e4, e5, e6, e7, e8, e9⟩
  · rintro ⟨rfl, ⟨⟨⟨⟨⟨⟨⟨⟨w1, w2⟩, w3⟩, w4⟩, w5⟩, w6⟩, w7⟩, w8⟩, w9⟩, hloud⟩
    exact ⟨hfilename.mpr ⟨rfl, w1⟩, hdirectory.mpr ⟨rfl, w2⟩, hpath.mpr ⟨rfl, w3⟩,
      hlist.mpr ⟨rfl, w4⟩, hcore.mpr ⟨rfl, w5⟩, hplugins.mpr ⟨rfl, w6⟩, hshown.mpr ⟨rfl, w7⟩,
      hpatterns.mpr ⟨rfl, w8, hloud⟩, hresolver.mpr ⟨rfl, w9⟩⟩

end Readings

theorem given_excludePatterns_eq_str_iff {s : Text} :
    given (default wd) o .excludePatterns = .str s ↔
      o.get? Field.excludePatterns.key = some (.str s) := by
  rw [given]
  cases o.get? Field.excludePatterns.key with
  | none => simp [Settings.value]
  | some v => simp

/-- A text that stands for the list of patterns, as is converted silently if it is blank. -/
def TextForPatterns (config : Value) : Prop :=
  ∃ o s, config = .obj o ∧ Table.get? o Field.excludePatterns.key = some (.str s)

theorem textForPatterns_obj_iff (wd : Text) :
    TextForPatterns (.obj o) ↔ ∃ s, given (default wd) o .excludePatterns = .str s := by
  constructor
  · rintro ⟨o, s, ⟨⟩, hs⟩
    exact ⟨s, given_excludePatterns_eq_str_iff.mpr hs⟩
  · rintro ⟨s, hs⟩
    exact ⟨o, s, rfl, given_excludePatterns_eq_str_iff.mp hs⟩

theorem agrees_validate (wd : Text) (config : Value) :
    Agrees (TextForPatterns config) (validate wd true config) (validate wd false config) := by
  by_cases hobj : ∃ o, config = .obj o
  · obtain ⟨o, rfl⟩ := hobj
    obtain ⟨r, hr⟩ := Readings.exists_of wd o
    have hlenient := validate_obj_eq_ok_iff.mpr ⟨r, hr, rfl⟩
    rw [hlenient]
    cases hstrict : validate wd true (.obj o) with
    | ok c =>
      obtain ⟨r', hr', rfl⟩ := validate_obj_eq_ok_iff.mp hstrict
      obtain ⟨rfl, hwarnings, hloud⟩ := (hr.strict_iff r').mp hr'
      rw [hwarnings]
      exact .accepted _ (mt (textForPatterns_obj_iff wd).mp hloud)
    | error e =>
      refine .refused e _ _ (Decidable.or_iff_not_imp_left.mpr fun hnone => ?_)
      refine (textForPatterns_obj_iff wd).mpr (Classical.not_not.mp fun hloud => ?_)
      have hr' := (hr.strict_iff r).mpr ⟨rfl, Classical.not_not.mp hnone, hloud⟩
      cases hstrict.symm.trans (validate_obj_eq_ok_iff.mpr ⟨r, hr', rfl⟩)
  · rw [validate_of_not_obj (not_exists.mp hobj), validate_of_not_obj (not_exists.mp hobj)]
    exact agrees_complain ..

theorem exists_validate (wd : Text) (config : Value) : ∃ c, validate wd false config = .ok c :=
  (agrees_validate wd config).exists_lenient

/-- The strict reading refuses exactly the values of which the lenient reading has something to say,
and objects in which a text stands for the list of patterns. What the strict reading takes, the
lenient one reads as the same, and neither warns. -/
theorem strict_refuses_iff_lenient_warns (wd : Text) (config : Value) :
    ∃ lenient, validate wd false config = .ok lenient ∧
      ((∃ complaint, validate wd true config = .error complaint) ↔
        lenient.warnings ≠ [] ∨ ∃ o s, config = .obj o ∧
          Table.get? o Field.excludePatterns.key = some (.str s)) ∧
      ∀ strict, validate wd true config = .ok strict →
        strict = lenient ∧ strict.warnings = [] ∧ lenient.warnings = [] := by
  obtain ⟨lenient, hlenient⟩ := exists_validate wd config
  have hiff := (agrees_validate wd config).strict_eq_ok_iff hlenient
  refine ⟨lenient, hlenient, ?_, fun strict hstrict => ?_⟩
  · cases hstrict : validate wd true config with
    | ok c =>
      obtain ⟨rfl, hwarnings, hloud⟩ := (hiff c).mp hstrict
      simpa [hwarnings, TextForPatterns] using hloud
    | error complaint =>
      simp only [Except.error.injEq, exists_eq', true_iff]
      refine Decidable.or_iff_not_imp_left.mpr fun hnone => Classical.not_not.mp fun hloud => ?_
      cases hstrict.symm.trans ((hiff lenient).mpr ⟨rfl, Classical.not_not.mp hnone, hloud⟩)
  · obtain ⟨rfl, hwarnings, -⟩ := (hiff strict).mp hstrict
    exact ⟨rfl, hwarnings, hwarnings⟩

theorem blank_text_for_patterns_refused :
    let config : Value := .obj [(Field.excludePatterns.key, .str [' '])]
    (∃ lenient, validate ['/'] false config = .ok lenient ∧ lenient.warnings = []) ∧
      ∃ complaint, validate ['/'] true config = .error complaint := by
  intro config
  obtain ⟨lenient, hlenient, hiff, -⟩ := strict_refuses_iff_lenient_warns ['/'] config
  have hsilent : validate ['/'] false config = .ok ⟨default ['/'], []⟩ := rfl
  obtain rfl := Except.ok.inj (hlenient.symm.trans hsilent)
  exact ⟨⟨_, hlenient, rfl⟩, hiff.mpr (Or.inr ⟨_, _, rfl, rfl⟩)⟩

theorem get?_toObject (s : Settings) (f : Field) :
    Table.get? s.toObject f.key = some (s.value f) := by
  cases f <;> rfl

theorem get?_toObject_of_not_known (s : Settings) {name : Text} (h : name ∉ known) :
    Table.get? s.toObject name = Table.get? s.others name := by
  have hkeys : Table.keys (Field.all.map fun f => (f.key, s.value f)) = known := by
    rw [Table.keys, List.map_map]
    rfl
  have hnone : Table.get? (Field.all.map fun f => (f.key, s.value f)) name = none :=
    Table.get?_eq_none_iff.mpr (hkeys ▸ h)
  rw [toObject, Table.get?_append, hnone, Option.none_or]

/-- Settings that reading leaves alone: texts are trimmed, there is a base directory, no pattern is
blank, and no member with a known name is kept among the others. -/
structure Settled (s : Settings) : Prop where
  filename : Trimmed s.filename
  directory : Trimmed s.directory
  directory_ne_nil : s.directory ≠ []
  resolverConfigPath : Trimmed s.resolverConfigPath
  excludePatterns : Items s.excludePatterns
  others : ∀ m ∈ s.others, m.1 ∉ known

theorem settled_default (hwd : Trimmed wd) (hne : wd ≠ []) : (default wd).Settled :=
  ⟨rfl, hwd, hne, rfl, fun _ ht => absurd ht List.not_mem_nil,
    fun _ hm => absurd hm List.not_mem_nil⟩

theorem Readings.Of.settled {r : Readings} (h : r.Of wd false o) (hwd : Trimmed wd)
    (hne : wd ≠ []) : (r.settings o).Settled where
  filename := (asText_spec h.filename rfl).1
  directory := (asText_spec h.directory hwd).1
  directory_ne_nil := (asText_spec h.directory hwd).2 hne
  resolverConfigPath := (asText_spec h.resolverConfigPath rfl).1
  excludePatterns := items_asTexts h.excludePatterns
  others m hm := by simpa using (List.mem_filter.mp hm).2

theorem settled_of_validate {c : Coerced Settings} (h : validate wd false config = .ok c)
    (hwd : Trimmed wd) (hne : wd ≠ []) : c.value.Settled := by
  by_cases hobj : ∃ o, config = .obj o
  · obtain ⟨o, rfl⟩ := hobj
    obtain ⟨r, hr, rfl⟩ := validate_obj_eq_ok_iff.mp h
    exact hr.settled hwd hne
  · rw [validate_of_not_obj (not_exists.mp hobj)] at h
    obtain rfl := Except.ok.inj h
    exact settled_default hwd hne

/-- Settled settings are read as themselves, from any working directory and either way. -/
theorem Settled.validate_toObject {s : Settings} (h : s.Settled) (wd : Text) (strict : Bool) :
    validate wd strict (.obj s.toObject) = .ok ⟨s, []⟩ := by
  have hgiven : ∀ f, given (default wd) s.toObject f = s.value f := fun f => by
    rw [given, get?_toObject, Option.getD_some]
  have hothers : s.toObject.filter (fun m => !known.contains m.1) = s.others := by
    have hnone : (Field.all.map fun f => (f.key, s.value f)).filter
        (fun m => !known.contains m.1) = [] := rfl
    rw [toObject, List.filter_append, hnone, List.nil_append, List.filter_eq_self]
    exact fun m hm => by simpa using h.others m hm
  let r : Readings := ⟨⟨s.filename, []⟩, ⟨s.directory, []⟩, ⟨s.resolverConfigPath, []⟩,
    ⟨s.listForm, []⟩, ⟨s.includeCore, []⟩, ⟨s.skipLoaderPlugins, []⟩, ⟨s.showNonExistent, []⟩,
    ⟨s.excludePatterns, []⟩, ⟨s.resolverConfig, []⟩⟩
  refine validate_obj_eq_ok_iff.mpr ⟨r, ?_, ?_⟩
  · constructor
    all_goals rw [hgiven]
    · exact asText_of_trimmed h.filename fun _ => rfl
    · exact asText_of_trimmed h.directory fun hnil => absurd hnil h.directory_ne_nil
    · exact asText_of_trimmed h.resolverConfigPath fun _ => rfl
    · rfl
    · rfl
    · rfl
    · rfl
    · exact textItems_of_items h.excludePatterns 0
    · rfl
  · rw [Readings.settings, hothers]
    rfl

/-- An object in which each known member is there and has a value of its kind: texts without blanks
at their ends, the base directory not empty; flags; patterns of which none is blank; an object. -/
structure WellTyped (o : Json.Object) : Prop where
  texts : ∀ f ∈ [Field.filename, .directory, .resolverConfigPath],
    ∃ t, Table.get? o f.key = some (.str t) ∧ Text.trim t = t
  directory : Table.get? o Field.directory.key ≠ some (.str [])
  flags : ∀ f ∈ [Field.listForm, .includeCore, .skipLoaderPlugins, .showNonExistent],
    ∃ b, Table.get? o f.key = some (.bool b)
  excludePatterns : ∃ ts : List Text,
    Table.get? o Field.excludePatterns.key = some (.arr (ts.map .str)) ∧
      ∀ t ∈ ts, Text.trim t = t ∧ t ≠ []
  resolverConfig : ∃ members, Table.get? o Field.resolverConfig.key = some (.obj members)

theorem Settled.wellTyped {s : Settings} (h : s.Settled) : WellTyped s.toObject where
  texts f hf := by
    simp only [List.mem_cons, List.not_mem_nil, or_false] at hf
    rw [get?_toObject]
    rcases hf with rfl | rfl | rfl
    · exact ⟨_, rfl, h.filename⟩
    · exact ⟨_, rfl, h.directory⟩
    · exact ⟨_, rfl, h.resolverConfigPath⟩
  directory heq := by
    rw [get?_toObject] at heq
    exact h.directory_ne_nil (Value.str.inj (Option.some.inj heq))
  flags f hf := by
    simp only [List.mem_cons, List.not_mem_nil, or_false] at hf
    rw [get?_toObject]
    rcases hf with rfl | rfl | rfl | rfl <;> exact ⟨_, rfl⟩
  excludePatterns := ⟨_, get?_toObject s .excludePatterns, h.excludePatterns⟩
  resolverConfig := ⟨_, get?_toObject s .resolverConfig⟩

/-- The lenient reading takes every value, and once is enough. From a working directory without
blanks at its ends it gives an object with known members of the right kinds and with the other
members of what was read; that object is read as the same settings, leniently and strictly, and
without a warning. -/
theorem lenient_reading_settles (hwd : Text.trim wd = wd) (hne : wd ≠ []) (config : Value) :
    ∃ c, validate wd false config = .ok c ∧
      WellTyped c.value.toObject ∧
      (∀ o, config = .obj o → ∀ name, (∀ f : Field, f.key ≠ name) →
        Table.get? c.value.toObject name = Table.get? o name) ∧
      ∀ strict, ∃ again, validate wd strict (.obj c.value.toObject) = .ok again ∧
        again.value.toObject = c.value.toObject ∧ again.warnings = [] := by
  obtain ⟨c, hc⟩ := exists_validate wd config
  have hsettled := settled_of_validate hc hwd hne
  refine ⟨c, hc, hsettled.wellTyped, ?_, fun strict =>
    ⟨_, hsettled.validate_toObject wd strict, rfl, rfl⟩⟩
  rintro o rfl name hname
  obtain ⟨r, -, rfl⟩ := validate_obj_eq_ok_iff.mp hc
  have hunknown : name ∉ known := fun hmem => by
    obtain ⟨f, -, heq⟩ := List.mem_map.mp hmem
    exact hname f heq
  rw [get?_toObject_of_not_known _ hunknown, Readings.settings,
    Table.get?_filter_key (fun key => !known.contains key), if_pos (by simpa using hunknown)]

def messy : Json.Object :=
  [(Field.filename.key, .int 3), ("x".toList, .null), (Field.directory.key, .str [' ']),
   (Field.listForm.key, .str " YES".toList),
   (Field.excludePatterns.key, .arr [.str " a ".toList, .int 1, .str []])]

theorem messy_settings_settle : ∃ c, validate "/p".toList false (.obj messy) = .ok c ∧
    c.value.directory = "/p".toList ∧ c.warnings.length = 3 ∧
    Table.get? c.value.toObject "x".toList = Table.get? messy "x".toList ∧
    ∃ again, validate "/p".toList true (.obj c.value.toObject) = .ok again ∧
      again.value.toObject = c.value.toObject ∧ again.warnings = [] := by
  have hwd : Text.trim "/p".toList = "/p".toList := by decide
  obtain ⟨c, hc, -, hkept, hagain⟩ := lenient_reading_settles hwd (by decide) (.obj messy)
  have hread : ∃ c', validate "/p".toList false (.obj messy) = .ok c' ∧
      c'.value.directory = "/p".toList ∧ c'.warnings.length = 3 := ⟨_, rfl, rfl, rfl⟩
  obtain ⟨c', hc', hdirectory, hwarnings⟩ := hread
  obtain rfl := Except.ok.inj (hc.symm.trans hc')
  exact ⟨c, hc, hdirectory, hwarnings, hkept messy rfl _ fun f => by cases f <;> decide,
    hagain true⟩

end ModuleGraph.Settings
