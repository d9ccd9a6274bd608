import Mathlib.Data.List.Forall2
import ModuleGraph.Proofs.Resolution.Search
import ModuleGraph.Proofs.Resolution.WellTyped

/-! Where specifiers are mapped to. A name stands for the beginning of a specifier that ends there
or goes on with a slash, so of two names that stand for one specifier one is longer. A pattern with
a star matches a specifier in one way at most. The places that a specifier is mapped to therefore do
not depend on the order in which the names are given. -/

namespace ModuleGraph.Resolution

open ModuleGraph.Path

structure Config.Maps (c : Config) (aliases : List (Text × Text)) (baseUrl : Text)
    (paths : List (Text × List Text)) : Prop where
  aliases : c.aliases = .ok (aliases.map fun (name, target) => (name, .ok target))
  baseUrl : c.baseUrl = .ok baseUrl
  paths : c.paths = .ok (paths.map fun (pattern, targets) => (pattern, .ok targets))

theorem filterMapM_of_ok {α β ε : Type} {f : α → Except ε (Option β)} {g : α → Option β}
    {as : List α} (h : ∀ a ∈ as, f a = .ok (g a)) : as.filterMapM f = .ok (as.filterMap g) := by
  induction as with
  | nil => rfl
  | cons a rest ih =>
    obtain ⟨ha, hrest⟩ := List.forall_mem_cons.mp h
    rw [List.filterMapM_cons, ha, List.filterMap_cons]
    cases g a with
    | none => exact ih hrest
    | some b => simp only [ih hrest, bind, Except.bind, pure, Except.pure]

theorem exists_plain {β : Type} {table : List (Text × Setting β)}
    (h : ∀ entry ∈ table, ∃ b, entry.2 = .ok b) :
    ∃ plain : List (Text × β), table = plain.map fun (name, b) => (name, .ok b) := by
  induction table with
  | nil => exact ⟨[], rfl⟩
  | cons entry rest ih =>
    obtain ⟨name, target⟩ := entry
    obtain ⟨⟨b, rfl⟩, hrest⟩ := List.forall_mem_cons.mp h
    obtain ⟨plain, rfl⟩ := ih hrest
    exact ⟨(name, b) :: plain, rfl⟩

theorem Config.WellTyped.exists_maps {o : Json.Object} (h : WellTyped o) :
    ∃ aliases baseUrl paths, (ofObject o).Maps aliases baseUrl paths := by
  obtain ⟨table, haliases, htable⟩ := h.exists_aliases
  obtain ⟨aliases, rfl⟩ := exists_plain htable
  obtain ⟨baseUrl, hbaseUrl⟩ := h.exists_baseUrl
  obtain ⟨table, hpaths, htable⟩ := h.exists_paths
  obtain ⟨paths, rfl⟩ := exists_plain htable
  exact ⟨aliases, baseUrl, paths, haliases, hbaseUrl, hpaths⟩

namespace PathLike

variable {name specifier pattern before star after : Text} {targets places : List Text}
  {aliases : List (Text × Text)} {paths : List (Text × List Text)} {directory baseUrl : Path}
  {c : Config}

def Covers (name specifier : Text) : Prop := specifier = name ∨ ∃ rest, specifier = name ++ '/' :: rest

def remainder (name specifier : Text) : Text := (specifier.drop name.length).dropWhile (· = '/')

theorem behindAlias?_eq_some_iff {rest : Text} : behindAlias? name specifier = some rest ↔
    Covers name specifier ∧ rest = remainder name specifier := by
  unfold behindAlias? Covers remainder
  constructor
  · intro h
    obtain ⟨tail, htail, hrest⟩ := Option.bind_eq_some_iff.mp h
    obtain rfl := Text.after?_eq_some_iff.mp htail
    cases tail with
    | nil =>
      cases hrest
      exact ⟨Or.inl (List.append_nil _), by simp⟩
    | cons a tail =>
      by_cases ha : a = '/'
      · subst ha
        cases hrest
        exact ⟨Or.inr ⟨tail, rfl⟩, by simp⟩
      · simp [ha] at hrest
  · rintro ⟨rfl | ⟨tail, rfl⟩, rfl⟩
    · have hafter : Text.after? specifier specifier = some [] :=
        Text.after?_eq_some_iff.mpr (List.append_nil _).symm
      simp [hafter]
    · have hafter : Text.after? name (name ++ '/' :: tail) = some ('/' :: tail) :=
        Text.after?_eq_some_iff.mpr rfl
      simp [hafter]

theorem covers_iff_isSome : Covers name specifier ↔ (behindAlias? name specifier).isSome = true := by
  rw [Option.isSome_iff_exists]
  exact ⟨fun h => ⟨_, behindAlias?_eq_some_iff.mpr ⟨h, rfl⟩⟩,
    fun ⟨_, h⟩ => (behindAlias?_eq_some_iff.mp h).1⟩

/-- Two names of one length that stand for one specifier are the same. -/
theorem Covers.eq_of_length {name' : Text} (h : Covers name specifier) (h' : Covers name' specifier)
    (hlength : name.length = name'.length) : name = name' := by
  have hstart : ∀ {n : Text}, Covers n specifier → n <+: specifier := by
    rintro n (rfl | ⟨rest, rfl⟩)
    · exact List.prefix_rfl
    · exact List.prefix_append _ _
  have hprefix := List.prefix_of_prefix_length_le (hstart h) (hstart h') (Nat.le_of_eq hlength)
  exact hprefix.eq_of_length hlength

theorem starOf?_eq_some_iff :
    starOf? before after specifier = some star ↔ specifier = before ++ star ++ after := by
  unfold starOf?
  constructor
  · intro h
    obtain ⟨rest, hrest, htake⟩ := Option.bind_eq_some_iff.mp h
    obtain rfl := Text.after?_eq_some_iff.mp hrest
    split at htake
    · next hends =>
      obtain ⟨shown, rfl⟩ := List.isSuffixOf_iff_suffix.mp hends
      obtain rfl : shown = star := by simpa using htake
      rw [List.append_assoc]
    · cases htake
  · rintro rfl
    have hafter : Text.after? before (before ++ star ++ after) = some (star ++ after) :=
      Text.after?_eq_some_iff.mpr (List.append_assoc ..)
    have hends : Text.endsWith after (star ++ after) = true :=
      List.isSuffixOf_iff_suffix.mpr (List.suffix_append _ _)
    rw [hafter, Option.bind_some, if_pos hends]
    simp

/-- A pattern without a star matches itself. A star, the first if there are some, stands for any
text. -/
def Matches (pattern specifier : Text) : Prop :=
  ('*' ∉ pattern ∧ specifier = pattern) ∨ ∃ before star after,
    pattern = before ++ '*' :: after ∧ '*' ∉ before ∧ specifier = before ++ star ++ after

inductive Expands (specifier : Text) : Text × List Text → List Text → Prop
  | same {targets : List Text} : '*' ∉ specifier → Expands specifier (specifier, targets) targets
  | starred {before star after : Text} {targets : List Text} : '*' ∉ before →
      specifier = before ++ star ++ after →
      Expands specifier (before ++ '*' :: after, targets) (targets.map (Text.replace '*' star))
  | other {pattern : Text} {targets : List Text} : ¬ Matches pattern specifier →
      Expands specifier (pattern, targets) []

theorem patternTargets?_same (h : '*' ∉ specifier) :
    patternTargets? specifier specifier (.ok targets) = some (.ok targets) := by
  simp [patternTargets?, Text.cut?_eq_none_iff.mpr h]

theorem patternTargets?_starred (h : '*' ∉ before) :
    patternTargets? (before ++ '*' :: after) (before ++ star ++ after) (.ok targets) =
      some (.ok (targets.map (Text.replace '*' star))) := by
  have hcut : Text.cut? '*' (before ++ '*' :: after) = some (before, after) :=
    Text.cut?_eq_some_iff.mpr ⟨rfl, h⟩
  simp only [patternTargets?, hcut, starOf?_eq_some_iff.mpr rfl, Option.map_some]
  rfl

theorem patternTargets?_eq_none (h : ¬ Matches pattern specifier) :
    patternTargets? pattern specifier (.ok targets) = none := by
  unfold patternTargets?
  split
  · next before after hcut =>
    obtain ⟨rfl, hbefore⟩ := Text.cut?_eq_some_iff.mp hcut
    rw [Option.map_eq_none_iff, Option.eq_none_iff_forall_ne_some]
    intro star hstar
    exact h (Or.inr ⟨before, star, after, rfl, hbefore, starOf?_eq_some_iff.mp hstar⟩)
  · next hcut =>
    rw [if_neg]
    intro heq
    exact h (Or.inl ⟨Text.cut?_eq_none_iff.mp hcut, heq⟩)

def expansion (specifier : Text) (entry : Text × List Text) : List Text :=
  match patternTargets? entry.1 specifier (.ok entry.2) with
  | some (.ok places) => places
  | _ => []

theorem Expands.eq_expansion {entry : Text × List Text} (h : Expands specifier entry places) :
    places = expansion specifier entry := by
  unfold expansion
  cases h with
  | same hnone => simp only [patternTargets?_same hnone]
  | starred hbefore hspecifier =>
    subst hspecifier
    simp only [patternTargets?_starred hbefore]
  | other hnone => simp only [patternTargets?_eq_none hnone]

theorem expands_expansion (specifier : Text) (entry : Text × List Text) :
    Expands specifier entry (expansion specifier entry) := by
  obtain ⟨pattern, targets⟩ := entry
  have hexists : ∃ places, Expands specifier (pattern, targets) places := by
    by_cases h : Matches pattern specifier
    · rcases h with ⟨hnone, rfl⟩ | ⟨before, star, after, rfl, hbefore, hspecifier⟩
      · exact ⟨_, .same hnone⟩
      · exact ⟨_, .starred hbefore hspecifier⟩
    · exact ⟨_, .other h⟩
  obtain ⟨places, hplaces⟩ := hexists
  exact hplaces.eq_expansion ▸ hplaces

def covering (specifier : Text) (aliases : List (Text × Text)) : List (Text × Text) :=
  (aliases.mergeSort fun a b => b.1.length ≤ a.1.length).filter fun entry =>
    (behindAlias? entry.1 specifier).isSome

theorem mem_covering {entry : Text × Text} :
    entry ∈ covering specifier aliases ↔ entry ∈ aliases ∧ Covers entry.1 specifier := by
  rw [covering, List.mem_filter, List.mem_mergeSort, covers_iff_isSome]

theorem nodup_covering (h : (aliases.map (·.1)).Nodup) :
    ((covering specifier aliases).map (·.1)).Nodup := by
  have hsorted : ((aliases.mergeSort fun a b => b.1.length ≤ a.1.length).map (·.1)).Nodup :=
    ((List.mergeSort_perm aliases _).map _).nodup_iff.mpr h
  exact hsorted.sublist (List.filter_sublist.map _)

theorem pairwise_covering (h : (aliases.map (·.1)).Nodup) :
    (covering specifier aliases).Pairwise fun a b => b.1.length < a.1.length := by
  have hsorted : (covering specifier aliases).Pairwise fun a b => b.1.length ≤ a.1.length := by
    refine List.Pairwise.filter _ ((List.pairwise_mergeSort ?_ ?_ aliases).imp of_decide_eq_true)
    · intro a b c hab hbc
      simp only [decide_eq_true_eq] at hab hbc ⊢
      exact Nat.le_trans hbc hab
    · intro a b
      simp only [Bool.or_eq_true, decide_eq_true_eq]
      exact Nat.le_total _ _
  have hnodup : (covering specifier aliases).Pairwise fun a b => a.1 ≠ b.1 :=
    List.pairwise_map.mp (nodup_covering h)
  refine (hsorted.and hnodup).imp_of_mem fun {a b} ha hb hab => Nat.lt_of_le_of_ne hab.1 fun heq => ?_
  exact hab.2 ((mem_covering.mp ha).2.eq_of_length (mem_covering.mp hb).2 heq.symm)

theorem covering_of_perm {aliases' : List (Text × Text)} (hperm : aliases'.Perm aliases)
    (h : (aliases.map (·.1)).Nodup) :
    covering specifier aliases' = covering specifier aliases := by
  have h' : (aliases'.map (·.1)).Nodup := (hperm.map _).nodup_iff.mpr h
  refine List.Perm.eq_of_pairwise (fun a b _ _ hab hba => absurd hab (Nat.lt_asymm hba))
    (pairwise_covering h') (pairwise_covering h) ?_
  exact ((List.mergeSort_perm _ _).trans (hperm.trans (List.mergeSort_perm _ _).symm)).filter _

def aliasPlace (specifier : Text) (directory : Path) : Text × Text → Path
  | (name, target) => join (join directory target) (remainder name specifier)

theorem filterMap_aliases (specifier : Text) (directory : Path) (aliases : List (Text × Text)) :
    (((aliases.map fun (name, target) => (name, (.ok target : Setting Text))).mergeSort
      fun a b => b.1.length ≤ a.1.length).filterMap fun entry =>
        (behindAlias? entry.1 specifier).bind fun rest =>
          entry.2.toOption.map fun target => join (join directory target) rest) =
      (covering specifier aliases).map (aliasPlace specifier directory) := by
  rw [← List.map_mergeSort (r := fun a b => decide (b.1.length ≤ a.1.length))
    fun _ _ _ _ => rfl, List.filterMap_map, covering, ← List.filterMap_eq_map,
    List.filterMap_filter]
  congr 1
  funext entry
  cases hrest : behindAlias? entry.1 specifier with
  | none => simp [hrest]
  | some rest =>
    obtain ⟨-, rfl⟩ := behindAlias?_eq_some_iff.mp hrest
    simp [hrest, aliasPlace, Except.toOption]

theorem flatten_filterMap_paths (specifier : Text) (base : Path) (paths : List (Text × List Text)) :
    ((paths.map fun (pattern, targets) => (pattern, (.ok targets : Setting (List Text)))).filterMap
      fun entry => (patternTargets? entry.1 specifier entry.2).bind fun found =>
        found.toOption.map (List.map (join base))).flatten =
      (paths.flatMap (expansion specifier)).map (join base) := by
  induction paths with
  | nil => rfl
  | cons entry rest ih =>
    rw [List.map_cons, List.filterMap_cons, List.flatMap_cons, List.map_append, ← ih, expansion]
    cases hfound : patternTargets? entry.1 specifier (.ok entry.2) with
    | none => rfl
    | some found =>
      obtain ⟨places, rfl⟩ := exists_patternTargets hfound
      rfl

theorem mappedCandidates_eq (specifier : Text) (directory : Path)
    (h : c.Maps aliases baseUrl paths) : mappedCandidates specifier directory c =
      .ok (((covering specifier aliases).map (aliasPlace specifier directory) ++
        (paths.flatMap (expansion specifier)).map (join (join directory baseUrl))).map normal) := by
  unfold mappedCandidates
  rw [h.aliases, h.baseUrl, h.paths]
  simp only [bind, Except.bind]
  rw [filterMapM_of_ok (g := fun entry => (behindAlias? entry.1 specifier).bind fun rest =>
    entry.2.toOption.map fun target => join (join directory target) rest)]
  · rw [filterMapM_of_ok (g := fun entry => (patternTargets? entry.1 specifier entry.2).bind
      fun found => found.toOption.map (List.map (join (join directory baseUrl))))]
    · dsimp only
      rw [filterMap_aliases, flatten_filterMap_paths]
      rfl
    · intro entry hentry
      obtain ⟨⟨pattern, targets⟩, -, rfl⟩ := List.mem_map.mp hentry
      cases hfound : patternTargets? pattern specifier (.ok targets) with
      | none => rfl
      | some found =>
        obtain ⟨places, rfl⟩ := exists_patternTargets hfound
        rfl
  · intro entry hentry
    obtain ⟨⟨name, target⟩, -, rfl⟩ := List.mem_map.mp (List.mem_mergeSort.mp hentry)
    cases behindAlias? name specifier <;> rfl

theorem resolve_of_aliases (w : World) (file : Path) (f : Family)
    {table : Setting (List (Text × Setting Text))}
    (h : mappedCandidates specifier directory { c with aliases := table } =
      mappedCandidates specifier directory c) :
    resolve w specifier file directory { c with aliases := table } f =
      resolve w specifier file directory c f := by
  unfold resolve
  rw [h]
  rfl

end PathLike

theorem resolve_of_aliases {c : Config} {specifier : Text} {directory : Path}
    {table : Setting (List (Text × Setting Text))} (w : World) (file : Path)
    (h : PathLike.mappedCandidates specifier directory { c with aliases := table } =
      PathLike.mappedCandidates specifier directory c) :
    resolve w specifier file directory { c with aliases := table } =
      resolve w specifier file directory c := by
  unfold resolve
  simp only [PathLike.resolve_of_aliases w file _ h]
  rfl

/-- A specifier is mapped first to the places of the names that stand for it, the longest first and
no two of one length, then to what the patterns that match it make of it, in their order. A pattern
with a star matches in at most one way. In which order the names are given makes no difference, not
to these places and not to what the specifier resolves to. -/
theorem PathLike.mapped_by_aliases_then_patterns {c : Config} {aliases : List (Text × Text)}
    {baseUrl : Path} {paths : List (Text × List Text)} (h : c.Maps aliases baseUrl paths)
    (hnames : (aliases.map (·.1)).Nodup) (specifier : Text) (directory : Path) :
    ∃ (standing : List (Text × Text)) (expansions : List (List Text)),
      (standing.Pairwise fun a b => b.1.length < a.1.length) ∧
      (∀ entry, entry ∈ standing ↔ entry ∈ aliases ∧ Covers entry.1 specifier) ∧
      List.Forall₂ (Expands specifier) paths expansions ∧
      mappedCandidates specifier directory c = .ok
        ((standing.map fun entry =>
            normal (join (join directory entry.2) (remainder entry.1 specifier))) ++
          expansions.flatten.map fun place => normal (join (join directory baseUrl) place)) ∧
      (∀ before after, (∃ star, specifier = before ++ star ++ after) →
        ∃! star, specifier = before ++ star ++ after) ∧
      ∀ aliases' : List (Text × Text), aliases'.Perm aliases →
        let c' := { c with aliases := .ok (aliases'.map fun (name, target) => (name, .ok target)) }
        mappedCandidates specifier directory c' = mappedCandidates specifier directory c ∧
        ∀ w file, Resolution.resolve w specifier file directory c' =
          Resolution.resolve w specifier file directory c := by
  refine ⟨covering specifier aliases, paths.map (expansion specifier), pairwise_covering hnames,
    fun entry => mem_covering, ?_, ?_, ?_, ?_⟩
  · exact List.forall₂_map_right_iff.mpr
      (List.forall₂_same.mpr fun entry _ => expands_expansion specifier entry)
  · rw [mappedCandidates_eq specifier directory h, List.map_append, List.map_map, List.map_map,
      List.flatMap_def]
    rfl
  · rintro before after ⟨star, hstar⟩
    refine ⟨star, hstar, fun other hother => ?_⟩
    exact Option.some.inj
      ((starOf?_eq_some_iff.mpr hother).symm.trans (starOf?_eq_some_iff.mpr hstar))
  · intro aliases' hperm c'
    have hmaps : c'.Maps aliases' baseUrl paths := ⟨rfl, h.baseUrl, h.paths⟩
    have hmapped : mappedCandidates specifier directory c' =
        mappedCandidates specifier directory c := by
      rw [mappedCandidates_eq specifier directory hmaps, mappedCandidates_eq specifier directory h,
        covering_of_perm hperm hnames]
    exact ⟨hmapped, fun w file => Resolution.resolve_of_aliases w file hmapped⟩

namespace TwoNames

def aliases : List (Text × Text) := [("@app".toList, "src".toList), ("@app/ui".toList, "ui".toList)]

def paths : List (Text × List Text) := [("@app/*.css".toList, ["css/*".toList])]

def object : Json.Object :=
  [("aliases".toList, .obj (aliases.map fun (name, target) => (name, .str target))),
   ("paths".toList, .obj [("@app/*.css".toList, .str "css/*".toList)])]

theorem maps : (Config.ofObject object).Maps aliases [] paths := ⟨rfl, rfl, rfl⟩

end TwoNames

theorem PathLike.longer_name_first_in_either_order :
    let c := Config.ofObject TwoNames.object
    let c' := { c with
      aliases := .ok (TwoNames.aliases.reverse.map fun (name, target) => (name, .ok target)) }
    c.Maps TwoNames.aliases [] TwoNames.paths ∧ (TwoNames.aliases.map (·.1)).Nodup ∧
    ∀ w file, Resolution.resolve w "@app/ui/a.css".toList file ['/', 'p'] c' =
      Resolution.resolve w "@app/ui/a.css".toList file ['/', 'p'] c := by
  have hnames : (TwoNames.aliases.map (·.1)).Nodup := by decide
  obtain ⟨standing, expansions, -, -, -, -, -, hperm⟩ := mapped_by_aliases_then_patterns
    TwoNames.maps hnames "@app/ui/a.css".toList ['/', 'p']
  exact ⟨TwoNames.maps, hnames, (hperm _ (List.reverse_perm _)).2⟩

example : PathLike.mappedCandidates "@app/ui/a.css".toList ['/', 'p']
    (Config.ofObject TwoNames.object) =
    .ok ["/p/ui/a.css".toList, "/p/src/ui/a.css".toList, "/p/css/ui/a".toList] := by
  cbv

end ModuleGraph.Resolution
