import Mathlib.Data.Finset.Card
import Mathlib.Data.Finset.Prod
import Mathlib.Data.Fintype.Card
import ModuleGraph.Proofs.FileSystem.Lookup
import ModuleGraph.Proofs.Walk.Walked
import ModuleGraph.Walk.Options

/-! What accepted options give: a context whose collaborators are grounded, if relative paths are
seen from an absolute directory. The files that can be walked are then the normal forms of the
locations that stand, each with one leading slash or with two. -/

namespace ModuleGraph.Walk

open ModuleGraph.Path

variable {w : World} {o : Options} {x : Context}

structure Context.Fits (w : World) (o : Options) (x : Context) : Prop where
  filename : ∃ name, x.filename = w.canonical name (some x.anchor)
  anchor : x.anchor = (given o.cwd).getD w.workingDirectory
  shape : x.shape = o.shape
  canonical : x.collaborators.canonical = fun p => w.canonical p (some x.anchor)
  isPresent : x.collaborators.isPresent = w.pathExists
  depth : x.collaborators.depth = depthIn w x.anchor
  unhooked : o.filter = .absent → x.collaborators.accept = none
  accept : ∀ f, o.filter = .function f → x.collaborators.accept = some f
  extract : o.extractor = .absent →
    x.collaborators.extract = Options.bundledExtractor w o.extractorConfig
  resolve : o.resolver = .absent → x.collaborators.resolve = fun specifier file =>
    Options.bundledResolver w o.resolverConfig specifier file x.directory
  renamed : ∀ name, Context.ofOptions w { o with filename := name } =
    match given name with
    | none => .error .noFilename
    | some name => .ok { x with filename := w.canonical name (some x.anchor) }
  reshaped : ∀ shape, Context.ofOptions w { o with shape := shape } =
    .ok { x with shape := shape }
  unfiltered : ∀ extract, Context.ofOptions w { o with
      filter := .absent
      extractor := .function extract } =
    .ok { x with collaborators := { x.collaborators with extract := extract, accept := none } }

theorem Context.fits (h : Context.ofOptions w o = .ok x) : Context.Fits w o x := by
  unfold Context.ofOptions at h
  cases hfilename : given o.filename with
  | none => simp [hfilename] at h
  | some filename =>
  cases hdirectory : (given o.directory).or (given o.root) with
  | none => simp [hfilename, hdirectory] at h
  | some directory =>
  cases hextract : o.extractor.orElse (Options.bundledExtractor w o.extractorConfig)
      Options.Fault.extractor with
  | error e =>
    cases hfilter : o.filter <;>
      simp [hfilename, hdirectory, hextract, hfilter, bind, Except.bind] at h
  | ok extract =>
  cases hresolve : o.resolver.orElse (Options.bundledResolver w o.resolverConfig)
      Options.Fault.resolver with
  | error e =>
    cases hfilter : o.filter <;>
      simp [hfilename, hdirectory, hextract, hresolve, hfilter, bind, Except.bind] at h
  | ok resolve =>
  have hbundled : o.extractor = .absent →
      extract = Options.bundledExtractor w o.extractorConfig := by
    intro habsent
    rw [habsent] at hextract
    exact (Except.ok.inj hextract).symm
  have hbundled' : o.resolver = .absent →
      resolve = Options.bundledResolver w o.resolverConfig := by
    intro habsent
    rw [habsent] at hresolve
    exact (Except.ok.inj hresolve).symm
  cases hfilter : o.filter with
  | notAFunction => simp [hfilename, hdirectory, hfilter, bind, Except.bind] at h
  | absent | function f =>
    simp only [hfilename, hdirectory, hextract, hresolve, hfilter, bind, Except.bind, pure,
      Except.pure, Except.ok.injEq] at h
    subst h
    refine ⟨⟨filename, rfl⟩, rfl, rfl, rfl, rfl, rfl, ?_, ?_, hbundled, ?_, fun name => ?_,
      fun shape => ?_, fun extract => ?_⟩
    · simp [hfilter]
    · simp [hfilter]
    · exact fun habsent => hbundled' habsent ▸ rfl
    · cases hname : given name <;>
        simp [Context.ofOptions, hname, hdirectory, hextract, hresolve, hfilter, bind, Except.bind,
          pure, Except.pure]
    · simp [Context.ofOptions, hfilename, hdirectory, hextract, hresolve, hfilter, bind,
        Except.bind, pure, Except.pure]
    · have hown : ∀ bundled, (Hook.function extract).orElse bundled Options.Fault.extractor =
          .ok extract := fun _ => rfl
      simp [Context.ofOptions, hfilename, hdirectory, hown, hresolve, bind, Except.bind, pure,
        Except.pure]

namespace Context.Fits

variable (hx : Context.Fits w o x) (hanchor : isAbsolute x.anchor = true)
include hx hanchor

theorem canonical_eq (p : Path) :
    x.collaborators.canonical p = normal (join x.anchor p) := by
  rw [hx.canonical]
  exact World.canonical_of_anchor hanchor p

theorem isAbsolute_canonical (p : Path) : isAbsolute (x.collaborators.canonical p) = true := by
  rw [hx.canonical_eq hanchor]
  exact isAbsolute_normal (isAbsolute_join p hanchor)

theorem canonical_of_isAbsolute {p : Path} (h : isAbsolute p = true) :
    x.collaborators.canonical p = normal p := by
  rw [hx.canonical_eq hanchor, join_of_isAbsolute _ h]

omit hanchor in
theorem filename_eq : ∃ name, x.filename = x.collaborators.canonical name := by
  rw [hx.canonical]
  exact hx.filename

theorem stable : x.collaborators.Stable := by
  intro p
  rw [hx.canonical_of_isAbsolute hanchor (hx.isAbsolute_canonical hanchor p),
    hx.canonical_eq hanchor, normal_normal (isAbsolute_join p hanchor)]

end Context.Fits

def locations (w : World) : Finset Location := insert [] (w.files.entries.map (·.1)).toFinset

def normalForms (w : World) : Finset Path :=
  (Finset.univ ×ˢ locations w).image fun form : Bool × Location => spelled form.1 form.2

theorem card_normalForms_le (w : World) :
    (normalForms w).card ≤ 2 * (w.files.entries.length + 1) := by
  have hlocations : (locations w).card ≤ w.files.entries.length + 1 := by
    refine (Finset.card_insert_le _ _).trans (Nat.succ_le_succ ?_)
    simpa using (w.files.entries.map (·.1)).toFinset_card_le
  calc (normalForms w).card
      ≤ (Finset.univ ×ˢ locations w : Finset (Bool × Location)).card := Finset.card_image_le
    _ = 2 * (locations w).card := by
        rw [Finset.card_product, Finset.card_univ, Fintype.card_bool]
    _ ≤ 2 * (w.files.entries.length + 1) := Nat.mul_le_mul_left 2 hlocations

theorem mem_locations {loc : Location} {e : Entry} (h : w.files.entry? loc = some e) :
    loc ∈ locations w := by
  rw [locations, Finset.mem_insert, List.mem_toFinset]
  by_cases hroot : loc = []
  · exact Or.inl hroot
  · rw [FileSystem.entry?, if_neg (by simpa using hroot), Option.map_eq_some_iff] at h
    obtain ⟨entry, hfind, -⟩ := h
    have hloc := List.find?_some hfind
    simp only [decide_eq_true_eq] at hloc
    exact Or.inr (List.mem_map.mpr ⟨entry, List.mem_of_find?_eq_some hfind, hloc⟩)

theorem normal_mem_normalForms {p : Path} (habs : isAbsolute p = true)
    (h : w.pathExists p = true) : normal p ∈ normalForms w := by
  obtain ⟨loc, e, hlookup⟩ := World.exists_lookup habs h
  obtain ⟨hloc, -, hentry, -⟩ := FileSystem.lookup_eq_names hlookup
  obtain ⟨twice, -, hnormal⟩ := normal_eq_spelled habs
  rw [normalForms, Finset.mem_image]
  refine ⟨(twice, names p), ?_, hnormal.symm⟩
  rw [Finset.mem_product]
  exact ⟨Finset.mem_univ _, mem_locations (hloc ▸ hentry)⟩

namespace Context.Fits

variable (hx : Context.Fits w o x) (hanchor : isAbsolute x.anchor = true)
include hx hanchor

theorem found (hpresent : w.pathExists x.filename = true) :
    x.collaborators.Found x.filename := by
  obtain ⟨name, hname⟩ := hx.filename_eq
  refine ⟨by rwa [hx.isPresent], ?_⟩
  rw [hname, hx.stable hanchor]

theorem present_of_found {path : Path} (hpath : x.collaborators.Found path) :
    isAbsolute path = true ∧ w.pathExists path = true ∧ normal path = path := by
  obtain ⟨hpresent, hcanonical⟩ := hpath
  have habs := hx.isAbsolute_canonical hanchor path
  rw [hcanonical] at habs
  exact ⟨habs, by rwa [hx.isPresent] at hpresent,
    (hx.canonical_of_isAbsolute hanchor habs).symm.trans hcanonical⟩

/-- Seen from an absolute directory, the files that can be walked are finitely many, and fewer
than the walk may go down. -/
theorem grounded : x.collaborators.Grounded (normalForms w) := by
  refine ⟨hx.stable hanchor, fun path hpath => ?_, ?_⟩
  · obtain ⟨habs, hpresent, hnormal⟩ := hx.present_of_found hanchor hpath
    rw [← hnormal]
    exact normal_mem_normalForms habs hpresent
  · rw [hx.depth, depthIn, if_pos hanchor]
    exact Nat.lt_succ_of_le (card_normalForms_le w)

end Context.Fits

/-! A directory and a file below the root that need each other. -/

namespace TwoFiles

def world : World where
  files := ⟨[([['d']], .directory), ([['f']], .file [])]⟩
  workingDirectory := ['/']
  environment := .empty
  nesting := 100
  isCharacterName _ := false

def extract : Extractor := fun file =>
  pure (.ok [if file = ['/', 'd'] then ['f'] else ['d']])

def resolve : Resolver := fun specifier _ _ =>
  pure (.ok (some (if specifier = ['f'] then ['/', 'f'] else ['/', 'd'])))

def options (shape : Shape) (name : Text) : Options where
  filename := some name
  directory := some ['/']
  root := none
  cwd := none
  shape := shape
  resolverConfig := []
  extractorConfig := []
  filter := .absent
  extractor := .function extract
  resolver := .function resolve

def context (shape : Shape) (name : Text) : Context where
  filename := world.canonical name (some ['/'])
  directory := ['/']
  anchor := ['/']
  shape := shape
  collaborators := {
    canonical := fun p => world.canonical p (some ['/'])
    isPresent := world.pathExists
    extract := extract
    resolve := fun specifier file => resolve specifier file ['/']
    accept := none
    depth := depthIn world ['/'] }

variable (shape : Shape)

theorem ofOptions_eq {name : Text} (h : given (some name) = some name) :
    Context.ofOptions world (options shape name) = .ok (context shape name) := by
  unfold Context.ofOptions
  simp only [options, h]
  rfl

def contextWith (accept : Filter) (name : Text) : Context :=
  { context shape name with
    collaborators := { (context shape name).collaborators with accept := some accept } }

theorem ofOptions_filtered (accept : Filter) {name : Text} (h : given (some name) = some name) :
    Context.ofOptions world { options shape name with filter := .function accept } =
      .ok (contextWith shape accept name) := by
  unfold Context.ofOptions
  simp only [options, h]
  rfl

def unsure : Filter := fun path _ => if path = ['/', 'd'] then .error "no verdict" else .ok true

theorem decisive (name : Text) : (context shape name).collaborators.Decisive :=
  fun _ h => by cases h

end TwoFiles

namespace FourFiles

/-! Four files, of which `e` and `f` need each other. Besides that, `e` needs `w` and `f` needs
`k`. -/

def world : World where
  files := ⟨[([['e']], .file []), ([['f']], .file []), ([['k']], .file []), ([['w']], .file [])]⟩
  workingDirectory := ['/']
  environment := .empty
  nesting := 100
  isCharacterName _ := false

def extract : Extractor := fun file =>
  pure (.ok (if file = ['/', 'e'] then [['w'], ['f']]
    else if file = ['/', 'f'] then [['k'], ['e']] else []))

def resolve : Resolver := fun specifier _ _ =>
  pure (.ok (some (if specifier = ['f'] then ['/', 'f'] else if specifier = ['k'] then ['/', 'k']
    else if specifier = ['w'] then ['/', 'w'] else ['/', 'e'])))

def options (name : Text) (filter : Hook Filter) : Options where
  filename := some name
  directory := some ['/']
  root := none
  cwd := none
  shape := .list
  resolverConfig := []
  extractorConfig := []
  filter := filter
  extractor := .function extract
  resolver := .function resolve

def context (name : Text) (accept : Option Filter) : Context where
  filename := world.canonical name (some ['/'])
  directory := ['/']
  anchor := ['/']
  shape := .list
  collaborators := {
    canonical := fun p => world.canonical p (some ['/'])
    isPresent := world.pathExists
    extract := extract
    resolve := fun specifier file => resolve specifier file ['/']
    accept := accept
    depth := depthIn world ['/'] }

theorem ofOptions_eq : Context.ofOptions world (options ['/', 'e'] .absent) =
    .ok (context ['/', 'e'] none) := by
  unfold Context.ofOptions
  rfl

theorem ofOptions_filtered (accept : Filter) {name : Text} (h : given (some name) = some name) :
    Context.ofOptions world (options name (.function accept)) =
      .ok (context name (some accept)) := by
  unfold Context.ofOptions
  simp only [options, h]
  rfl

def unsure : Filter := fun path _ => if path = ['/', 'e'] then .error "no verdict" else .ok true

def sure : Filter := fun _ _ => .ok true

theorem decides (name name' : Text) : (context name (some unsure)).collaborators.Decides
    (context name' (some sure)).collaborators := by
  refine ⟨rfl, fun h => absurd h (by rintro ⟨⟩), ?_, ?_⟩
  · rintro accept ⟨⟩
    refine ⟨sure, rfl, fun path file verdict hverdict => ?_⟩
    unfold unsure at hverdict
    split at hverdict
    · cases hverdict
    · exact hverdict
  · rintro accept ⟨⟩ path file
    exact ⟨true, rfl⟩

end FourFiles

end ModuleGraph.Walk
