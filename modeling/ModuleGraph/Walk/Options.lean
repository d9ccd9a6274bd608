import ModuleGraph.Extraction
import ModuleGraph.Resolution.Resolve
import ModuleGraph.Walk.Traverse

/-! From the options of a call to a walk in a world. Options are checked before anything is
looked up; what is wrong with them is reported in a fixed order. -/

namespace ModuleGraph.Walk

inductive Hook (α : Type) where
  | absent
  | notAFunction
  | function (f : α)

def Hook.orElse {α ε : Type} (h : Hook α) (bundled : α) (e : ε) : Except ε α :=
  match h with
  | .absent => .ok bundled
  | .notAFunction => .error e
  | .function f => .ok f

abbrev Extractor := Path → Noted (Except String (List Text))

abbrev Resolver := Text → Path → Path → Noted (Except String (Option Path))

abbrev Filter := Path → Path → Except String Bool

structure Options where
  filename : Option Text
  directory : Option Text
  root : Option Text
  cwd : Option Text
  shape : Shape
  resolverConfig : Json.Object
  extractorConfig : Json.Object
  filter : Hook Filter
  extractor : Hook Extractor
  resolver : Hook Resolver

namespace Options

inductive Fault where
  | noFilename
  | noDirectory
  | filter
  | extractor
  | resolver
  deriving DecidableEq, Repr

def Fault.message : Fault → String
  | .noFilename => "filename not given"
  | .noDirectory => "directory not given"
  | .filter => "filter must be a function"
  | .extractor => "extractor must be a function"
  | .resolver => "resolver must be a function"

def bundledExtractor (w : World) (config : Json.Object) : Extractor := fun file =>
  Extraction.extract w file (.ofObject config)

def bundledResolver (w : World) (config : Json.Object) : Resolver := fun specifier file dir =>
  let found := Resolution.resolve w specifier file dir (.ofObject config)
  ⟨found.value.mapError Resolution.Fault.message, found.notes⟩

end Options

structure Context where
  filename : Path
  directory : Path
  anchor : Path
  shape : Shape
  collaborators : Collaborators

/-- Each file that a world has can be named with one leading slash or with two. Seen from a
relative anchor the same file may have further names, for which there is some room. -/
def depthIn (w : World) (anchor : Path) : Nat :=
  2 * (w.files.entries.length + 1) + 1 + if Path.isAbsolute anchor then 0 else 4096

def given (t : Option Text) : Option Text := t.filter fun s => !s.isEmpty

def Context.ofOptions (w : World) (o : Options) : Except Options.Fault Context := do
  let some filename := given o.filename | .error .noFilename
  let some directory := (given o.directory).or (given o.root) | .error .noDirectory
  let accept ← match o.filter with
    | .absent => .ok none
    | .notAFunction => .error .filter
    | .function f => .ok (some f)
  let extract ← o.extractor.orElse (Options.bundledExtractor w o.extractorConfig)
    Options.Fault.extractor
  let resolve ← o.resolver.orElse (Options.bundledResolver w o.resolverConfig)
    Options.Fault.resolver
  let anchor := (given o.cwd).getD w.workingDirectory
  let base := w.canonical directory (some anchor)
  return {
    filename := w.canonical filename (some anchor)
    directory := base
    anchor := anchor
    shape := o.shape
    collaborators := {
      canonical := fun p => w.canonical p (some anchor)
      isPresent := w.pathExists
      extract := extract
      resolve := fun specifier file => resolve specifier file base
      accept := accept
      depth := depthIn w anchor } }

structure Cache where
  graph : Graph
  results : Table Path Ref

def Cache.empty : Cache := ⟨.empty, []⟩

structure Outcome where
  context : Context
  result : Except Fault Ref
  state : State

def opening (filename : Text) (context : Context) (cache : Cache) : Walk Unit := do
  note .debug
    s!"given filename: {Text.string filename}, resolved filename: {Text.string context.filename}"
  if !cache.results.isEmpty then
    note .debug s!"Visited cache pre-seeded with {cache.results.length} entries"

def perform (w : World) (o : Options) (cache : Cache) (unresolved : List Text) :
    Except Options.Fault Outcome := do
  let context ← Context.ofOptions w o
  let walk : Walk Ref := do
    opening (o.filename.getD []) context cache
    run context.collaborators context.shape context.filename
  let (result, state) := walk (.start cache.graph cache.results unresolved)
  return ⟨context, result, state⟩

def Outcome.cache (o : Outcome) : Cache := ⟨o.state.graph, o.state.visited.results⟩

end ModuleGraph.Walk
