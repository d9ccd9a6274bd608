import ModuleGraph.Exclusion
import ModuleGraph.Report
import ModuleGraph.Resolution.ConfigFile
import ModuleGraph.Settings.Validation
import ModuleGraph.Walk.Options

/-! A run from settings: they are read leniently, the settings of the resolver are put together
from their file and from those given directly, and one walk is made with a cache of its own. -/

namespace ModuleGraph.Run

inductive Fault where
  | configFile (fault : Resolution.ConfigFile.Fault)
  | directory
  | pattern (fault : Pattern.Fault)
  | walk (fault : Walk.Fault)
  deriving DecidableEq

def Fault.message : Fault → String
  | .configFile fault => fault.message
  | .directory => World.ReadFault.nullCharacter.message
  | .pattern fault => fault.message
  | .walk fault => fault.message

def optionsOf (w : World) (s : Settings) (resolverConfig : Json.Object) : Walk.Options where
  filename := some s.filename
  directory := if s.directory.isEmpty then none else some (w.userDirectory s.directory Path.here)
  root := none
  cwd := none
  shape := if s.listForm then .list else .tree
  resolverConfig := resolverConfig
  extractorConfig :=
    [(Settings.Field.includeCore.key, .bool s.includeCore),
     (Settings.Field.skipLoaderPlugins.key, .bool s.skipLoaderPlugins)]
  filter := match Exclusion.filter? s.excludePatterns with
    | none => .absent
    | some keeps => .function fun p _ => .ok (keeps p)
  extractor := .absent
  resolver := .absent

/-- The settings of the resolver: those of the file, if one is named, and over them those given
directly. -/
def resolverConfigOf (w : World) (s : Settings) :
    Noted (Except Resolution.ConfigFile.Fault Json.Object) := do
  if s.resolverConfigPath.isEmpty then return .ok (Table.ofList s.resolverConfig)
  if World.refusesUser s.resolverConfigPath Path.here then return .error (.escaping .nullCharacter)
  let file := w.userDirectory s.resolverConfigPath Path.here
  match Resolution.ConfigFile.load w file with
  | .error fault => return .error fault
  | .ok config =>
    .note .debug s!"Resolver configuration loaded from {Text.string file}"
    return .ok (Table.update config s.resolverConfig)

/-- What breaks off a run before its walk. -/
def escaping? (s : Settings) : Option Fault :=
  if World.refusesUser s.directory Path.here then some .directory
  else (Exclusion.escaping? s.excludePatterns).map .pattern

def rejected (s : Settings) (reason : String) : Noted (Except Fault Report) := do
  .note .error s!"Traversal rejected: {reason}"
  return .ok (.rejected reason s.filename s.directory (if s.listForm then .list else .tree))

def concluded (s : Settings) (o : Walk.Outcome) : Noted (Except Fault Report) := do
  .noteAll o.state.notes
  match o.result with
  | .error fault => return .error (.walk fault)
  | .ok result =>
    let walked := o.state.completed.length
    let unresolved := o.state.unresolved
    let patterns := (Text.quotedList s.excludePatterns).string
    let counts := s!"'files_walked': {walked}, 'non_existent_count': {unresolved.length}"
    .note .debug s!"Traversal summary: \x7b{counts}, 'exclude_patterns': {patterns}\x7d"
    return .ok (.found {
      filename := o.context.filename
      directory := o.context.directory
      shape := o.context.shape
      graph := o.state.graph
      result := result
      unresolved := unresolved
      visitedCount := o.state.visited.size
      filesWalked := walked
      excludePatterns := s.excludePatterns })

def withSettings (w : World) (s : Settings) : Noted (Except Fault Report) := do
  match ← resolverConfigOf w s with
  | .error fault =>
    if fault.isRejection then rejected s fault.message else return .error (.configFile fault)
  | .ok config =>
    match escaping? s with
    | some fault => return .error fault
    | none =>
      match Walk.perform w (optionsOf w s config) .empty [] with
      | .error fault => rejected s fault.message
      | .ok outcome => concluded s outcome

def run (w : World) (config : Json.Value) : Noted (Except Fault Report) := do
  match Settings.validate w.workingDirectory false config with
  | .error c => rejected (Settings.default w.workingDirectory) c.message
  | .ok settings =>
    .noteAll (settings.warnings.map fun x =>
      ⟨.warning, s!"Configuration Constraint: {x.message}"⟩)
    withSettings w settings.value

end ModuleGraph.Run
