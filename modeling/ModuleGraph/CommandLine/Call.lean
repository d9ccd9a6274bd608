import ModuleGraph.CommandLine.Help
import ModuleGraph.CommandLine.Reader
import ModuleGraph.Json.Writer
import ModuleGraph.Run

/-! A call of the program: from the words of the command line, in a world, to what is written and
how the call ends. Ends are 0 for success, 1 for a run that broke off, and 2 for words or settings
that are refused. -/

namespace ModuleGraph.CommandLine

structure Ending where
  exit : Nat
  output : Text
  errors : Text
  log : List Log.Record

def lineOf (s : Text) : Text := s ++ ['\n']

def width (w : World) : Nat := widthIn (columnsOf (w.environmentValue? "COLUMNS".toList))

def Refusal.ending (w : World) (r : Refusal) : Ending :=
  ⟨2, [], usage (width w) ++ lineOf s!"{programName}: error: {r.message}".toList, []⟩

def helpEnding (w : World) : Ending := ⟨0, help (width w), [], []⟩

def settingsOf (w : World) (a : Arguments) : Json.Object :=
  Arguments.merged (Settings.default w.workingDirectory).toObject a.overrides

def shown (a : Arguments) (f : Findings) : Text :=
  let document (v : Json.Value) := lineOf (Json.write Json.indented 0 v)
  if a.json then document (.obj (Report.found f).toObject)
  else match f.shape with
    | .list => f.dependencies.flatMap lineOf
    | .tree =>
      if a.pretty then
        match f.graph.lines .boxes f.result with
        | .ok ls => ls.flatMap lineOf
        | .error .notAMapping => []
      else document f.outline.toJson

def shownUnresolved (specifiers : List Text) : Text :=
  if specifiers.isEmpty then []
  else
    lineOf s!"{specifiers.length} specifier(s) could not be resolved:".toList
      ++ specifiers.flatMap fun s => lineOf ("  - ".toList ++ s)

def ending (a : Arguments) (ran : Except Run.Fault Report) (log : List Log.Record) : Ending :=
  let errorLine (message : String) : Text := lineOf s!"ERROR: {message}".toList
  match ran with
  | .error fault =>
    let message := s!"Traversal failed: {fault.message}"
    ⟨1, [], errorLine message, log ++ [⟨.critical, message⟩]⟩
  | .ok (.rejected reason ..) => ⟨2, [], errorLine reason, log⟩
  | .ok (.found f) =>
    ⟨0, shown a f, if a.showNonExistent then shownUnresolved f.unresolved else [], log⟩

def call (w : World) (words : List Text) : Ending :=
  match requestOf words with
  | .error r => r.ending w
  | .ok .help => helpEnding w
  | .ok (.run a) =>
    let started : Log.Record := ⟨.debug, "CLI execution initiated. Resolving configuration..."⟩
    let ran := Run.run w (.obj (settingsOf w a))
    let level : Log.Level := if a.debug then .debug else .warning
    let e := ending a ran.value (started :: ran.notes)
    { e with log := e.log.filter fun r => level.weight ≤ r.level.weight }

def logLine (r : Log.Record) : Text := lineOf s!"{r.level.name} | {r.message}".toList

end ModuleGraph.CommandLine
