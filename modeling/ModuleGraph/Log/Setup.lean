import ModuleGraph.Log.File

/-! The set-up of logging: where records go, from which level on. Setting up again has no effect
unless it is forced. Handlers of others are left alone. -/

namespace ModuleGraph.Log

def Level.all : List Level := [.debug, .info, .warning, .error, .critical]

def Level.named? (name : Text) : Option Level := Level.all.find? fun l => l.name.toList = name

/-- The level that a user names: blanks around the name and its case do not matter, and `WARN` is
short for the warning level. Any other name means that level, too. -/
def Level.ofSetting (s : Text) : Level :=
  let upper (c : Char) : Char := if c = 'ı' then 'I' else c.toUpper
  let name := (Text.trim s).map upper
  (Level.named? name).getD .warning

structure Setup where
  level : Level
  console : Bool
  file : Option Path
  maxBytes : Int
  backups : Int
  consoleTemplate : Text
  fileTemplate : Text

/-- What this library has put among the handlers: a queue, from which lines go to the console and
to a file, or the console alone where the set-up failed. -/
inductive Own where
  | queue (console : Option (Level × Text)) (file : Option LogFile)
  | fallback

def Own.className : Own → String
  | .queue .. => "QueueHandler"
  | .fallback => "StreamHandler"

structure Logging where
  files : FileSystem
  level : Level
  own : Option Own
  others : Nat
  console : Text

namespace Logging

def start (files : FileSystem) : Logging where
  files := files
  level := .warning
  own := none
  others := 0
  console := []

def isConfigured (l : Logging) : Bool :=
  match l.own with
  | some (.queue ..) => true
  | _ => false

def handlerCount (l : Logging) : Nat := (if l.own.isSome then 1 else 0) + l.others

def shutdown (l : Logging) : Logging := { l with own := none }

def withForeign (l : Logging) : Logging := { l with others := l.others + 1 }

def say (l : Logging) (line : Text) : Logging := { l with console := l.console ++ line ++ ['\n'] }

def sayIfAny (l : Logging) (line : Option Text) : Logging :=
  match line with
  | some line => l.say line
  | none => l

def fallbackTemplate : Text := "FALLBACK | %(levelname)s | %(message)s".toList

def emit (l : Logging) (e : Event) : Logging :=
  let reaches (level : Level) : Bool := level.weight ≤ e.level.weight
  if !reaches l.level then l
  else match l.own with
  | none => l
  | some .fallback => l.sayIfAny (Template.line? fallbackTemplate e)
  | some (.queue console file) =>
    let l := match console with
      | some (level, template) =>
        if reaches level then l.sayIfAny (Template.line? template e) else l
      | none => l
    match file with
    | some f =>
      match if reaches f.level then Template.line? f.template e else none with
      | some line => { l with files := f.append l.files line }
      | none => l
    | none => l

def rootLogger : Text := "root".toList

def fallBack (l : Logging) (reason : String) : Logging :=
  let message := s!"Logging set-up failed ({reason}). Switched to plain console output."
  emit { l.shutdown with own := some .fallback } ⟨rootLogger, .warning, message.toList⟩

def templateOf (s : Text) : Text := if s.isEmpty then "%(message)s".toList else s

def checkTemplate (s : Text) : Except String Text :=
  let template := templateOf s
  if Template.hasSlot template then .ok template
  else .error s!"Invalid format '{Text.string template}' for '%' style"

def withFile (l : Logging) (s : Setup) (p : Path) (template : Text) : Logging × Option LogFile :=
  let path := Path.normal p
  match LogFile.opened l.files path with
  | .ok files => ({ l with files := files }, some ⟨path, s.level, template, s.maxBytes, s.backups⟩)
  | .error fault =>
    let message := s!"WARNING: Cannot open log file '{Text.string p}': {fault.message}"
    (l.say message.toList, none)

def configure (l : Logging) (s : Setup) (force : Bool) : Logging :=
  if l.isConfigured && !force then l
  else
    let l := { l.shutdown with level := s.level }
    let templates := do
      let console ← if s.console then some <$> checkTemplate s.consoleTemplate else pure none
      let file ← if s.file.isSome then some <$> checkTemplate s.fileTemplate else pure none
      return (console, file)
    match templates with
    | .error reason => l.fallBack reason
    | .ok (console, fileTemplate) =>
      if (s.file.getD []).contains '\x00' then l.fallBack "embedded null byte"
      else
      let (l, file) := match s.file, fileTemplate with
        | some p, some template => l.withFile s p template
        | _, _ => (l, none)
      if console.isNone && file.isNone then l
      else { l with own := some (.queue (console.map fun t => (s.level, t)) file) }

end Logging
end ModuleGraph.Log
