import ModuleGraph.CommandLine.Call

/-! The command line. A call sees the directories around it as they stand when it begins: what is
below the working directory and below the directories that its words name. -/

namespace ModuleGraph.Snapshot

/-- Only the content of files of a family and of settings is ever asked for. -/
def isRead (name : Text) : Bool :=
  (Family.of? name).isSome || Path.extension name = ".json".toList

/-- The entries of a directory and of the directories below it. Links to directories are not
followed, so that no directory is met twice. -/
partial def below (loc : Location) (items : Array IO.FS.DirEntry) :
    IO (List (Location × Entry)) := do
  let mut found : List (Location × Entry) := []
  for item in items do
    let here := item.fileName.toList :: loc
    match (← item.path.symlinkMetadata).type with
    | .dir =>
      let inner ← try below here (← item.path.readDir) catch _ => pure []
      found := (here, .directory) :: inner ++ found
    | _ =>
      if !(← item.path.isDir) && (← item.path.pathExists) then
        let entry ← try
          if isRead item.fileName.toList then
            pure (Entry.file (← IO.FS.readBinFile item.path).toList)
          else pure (Entry.file [])
        catch _ => pure .unreadable
        found := (here, entry) :: found
  return found

def locationOf (p : Path) : Location :=
  ((Path.components p).filter fun c => !c.isEmpty).reverse

def around (loc : Location) (items : Array IO.FS.DirEntry) : IO (List (Location × Entry)) := do
  return (FileSystem.empty.withParents loc).entries ++ (← below loc items)

def variableNames : Text → List Text
  | [] => []
  | c :: rest =>
    let name := if c = '$' then World.variableName? rest else none
    (name.map (·.1)).toList ++ variableNames rest

def environmentFor (words : List Text) : IO (List (Text × Text)) := do
  let names := "HOME".toList :: "COLUMNS".toList :: words.flatMap variableNames
  names.filterMapM fun name => do
    return (← IO.getEnv (Text.string name)).map fun value => (name, value.toList)

def named (word : Text) : List Text :=
  [word] ++ ((Text.cut? '=' word).map (·.2)).toList

/-- The world of a call with these words. A file that a word names is read whatever its name. The
stack of the reader holds a thousand calls, some of which are under way when a document is read. -/
def world (words : List Text) : IO World := do
  let start ← IO.currentDir
  let cwd := start.toString.toList
  let empty : World := {
    files := .empty
    workingDirectory := cwd
    environment := .of (← environmentFor words)
    nesting := 990
    isCharacterName := fun name => (Text.characterNamed? name).isSome }
  let mut entries ← around (locationOf cwd) (← start.readDir)
  let within (p : Path) : Bool := Text.beginsWith (cwd ++ ['/']) p || p = cwd
  for path in (words.flatMap named).map (empty.userDirectory · cwd) do
    let place := start / Text.string path
    let directory := if ← place.isDir then path else Path.parent path
    if !within directory then
      let items ← try (start / Text.string directory).readDir catch _ => pure #[]
      entries := entries ++ (← around (locationOf directory) items)
    if !(← place.isDir) && (← place.pathExists) then
      let entry ← try Entry.file <$> ByteArray.toList <$> IO.FS.readBinFile place
        catch _ => pure .unreadable
      entries := (locationOf path, entry) :: entries
  return { empty with files := ⟨entries⟩ }

def keepLog (words : List Text) (lines : Text) : IO Unit := do
  let .ok (.run a) := CommandLine.requestOf words | return
  let .text (c :: rest) := a.logFile | return
  let name := Text.string (c :: rest)
  try
    let file ← IO.FS.Handle.mk name .append
    file.putStr (Text.string lines)
  catch fault => IO.eprintln s!"WARNING: Cannot open log file '{name}': {fault}"

end ModuleGraph.Snapshot

def main (args : List String) : IO UInt32 := do
  let words := args.map String.toList
  let ending := ModuleGraph.CommandLine.call (← ModuleGraph.Snapshot.world words) words
  let log := ending.log.flatMap ModuleGraph.CommandLine.logLine
  ModuleGraph.Snapshot.keepLog words log
  IO.eprint (ModuleGraph.Text.string log)
  IO.print (ModuleGraph.Text.string ending.output)
  IO.eprint (ModuleGraph.Text.string ending.errors)
  return ending.exit.toUInt32
