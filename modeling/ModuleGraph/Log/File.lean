import ModuleGraph.FileSystem.World
import ModuleGraph.Log.Template

/-! Log files. A file is kept below a size: before a line would reach it, the file is set aside
under its name with `.1` behind it, the files set aside before move up by one, and a new file is
begun. -/

namespace ModuleGraph.Log

structure LogFile where
  path : Path
  level : Level
  template : Text
  maxBytes : Int
  backups : Int

namespace LogFile

structure Fault where
  path : Path
  cause : FileSystem.Fault
  deriving DecidableEq, Repr

def Fault.message (f : Fault) : String := (World.ReadFault.system f.path f.cause).message

def namesOf (p : Path) : List Text := (Path.components p).filter fun c => !c.isEmpty

def pathOf (loc : Location) : Path := '/' :: Text.joined ['/'] loc.reverse

/-- Makes the directories of `names` below `loc`. A file on the way stops the first name behind
it; a file that is itself the last name stays. -/
def makeDirectories (fs : FileSystem) (loc : Location) : List Text → Except Fault FileSystem
  | [] => .ok fs
  | c :: rest =>
    let here := c :: loc
    match fs.entry? here with
    | none => makeDirectories (fs.write here .directory) here rest
    | some .directory => makeDirectories fs here rest
    | some _ =>
      match rest with
      | [] => .ok fs
      | d :: _ => .error ⟨pathOf (d :: here), .notDirectory⟩

def opened (fs : FileSystem) (p : Path) : Except Fault FileSystem := do
  let names := namesOf p
  let fs ← makeDirectories fs [] names.dropLast
  match fs.lookup p with
  | .ok (_, .file _) => return fs
  | .ok (_, .directory) => .error ⟨p, .isDirectory⟩
  | .ok (_, .unreadable) => .error ⟨p, .denied⟩
  | .error .notFound => return fs.write names.reverse (.file [])
  | .error cause => .error ⟨p, cause⟩

def bytesAt (fs : FileSystem) (p : Path) : Text.Utf8.Bytes :=
  match fs.entry? (namesOf p).reverse with
  | some (.file bytes) => bytes
  | _ => []

def move (fs : FileSystem) (source target : Path) : FileSystem :=
  match fs.entry? (namesOf source).reverse with
  | some (.file bytes) =>
    (fs.remove (namesOf source).reverse).write (namesOf target).reverse (.file bytes)
  | _ => fs

def numbered (p : Path) (n : Nat) : Path := p ++ '.' :: (toString n).toList

def moveUp (fs : FileSystem) (p : Path) : (n : Nat) → FileSystem
  | 0 => fs
  | n + 1 => moveUp (move fs (numbered p (n + 1)) (numbered p (n + 2))) p n

def rolledOver (fs : FileSystem) (f : LogFile) : FileSystem :=
  match f.backups.toNat with
  | 0 => fs
  | n + 1 =>
    let fs := move (moveUp fs f.path n) f.path (numbered f.path 1)
    fs.write (namesOf f.path).reverse (.file [])

/-- Writes a line at the end of the file, after setting the file aside if the line would reach
the size that is allowed. -/
def append (fs : FileSystem) (f : LogFile) (line : Text) : FileSystem :=
  let size := (bytesAt fs f.path).length
  let full := 0 < f.maxBytes && f.maxBytes ≤ ((size + line.length + 1 : Nat) : Int)
  let fs := if full then rolledOver fs f else fs
  let bytes := bytesAt fs f.path ++ Text.Utf8.encode (line ++ ['\n'])
  fs.write (namesOf f.path).reverse (.file bytes)

end LogFile
end ModuleGraph.Log
