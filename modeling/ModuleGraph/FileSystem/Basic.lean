import ModuleGraph.Path
import ModuleGraph.Text.Quoted
import ModuleGraph.Text.Utf8

/-! A finite file system without links: directories and files at locations. A path is looked up
by walking its components from the root; each step needs a directory to start from, also a step
that stays where it is. -/

namespace ModuleGraph

inductive Entry where
  | directory
  | file (bytes : Text.Utf8.Bytes)
  | unreadable
  deriving DecidableEq

/-- The names from an entry up to the root, the entry's own name first. -/
abbrev Location := List Text

structure FileSystem where
  entries : List (Location × Entry)

namespace FileSystem

def empty : FileSystem := ⟨[]⟩

def entry? (fs : FileSystem) (loc : Location) : Option Entry :=
  if loc.isEmpty then some .directory
  else (fs.entries.find? fun e => e.1 = loc).map (·.2)

inductive Fault where
  | notFound
  | notDirectory
  | isDirectory
  | denied
  deriving DecidableEq, Repr

def Fault.code : Fault → Nat
  | .notFound => 2
  | .denied => 13
  | .notDirectory => 20
  | .isDirectory => 21

def Fault.message : Fault → String
  | .notFound => "No such file or directory"
  | .denied => "Permission denied"
  | .notDirectory => "Not a directory"
  | .isDirectory => "Is a directory"

def step (fs : FileSystem) (loc : Location) (c : Text) : Except Fault Location :=
  match fs.entry? loc with
  | none => .error .notFound
  | some .directory =>
    if c.isEmpty || c = Path.here then .ok loc
    else if c = Path.parentName then .ok loc.tail
    else .ok (c :: loc)
  | some _ => .error .notDirectory

/-- The location at which the walk along an absolute path ends, and what stands there. The
empty path and a path with U+0000 lead nowhere. -/
def lookup (fs : FileSystem) (p : Path) : Except Fault (Location × Entry) :=
  if p.isEmpty || p.contains '\x00' then .error .notFound
  else do
    let loc ← (Path.components p).foldlM fs.step []
    match fs.entry? loc with
    | none => .error .notFound
    | some e => .ok (loc, e)

def withParents (fs : FileSystem) : Location → FileSystem
  | [] => fs
  | name :: outer =>
    let fs := withParents fs outer
    match fs.entry? (name :: outer) with
    | some _ => fs
    | none => ⟨fs.entries ++ [(name :: outer, .directory)]⟩

def remove (fs : FileSystem) (loc : Location) : FileSystem :=
  ⟨fs.entries.filter fun e => !loc.isSuffixOf e.1⟩

def write (fs : FileSystem) (loc : Location) (e : Entry) : FileSystem :=
  let fs := withParents fs loc.tail
  if e = .directory ∧ fs.entry? loc = some .directory then fs
  else ⟨fs.entries.filter (fun x => x.1 ≠ loc) ++ [(loc, e)]⟩

end FileSystem
end ModuleGraph
