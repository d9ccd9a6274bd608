import ModuleGraph.FileSystem.Basic

/-! The surroundings of a run: the files, the working directory, against which relative paths
are looked up, the environment, from which `~` and `$NAME` in paths are filled in, and what the
readers of documents and programs are bound to. -/

namespace ModuleGraph

/-- The variables of a process. A name ends at the first `=`, and nothing holds U+0000. -/
structure Environment where
  bindings : List (Text × Text)
  wellFormed : ∀ m ∈ bindings, '=' ∉ m.1 ∧ '\x00' ∉ m.1 ∧ '\x00' ∉ m.2

namespace Environment

def empty : Environment := ⟨[], nofun⟩

def of (entries : List (Text × Text)) : Environment where
  bindings := entries.filter fun m => '=' ∉ m.1 ∧ '\x00' ∉ m.1 ∧ '\x00' ∉ m.2
  wellFormed _ hm := of_decide_eq_true (List.mem_filter.mp hm).2

end Environment

/-- `nesting` is the number of arrays and objects of a document that may stand inside each other
before its reader runs out of stack. -/
structure World where
  files : FileSystem
  workingDirectory : Path
  environment : Environment
  nesting : Nat
  isCharacterName : Text → Bool

namespace World

def environmentValue? (w : World) (name : Text) : Option Text :=
  w.environment.bindings.lookup name

def lookup (w : World) (p : Path) : Except FileSystem.Fault (Location × Entry) :=
  if p.isEmpty then .error .notFound else w.files.lookup (Path.join w.workingDirectory p)

def pathExists (w : World) (p : Path) : Bool := (w.lookup p).isOk

def isFile (w : World) (p : Path) : Bool :=
  match w.lookup p with
  | .ok (_, .directory) => false
  | .ok _ => true
  | .error _ => false

def isDirectory (w : World) (p : Path) : Bool :=
  match w.lookup p with
  | .ok (_, .directory) => true
  | _ => false

def open_ (w : World) (p : Path) : Except FileSystem.Fault Text.Utf8.Bytes := do
  match ← w.lookup p with
  | (_, .directory) => .error .isDirectory
  | (_, .unreadable) => .error .denied
  | (_, .file bytes) => .ok bytes

inductive ReadFault where
  | system (path : Path) (fault : FileSystem.Fault)
  | encoding (fault : Text.Utf8.Fault)
  | nullCharacter
  deriving DecidableEq

def ReadFault.message : ReadFault → String
  | .system path fault =>
    let name := (Text.quoted path).string
    s!"[Errno {fault.code}] {fault.message}: {name}"
  | .encoding fault => fault.message
  | .nullCharacter => "embedded null byte"

def unifyLineEnds : Text → Text
  | [] => []
  | '\r' :: '\n' :: rest => '\n' :: unifyLineEnds rest
  | '\r' :: rest => '\n' :: unifyLineEnds rest
  | c :: rest => c :: unifyLineEnds rest

def read (w : World) (p : Path) : Except ReadFault Text :=
  if p.contains '\x00' then .error .nullCharacter
  else match w.open_ p with
    | .error fault => .error (.system p fault)
    | .ok bytes => match Text.Utf8.decode bytes with
      | .error fault => .error (.encoding fault)
      | .ok text => .ok (unifyLineEnds text)

def absolute (w : World) (p : Path) : Path := Path.absolute w.workingDirectory p

/-- A leading `~` stands for the home directory. A name behind it would be a user's; no users
are known, so such a path stays as it is. -/
def expandHome (w : World) (p : Path) : Path :=
  match p with
  | '~' :: rest =>
    if rest.isEmpty || Path.isAbsolute rest then
      match w.environmentValue? "HOME".toList with
      | none => p
      | some home =>
        let full := Text.dropTail (· = '/') home ++ rest
        if full.isEmpty then ['/'] else full
    else p
  | _ => p

/-- The system refuses to look for a user whose name holds U+0000. -/
def refusesUser (p fallback : Path) : Bool :=
  let p := Text.trim p
  match if p.isEmpty then fallback else p with
  | '~' :: rest => (rest.takeWhile (· ≠ '/')).contains '\x00'
  | _ => false

def isNameChar (c : Char) : Bool := c.isAlphanum || c = '_'

def variableName? (s : Text) : Option (Text × Text) :=
  match s with
  | '{' :: rest => Text.cut? '}' rest
  | _ =>
    let name := s.takeWhile isNameChar
    if name.isEmpty then none else some (name, s.drop name.length)

/-- Each `$NAME` of a set variable is replaced by its value, which is not expanded again. Each
step uses up a character of `s`, so `fuel` may be its length. -/
def expandFrom (w : World) : (fuel : Nat) → Text → Text
  | 0, s => s
  | _, [] => []
  | fuel + 1, '$' :: rest =>
    match variableName? rest with
    | none => '$' :: expandFrom w fuel rest
    | some (name, after) =>
      match w.environmentValue? name with
      | some value => value ++ expandFrom w fuel after
      | none => '$' :: rest.take (rest.length - after.length) ++ expandFrom w fuel after
  | fuel + 1, c :: rest => c :: expandFrom w fuel rest

def expandVariables (w : World) (p : Path) : Path := w.expandFrom p.length p

def userDirectory (w : World) (p fallback : Path) : Path :=
  let p := Text.trim p
  let p := if p.isEmpty then fallback else p
  w.absolute (w.expandVariables (w.expandHome p))

def canonical (w : World) (p : Path) (anchor : Option Path) : Path :=
  match anchor with
  | some (c :: rest) => Path.canonical (c :: rest) p
  | _ => Path.canonical w.workingDirectory p

end World
end ModuleGraph
