import ModuleGraph.Path
import ModuleGraph.Pattern.Reader
import ModuleGraph.Pattern.Search

/-! Exclusion of paths by patterns. What is not well formed excludes nothing. -/

namespace ModuleGraph.Exclusion

def valid (patterns : List Text) : List Text :=
  patterns.filter fun s => (Pattern.read s).isOk

def readAll (patterns : List Text) : List Pattern :=
  patterns.filterMap fun s => (Pattern.read s).toOption

/-- The first fault that is not caught. -/
def escaping? (patterns : List Text) : Option Pattern.Fault :=
  patterns.findSome? fun s => match Pattern.read s with
    | .ok _ | .error .malformed => none
    | .error fault => some fault

def matchesAny (patterns : List Pattern) (p : Path) : Bool := patterns.any fun q => q.foundIn p

def filter? (patterns : List Text) : Option (Path → Bool) :=
  let read := readAll patterns
  if read.isEmpty then none else some fun p => !matchesAny read p

end ModuleGraph.Exclusion
