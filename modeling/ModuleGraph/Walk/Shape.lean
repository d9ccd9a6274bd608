import ModuleGraph.Distinct
import ModuleGraph.Graph.Basic
import ModuleGraph.Visited

/-! The two shapes of a result. The tree of a file is a node that maps each dependency to that
dependency's node; the list of a file holds everything that the file needs, a dependency before
what depends on it, and the file itself last. -/

namespace ModuleGraph

inductive Shape where
  | tree
  | list
  deriving DecidableEq, Repr

namespace Shape

def empty (s : Shape) (g : Graph) : Graph × Ref :=
  match s with
  | .tree => let (g, id) := g.add []; (g, .node id)
  | .list => (g, .list [])

/-- The result of a file from those of its dependencies. A node is filled where it stands, so
that whatever already holds it sees the names that come in. -/
def assemble (s : Shape) (g : Graph) (file : Path) (deps : List (Path × Ref))
    (provisional : Ref) : Graph × Ref :=
  match s, provisional with
  | .tree, .node id => (g.extend id deps, .node id)
  | .tree, r => (g, r)
  | .list, _ =>
    let needed := deps.flatMap fun (_, r) => g.namesOf r
    (g, .list ((distinct needed).filter (· ≠ file) ++ [file]))

def finalize (s : Shape) (g : Graph) (entry : Path) (r : Ref) : Graph × Ref :=
  match s with
  | .tree => let (g, id) := g.add [(entry, r)]; (g, .node id)
  | .list => (g, .list (distinct (g.namesOf r)))

end Shape

/-! A list that was put together while one of the dependencies was in progress lacks what came
later. It is made anew from the direct dependencies of the files walked in the run. -/

structure PostOrder where
  entered : List Path
  left : List Path

namespace PostOrder

def start : PostOrder := ⟨[], []⟩

def take (o : PostOrder) (name : Path) : PostOrder :=
  if name ∈ o.entered then o else ⟨name :: o.entered, o.left ++ [name]⟩

/-- Visits a file below the files entered so far. A file of this run is followed through its
dependencies, any other contributes the names of the result that it has. Each step down enters
one more file of the run, so that a `fuel` above their number is enough. -/
def visit (dependencies : Table Path (List Path)) (known : Path → List Text) :
    (fuel : Nat) → PostOrder → Path → PostOrder
  | 0, o, _ => o
  | fuel + 1, o, file =>
    let o : PostOrder := ⟨file :: o.entered, o.left⟩
    let o := match dependencies.get? file with
      | some deps => deps.foldl (fun (o : PostOrder) d =>
          if d ∈ o.entered then o else visit dependencies known fuel o d) o
      | none => (known file).foldl take o
    ⟨o.entered, o.left ++ [file]⟩

def below (dependencies : Table Path (List Path)) (known : Path → List Text) (file : Path) :
    List Path :=
  (visit dependencies known (dependencies.length + 1) start file).left

end PostOrder

/-- Makes the result of a file held back anew. Nodes need nothing: what came later has been put
into them where they stand. -/
def Shape.renew (s : Shape) (g : Graph) (dependencies : Table Path (List Path))
    (visited : Visited Ref) (file : Path) : Except Visited.Fault (Visited Ref) :=
  match s with
  | .tree => .ok visited
  | .list => do
    let known other := ((visited.results.get? other).map g.namesOf).getD []
    let _ ← visited.result file
    return visited.revise file (.list (PostOrder.below dependencies known file))

end ModuleGraph
