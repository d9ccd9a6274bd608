import ModuleGraph.Log.Record
import ModuleGraph.Visited
import ModuleGraph.Walk.Shape

/-! What a walk through the files works with: the collaborators that it asks, the state that it
leaves, also when it breaks off, and the steps of which it is made. -/

namespace ModuleGraph.Walk

/-- What a walk asks about files. Extraction and resolution may fail, with a reason; a filter
may break off the walk. `depth` is one more than the number of files that can lie on one way
down, none of them twice. -/
structure Collaborators where
  canonical : Path → Path
  isPresent : Path → Bool
  extract : Path → Noted (Except String (List Text))
  resolve : Text → Path → Noted (Except String (Option Path))
  accept : Option (Path → Path → Except String Bool)
  depth : Nat

inductive Fault where
  | cache (fault : Visited.Fault)
  | filter (reason : String)
  | tooDeep
  deriving DecidableEq, Repr

def Fault.message : Fault → String
  | .cache fault => fault.message
  | .filter reason => reason
  | .tooDeep => "the files lie deeper than they can"

structure State where
  graph : Graph
  visited : Visited Ref
  unresolved : List Text
  completed : List Path
  dependencies : Table Path (List Path)
  pending : List Path
  extracted : List Path
  judged : List (Path × Path)
  notes : List Log.Record

def State.start (g : Graph) (results : Table Path Ref) (unresolved : List Text) : State where
  graph := g
  visited := .ofResults results
  unresolved := unresolved
  completed := []
  dependencies := []
  pending := []
  extracted := []
  judged := []
  notes := []

end Walk

def Walk (α : Type) := Walk.State → Except Walk.Fault α × Walk.State

namespace Walk

variable {α β : Type}

protected def pure (a : α) : Walk α := fun s => (.ok a, s)

protected def bind (x : Walk α) (f : α → Walk β) : Walk β := fun s =>
  match x s with
  | (.error e, s) => (.error e, s)
  | (.ok a, s) => f a s

instance : Monad Walk where
  pure := Walk.pure
  bind := Walk.bind

def get : Walk State := fun s => (.ok s, s)

def modify (f : State → State) : Walk Unit := fun s => (.ok (), f s)

def fail (e : Fault) : Walk α := fun s => (.error e, s)

def forEach (f : α → Walk β) : List α → Walk (List β)
  | [] => return []
  | a :: rest => do
    let b ← f a
    let bs ← forEach f rest
    return b :: bs

def note (level : Log.Level) (message : String) : Walk Unit :=
  modify fun s => { s with notes := s.notes ++ [⟨level, message⟩] }

def hear (x : Noted α) : Walk α := do
  modify fun s => { s with notes := s.notes ++ x.notes }
  return x.value

def build (f : Graph → Graph × Ref) : Walk Ref := fun s =>
  let (g, r) := f s.graph
  (.ok r, { s with graph := g })

def onVisited (f : Visited Ref → Except Visited.Fault (Visited Ref)) : Walk Unit := do
  match f (← get).visited with
  | .error e => fail (.cache e)
  | .ok v => modify fun s => { s with visited := v }

end Walk
end ModuleGraph
