import ModuleGraph.Distinct
import ModuleGraph.Graph.Outline

/-! The lines that draw a graph below a node. The names that the node maps stand at the margin;
what is below a name is indented and joined to it. A node that is being drawn already is named
and marked, and not drawn again. -/

namespace ModuleGraph

structure Strokes where
  branch : Text
  lastBranch : Text
  through : Text
  blank : Text
  circular : Text

def Strokes.boxes : Strokes where
  branch := "├── ".toList
  lastBranch := "└── ".toList
  through := "│   ".toList
  blank := "    ".toList
  circular := " (circular)".toList

namespace Graph

def markLast {α : Type} : List α → List (α × Bool)
  | [] => []
  | [a] => [(a, true)]
  | a :: rest => (a, false) :: markLast rest

/-- The lines below a node: its own names, each followed by what is below it. `above` holds the
nodes that are being drawn, this one among them. -/
def linesBelow (s : Strokes) (g : Graph) (above : List NodeId) (indent : Text)
    (members : List (Text × Ref)) : List Text :=
  (markLast members).flatMap fun ((name, r), last) =>
    let stem := indent ++ (if last then s.lastBranch else s.branch) ++ name
    let deeper := indent ++ (if last then s.blank else s.through)
    match r with
    | .list items =>
      stem :: (markLast (distinct items)).map fun (item, last) =>
        deeper ++ (if last then s.lastBranch else s.branch) ++ item
    | .node id =>
      if _h : id ∈ above then [stem ++ s.circular]
      else if _hid : id < g.size then
        stem :: linesBelow s g (id :: above) deeper (g.members id)
      else [stem]
termination_by (g.off above).length
decreasing_by exact length_off_cons g _h _hid

inductive LinesFault where
  | notAMapping
  deriving DecidableEq, Repr

def lines (s : Strokes) (g : Graph) (root : Ref) : Except LinesFault (List Text) :=
  match root with
  | .list _ => .error .notAMapping
  | .node top => .ok <| (g.members top).flatMap fun (name, r) =>
    match r with
    | .list items =>
      name :: linesBelow s g [top] [] ((distinct items).map fun n => (n, .list []))
    | .node id => name :: linesBelow s g [top, id] [] (g.members id)

end Graph
end ModuleGraph
