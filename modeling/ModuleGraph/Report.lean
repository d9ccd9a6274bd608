import ModuleGraph.Graph.Lines
import ModuleGraph.Walk.Shape

/-! What a run reports: that its settings were rejected and why, or what a walk found. -/

namespace ModuleGraph

structure Findings where
  filename : Path
  directory : Path
  shape : Shape
  graph : Graph
  result : Ref
  unresolved : List Text
  visitedCount : Nat
  filesWalked : Nat
  excludePatterns : List Text

inductive Report where
  | rejected (reason : String) (filename directory : Text) (shape : Shape)
  | found (f : Findings)

namespace Findings

def outline (f : Findings) : Outline :=
  match f.shape with
  | .tree => f.graph.outline f.result
  | .list => .empty

def dependencies (f : Findings) : List Path :=
  match f.shape with
  | .tree => []
  | .list => f.graph.namesOf f.result

def summary (f : Findings) : Json.Object :=
  [("files_walked".toList, .int f.filesWalked),
   ("non_existent_count".toList, .int f.unresolved.length),
   ("exclude_patterns".toList, .arr (f.excludePatterns.map .str))]

end Findings

namespace Report

def toObjectWith (tree : Outline → Json.Value) (r : Report) : Json.Object :=
  let texts (ss : List Text) : Json.Value := .arr (ss.map .str)
  let member (name : String) (v : Json.Value) : Text × Json.Value := (name.toList, v)
  match r with
  | .rejected reason filename directory shape =>
    [member "ok" (.bool false), member "error" (.str reason.toList),
     member "filename" (.str filename), member "directory" (.str directory),
     member "is_list_form" (.bool (shape = .list)), member "tree" (tree .empty),
     member "dependencies" (.arr []), member "non_existent" (.arr []),
     member "visited_count" (.int 0), member "summary" (.obj [])]
  | .found f =>
    [member "ok" (.bool true), member "error" (.str []),
     member "filename" (.str f.filename), member "directory" (.str f.directory),
     member "is_list_form" (.bool (f.shape = .list)), member "tree" (tree f.outline),
     member "dependencies" (texts f.dependencies), member "non_existent" (texts f.unresolved),
     member "visited_count" (.int f.visitedCount), member "summary" (.obj f.summary)]

def toObject (r : Report) : Json.Object := r.toObjectWith Outline.toJson

end Report
end ModuleGraph
