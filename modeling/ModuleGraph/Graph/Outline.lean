import ModuleGraph.Distinct
import ModuleGraph.Graph.Basic
import ModuleGraph.Json.Value

/-! Outlines: finite nested mappings. A graph unfolds to an outline that shows a node once on each
way down: where a node stands below itself it is cut off. -/

namespace ModuleGraph

inductive Outline where
  | mk (members : List (Text × Outline))
  deriving Inhabited

namespace Outline

def members : Outline → List (Text × Outline)
  | mk ms => ms

def empty : Outline := mk []

def ofNames (names : List Text) : Outline := mk ((distinct names).map fun n => (n, empty))

mutual

def toJson : Outline → Json.Value
  | mk ms => .obj (membersToJson ms)

def membersToJson : List (Text × Outline) → Json.Object
  | [] => []
  | (name, o) :: rest => (name, toJson o) :: membersToJson rest

end

end Outline

namespace Graph

def off (g : Graph) (above : List NodeId) : List NodeId :=
  (List.range g.size).filter (· ∉ above)

theorem length_off_cons (g : Graph) {above : List NodeId} {id : NodeId} (h : id ∉ above)
    (hid : id < g.size) : (g.off (id :: above)).length < (g.off above).length := by
  unfold off
  have hsub : (List.range g.size).filter (· ∉ id :: above)
      = ((List.range g.size).filter (· ∉ above)).filter (· ≠ id) := by
    simp [List.filter_filter, not_or]
  rw [hsub]
  exact List.length_filter_lt_length_iff_exists.2 ⟨id, by simp [h, hid], by simp⟩

def unfold (g : Graph) (above : List NodeId) : Ref → Outline
  | .list items => .ofNames items
  | .node id =>
    if _h : id ∉ above ∧ id < g.size then
      .mk ((g.members id).map fun (name, r) => (name, unfold g (id :: above) r))
    else .empty
termination_by (g.off above).length
decreasing_by exact length_off_cons g _h.1 _h.2

def outline (g : Graph) (r : Ref) : Outline := g.unfold [] r

mutual

def graft (g : Graph) : Outline → Graph × NodeId
  | .mk ms =>
    let (g, t) := graftAll g ms
    g.add (.ofList t)

def graftAll (g : Graph) : List (Text × Outline) → Graph × List (Text × Ref)
  | [] => (g, [])
  | (name, o) :: rest =>
    let (g, id) := graft g o
    let (g, t) := graftAll g rest
    (g, (name, .node id) :: t)

end

end Graph
end ModuleGraph
