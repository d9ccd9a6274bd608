import ModuleGraph.Table
import ModuleGraph.Text.Basic

/-! Nodes that map names to further nodes. A node may stand under several others and below itself;
what is put into a node is seen wherever the node stands. Besides nodes there are plain lists. -/

namespace ModuleGraph

abbrev NodeId := Nat

inductive Ref where
  | node (id : NodeId)
  | list (items : List Text)
  deriving DecidableEq, Repr

/-- The mappings of the nodes; a node's number is its position. -/
structure Graph where
  nodes : List (Table Text Ref)

namespace Graph

def empty : Graph := ⟨[]⟩

def size (g : Graph) : Nat := g.nodes.length

def members (g : Graph) (id : NodeId) : Table Text Ref := g.nodes[id]?.getD []

def add (g : Graph) (t : Table Text Ref) : Graph × NodeId := (⟨g.nodes ++ [t]⟩, g.size)

def extend (g : Graph) (id : NodeId) (more : List (Text × Ref)) : Graph :=
  ⟨g.nodes.modify id fun t => t.update more⟩

def namesOf (g : Graph) : Ref → List Text
  | .node id => (g.members id).keys
  | .list items => items

@[simp] theorem size_add (g : Graph) (t : Table Text Ref) : (g.add t).1.size = g.size + 1 := by
  simp [size, add]

@[simp] theorem size_extend (g : Graph) (id : NodeId) (more : List (Text × Ref)) :
    (g.extend id more).size = g.size := by
  simp [size, extend]

theorem add_lt_size (g : Graph) (t : Table Text Ref) : (g.add t).2 < (g.add t).1.size := by
  rw [size_add]
  exact Nat.lt_succ_self _

theorem members_add_new (g : Graph) (t : Table Text Ref) :
    (g.add t).1.members (g.add t).2 = t := by
  simp [members, add, size]

theorem members_add_old (g : Graph) (t : Table Text Ref) {id : NodeId} (h : id < g.size) :
    (g.add t).1.members id = g.members id := by
  simp [members, add, List.getElem?_append_left (show id < g.nodes.length from h)]

theorem members_extend (g : Graph) (id : NodeId) (more : List (Text × Ref)) (other : NodeId) :
    (g.extend id more).members other =
      if id = other ∧ id < g.size then (g.members other).update more else g.members other := by
  simp only [members, extend, size, List.getElem?_modify]
  by_cases h : id = other
  · subst h
    by_cases hid : id < g.nodes.length <;> simp [hid]
  · simp [h]

end Graph
end ModuleGraph
