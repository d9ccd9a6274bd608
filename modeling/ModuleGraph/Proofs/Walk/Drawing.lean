import ModuleGraph.Proofs.Graph.Graft
import ModuleGraph.Proofs.Walk.Built

/-! The drawing of a result in tree form agrees with that of its outline, line by line, but for the
marks of the ways that come back. The cache may hold any nodes, also such as go round in circles. -/

namespace ModuleGraph.Walk

variable {o : Options} {w : World} {cache : Cache} {unresolved : List Text} {y : Outcome}

/-- The drawing of a result in tree form beside that of its outline, which is its finite copy: both
have a line for each way down the outline. A line in the one is the same as in the other, but has a
mark if its way is below the margin and comes back to a node that it has passed. Without the mark it
ends with the name to which the way leads, four columns further in for each name before it. -/
theorem drawing_agrees_with_outline (htree : o.shape = .tree) (hcache : cache.Built)
    (hy : perform w o cache unresolved = .ok y) {r : Ref} (hr : y.result = .ok r) :
    let g := y.state.graph
    let outline := g.outline r
    let copy := Graph.empty.graft outline
    ∃ entries : List (List Text × Text),
      entries.map (·.1) = outline.ways ∧
      copy.1.lines .boxes (.node copy.2) = .ok (entries.map fun (_, line) => line) ∧
      g.lines .boxes r = .ok (entries.map fun (way, line) =>
        if 1 < way.length ∧ g.returns r way then line ++ " (circular)".toList else line) ∧
      ∀ e ∈ entries, ∃ before name stem, e.1 = before ++ [name] ∧ e.2 = stem ++ name ∧
        stem.length = 4 * before.length := by
  intro g outline copy
  obtain ⟨hbuilt, htops⟩ := built_of_call hcache hy
  obtain ⟨top, htop, rfl, holder⟩ := htops htree r hr
  have hself : ∀ name, (name, .node top) ∉ g.members top :=
    fun name hm => Nat.lt_irrefl _ (holder name top hm)
  obtain ⟨hlines, hcopy⟩ := Graph.lines_and_lines_of_outline .boxes hbuilt.keyed htop hself
  refine ⟨outline.drawn .boxes, outline.map_fst_drawn .boxes, hcopy, hlines.trans ?_,
    outline.columns_drawn⟩
  refine congrArg Except.ok (List.map_congr_left fun e _ => ?_)
  have hmark : g.returns (.node top) e.1 ↔ 1 < e.1.length ∧ g.returns (.node top) e.1 :=
    (and_iff_right_of_imp (Graph.one_lt_length_of_returns hself)).symm
  rw [Graph.marked]
  exact if_congr hmark rfl rfl

namespace TwoFiles

def circling : Cache where
  graph := ⟨[[(['/', 'd'], .node 0), (['/', 'e'], .list [['/', 'x'], ['/', 'x']])]]⟩
  results := [(['/', 'd'], .node 0)]

theorem built_circling : circling.Built := by
  refine ⟨fun id => ?_, fun m hm => ?_⟩
  · match id with
    | 0 => decide
    | _ + 1 => exact List.nodup_nil
  · obtain rfl := List.mem_singleton.mp hm
    rintro _ ⟨⟩
    decide

def circled : Graph :=
  ⟨circling.graph.nodes ++ [[(['/', 'd'], .node 0)], [(['/', 'f'], .node 1)]]⟩

end TwoFiles

theorem circle_marked_in_drawing : ∃ y, perform TwoFiles.world
      (TwoFiles.options .tree ['/', 'f']) TwoFiles.circling [] = .ok y ∧
    y.result = .ok (.node 2) ∧ ∃ entries : List (List Text × Text),
      entries.map (·.1) = [[['/', 'f']], [['/', 'f'], ['/', 'd']],
        [['/', 'f'], ['/', 'd'], ['/', 'd']], [['/', 'f'], ['/', 'd'], ['/', 'e']],
        [['/', 'f'], ['/', 'd'], ['/', 'e'], ['/', 'x']]] ∧
      .ok (entries.map fun (way, line) =>
        if 1 < way.length ∧ y.state.graph.returns (.node 2) way then line ++ " (circular)".toList
        else line) = (.ok ["/f".toList, "└── /d".toList, "    ├── /d (circular)".toList,
          "    └── /e".toList, "        └── /x".toList] : Except Graph.LinesFault (List Text)) := by
  have hmap : (perform TwoFiles.world (TwoFiles.options .tree ['/', 'f'])
      TwoFiles.circling []).map (fun y => (y.result, y.state.graph.nodes)) =
        .ok (.ok (.node 2), TwoFiles.circled.nodes) := by decide +kernel
  obtain ⟨y, hy, heq⟩ := exists_outcome hmap
  obtain ⟨hr, hnodes⟩ := Prod.mk.inj heq
  have hgraph : y.state.graph = TwoFiles.circled := congrArg Graph.mk hnodes
  obtain ⟨entries, hways, -, hlines, -⟩ :=
    drawing_agrees_with_outline rfl TwoFiles.built_circling hy hr
  refine ⟨y, hy, hr, entries, hways.trans ?_, hlines.symm.trans ?_⟩
  · rw [hgraph]
    decide +kernel
  · rw [hgraph]
    decide +kernel

end ModuleGraph.Walk
