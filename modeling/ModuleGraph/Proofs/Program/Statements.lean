import ModuleGraph.Program.Reference
import ModuleGraph.Proofs.Program.Place
import ModuleGraph.Proofs.Sorted

/-! The import statements of a program as they stand in it from top to bottom, and how the walk
level by level and the sort by places come to the same list. -/

namespace ModuleGraph.Program

namespace Statement

mutual

def written : Statement → List (Place × Import)
  | imports place i => [(place, i)]
  | simple => []
  | compound inner => writtenIn inner

def writtenIn : Block → List (Place × Import)
  | [] => []
  | s :: rest => written s ++ writtenIn rest

end

theorem writtenIn_append (b b' : Block) : writtenIn (b ++ b') = writtenIn b ++ writtenIn b' := by
  induction b with
  | nil => rfl
  | cons s rest ih => rw [List.cons_append, writtenIn, writtenIn, ih, List.append_assoc]

theorem written_eq (s : Statement) : written s = s.import?.toList ++ writtenIn s.inner := by
  cases s <;> simp [written, import?, inner, writtenIn]

/-- The walk passes each import statement once. -/
theorem filterMap_walk_perm (waiting : Block) :
    ((walk waiting).filterMap import?).Perm (writtenIn waiting) := by
  induction waiting using walk.induct with
  | case1 =>
    rw [walk]
    exact .nil
  | case2 s waiting ih =>
    have hown : ((walk (s :: waiting)).filterMap import?) =
        s.import?.toList ++ (walk (waiting ++ s.inner)).filterMap import? := by
      rw [walk, List.filterMap_cons]
      cases s.import? <;> rfl
    rw [hown, writtenIn, written_eq, List.append_assoc]
    refine List.Perm.append_left _ (ih.trans ?_)
    rw [writtenIn_append]
    exact List.perm_append_comm

end Statement

/-- If each import statement is written further on than the one before it, the sort finds them in
the order in which they are written. -/
theorem Block.imports_eq_writtenIn {b : Block}
    (h : (Statement.writtenIn b).Pairwise fun i j => i.1.Before j.1) :
    Block.imports b = Statement.writtenIn b := by
  have hperm := Statement.filterMap_walk_perm [.compound b]
  rw [Statement.writtenIn, Statement.written, Statement.writtenIn, List.append_nil] at hperm
  exact mergeSort_eq_of_perm (fun _ _ _ => Place.le_trans) (fun _ _ => Place.le_total _ _)
    (fun _ _ => Place.Before.le) (fun _ _ => Place.Before.not_le) hperm h

end ModuleGraph.Program
