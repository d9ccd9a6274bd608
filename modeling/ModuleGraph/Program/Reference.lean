import ModuleGraph.Family
import ModuleGraph.Program.Statement

/-! The module references of a program: its import statements at any depth are gathered level by
level and put into the order of their places. A relative reference keeps its dots. -/

namespace ModuleGraph.Program

/-- The specifiers of one import statement. Without a module name each member may be a module
of the package; a star alone stands for the package itself. -/
def Import.specifiers : Import → List Text
  | .modules names => names
  | .members level source names =>
    let dots := List.replicate level '.'
    match source with
    | some s => [dots ++ s]
    | none =>
      match names.filter (· ≠ ['*']) with
      | [] => [dots]
      | named => named.map (dots ++ ·)

namespace Statement

def inner : Statement → List Statement
  | compound inner => inner
  | _ => []

mutual

def count : Statement → Nat
  | imports _ _ => 1
  | simple => 1
  | compound inner => countAll inner + 1

def countAll : List Statement → Nat
  | [] => 0
  | s :: rest => count s + countAll rest

end

theorem countAll_append (b b' : List Statement) :
    countAll (b ++ b') = countAll b + countAll b' := by
  induction b with
  | nil => simp [countAll]
  | cons s rest ih => simp [countAll, ih, Nat.add_assoc]

theorem count_eq (s : Statement) : count s = countAll s.inner + 1 := by
  cases s <;> rfl

/-- The statements of a tree level by level: what stands in a statement waits until all statements
that wait already have been passed. -/
def walk : List Statement → List Statement
  | [] => []
  | s :: waiting => s :: walk (waiting ++ s.inner)
termination_by waiting => countAll waiting
decreasing_by
  rw [countAll_append, countAll, count_eq]
  omega

def import? : Statement → Option (Place × Import)
  | imports place i => some (place, i)
  | _ => none

end Statement

def Block.imports (b : Block) : List (Place × Import) :=
  ((Statement.walk [.compound b]).filterMap Statement.import?).mergeSort fun i j => i.1.le j.1

def Block.specifiers (b : Block) (includeCore : Bool) : List Text :=
  (b.imports.flatMap fun i => i.2.specifiers).filter fun s => includeCore || !isStandardModule s

def specifiers (isCharacterName : Text → Bool) (source : Text) (includeCore : Bool) :
    Except Fault (List Text) :=
  (parse isCharacterName source).map fun b => Block.specifiers b includeCore

end ModuleGraph.Program
