import ModuleGraph.Text.Basic

/-! Sets of characters written as runs. A run list alternates the number of code points left
out and the number of code points taken, each in base 36, counted from U+0080 on its first
step; ASCII is decided by the caller. -/

namespace ModuleGraph.Text

def digitValue (c : Char) : Nat :=
  if c.isDigit then c.toNat - 48 else c.toNat - 87

def numbersOf (line : String) : List Nat :=
  (fields ' ' line.toList).map fun word => word.foldl (fun n c => n * 36 + digitValue c) 0

/-- Ranges of code points in increasing order, the upper ends left out. -/
abbrev Ranges := Array (Nat × Nat)

def rangesOf (start : Nat) : List Nat → List (Nat × Nat)
  | gap :: size :: rest => (start + gap, start + gap + size) :: rangesOf (start + gap + size) rest
  | _ => []

def Ranges.ofLines (lines : List String) : Ranges :=
  (rangesOf 0 (lines.flatMap numbersOf)).toArray

def Ranges.search (table : Ranges) (n : Nat) : (fuel low high : Nat) → Bool
  | 0, _, _ => false
  | fuel + 1, low, high =>
    if low < high then
      let middle := (low + high) / 2
      match table[middle]? with
      | none => false
      | some (first, past) =>
        if n < first then Ranges.search table n fuel low middle
        else if past ≤ n then Ranges.search table n fuel (middle + 1) high
        else true
    else false

def Ranges.has (table : Ranges) (c : Char) : Bool :=
  table.search c.toNat table.size 0 table.size

end ModuleGraph.Text
