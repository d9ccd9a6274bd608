import ModuleGraph.Text.Blank
import ModuleGraph.Text.Property

/-! Whole numbers as users write them. -/

namespace ModuleGraph.Text

/-- Blanks around a number, a plus sign before it and single low lines between its digits do not
matter; the digits may be of any script. -/
def writtenNumber? (s : Text) : Option Nat :=
  let s := trim s
  let body := match s with
    | '+' :: rest => rest
    | _ => s
  let groups := fields '_' body
  if groups.all fun g => !g.isEmpty && g.all isDecimal then
    some (groups.flatten.foldl (fun n c => n * 10 + decimalValue c) 0)
  else none

end ModuleGraph.Text
