import ModuleGraph.Resolution.Dotted
import ModuleGraph.Resolution.PathLike

/-! Resolution of specifiers: from a specifier in a file to the absolute path of a file that
exists, or to nothing. The family of the importing file says how its specifiers read; files of
no family are taken for scripts. -/

namespace ModuleGraph.Resolution

def resolve (w : World) (specifier : Text) (file directory : Path) (c : Config) :
    Search (Option Path) := do
  let found ← match (Family.of? file).getD .script with
    | .python => Dotted.resolve w specifier file directory c
    | f => PathLike.resolve w specifier file directory c f
  match found with
  | none =>
    .note .debug s!"Unresolved '{Text.string specifier}' from {Text.string file}"
    return none
  | some p => return some (w.absolute p)

end ModuleGraph.Resolution
