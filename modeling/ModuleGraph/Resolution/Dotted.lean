import ModuleGraph.Resolution.Search

/-! Dotted module names. Leading dots climb from the importing file's directory, one level for
each dot after the first; other names are looked up below the base directory and the further
roots. A module file goes before a package of the same name. -/

namespace ModuleGraph.Resolution.Dotted

def split (specifier : Text) : Nat × List Text :=
  let dots := specifier.takeWhile (· = '.')
  let name := specifier.drop dots.length
  (dots.length, if name.isEmpty then [] else Text.fields '.' name)

def locate (w : World) (base : Path) (parts : List Text) (suffixes : List Text) : Option Path :=
  let target := Path.joinAll base parts
  let modules := if parts.isEmpty then [] else suffixes.map (target ++ ·)
  match firstFile w modules with
  | some found => some found
  | none => firstFile w (Family.python.indexNames.map (Path.join target))

def climb : (levels : Nat) → Path → Path
  | 0, p => p
  | n + 1, p => climb n (Path.parent p)

/-- A relative name. What a package imports from itself may be defined in the package's own
file, unless that is the importing file. -/
def relative (w : World) (level : Nat) (parts : List Text) (file : Path) (suffixes : List Text) :
    Option Path :=
  let base := climb (level - 1) (Path.parent file)
  match locate w base parts suffixes with
  | some found => some found
  | none =>
    if parts.length = 1 then
      (locate w base [] suffixes).filter fun package => w.absolute package ≠ w.absolute file
    else none

def resolve (w : World) (specifier : Text) (file directory : Path) (c : Config) :
    Search (Option Path) := do
  let suffixes ← .ofExcept (c.suffixesFor .python)
  let (level, parts) := split specifier
  if level = 0 then
    let more ← .ofExcept c.pythonPaths
    let roots := directory :: more.map (Path.join directory)
    return roots.findSome? fun root => locate w root parts suffixes
  else return relative w level parts file suffixes

end ModuleGraph.Resolution.Dotted
