import ModuleGraph.Resolution.Document

/-! Specifiers that look like paths. A relative or absolute one is probed where it points to;
any other goes through aliases and path patterns, then the search roots, then the packages. -/

namespace ModuleGraph.Resolution.PathLike

def isRelative (specifier : Text) : Bool :=
  specifier = Path.here || specifier = Path.parentName
    || Text.beginsWith ['.', '/'] specifier || Text.beginsWith ['.', '.', '/'] specifier
    || Path.isAbsolute specifier

def fileCandidates (base : Path) (suffixes : List Text) (f : Family) : List Path :=
  let plain := base :: suffixes.map (base ++ ·)
  let (head, tail) := Path.split base
  if f = .stylesheet && !tail.isEmpty && tail.head? ≠ some '_' then
    let partial_ := Path.join head ('_' :: tail)
    plain ++ partial_ :: suffixes.map (partial_ ++ ·)
  else plain

def probe (w : World) (base : Path) (suffixes : List Text) (f : Family) : Option Path :=
  match firstFile w (fileCandidates base suffixes f) with
  | some found => some found
  | none =>
    if w.isDirectory base then firstFile w (f.indexNames.map (Path.join base)) else none

def behindAlias? (name specifier : Text) : Option Text :=
  (Text.after? name specifier).bind fun rest =>
    if rest.isEmpty || rest.head? = some '/' then some (rest.dropWhile (· = '/')) else none

def starOf? (before after specifier : Text) : Option Text :=
  (Text.after? before specifier).bind fun rest =>
    if Text.endsWith after rest then some (rest.take (rest.length - after.length)) else none

def patternTargets? (pattern specifier : Text) (targets : Setting (List Text)) :
    Option (Setting (List Text)) :=
  match Text.cut? '*' pattern with
  | some (before, after) =>
    (starOf? before after specifier).map fun star =>
      targets.map fun ts => ts.map (Text.replace '*' star)
  | none => if specifier = pattern then some targets else none

def mappedCandidates (specifier : Text) (directory : Path) (c : Config) : Setting (List Path) := do
  let aliases ← c.aliases
  let sorted := aliases.mergeSort fun a b => b.1.length ≤ a.1.length
  let aliased ← sorted.filterMapM fun (name, target) =>
    match behindAlias? name specifier with
    | none => pure none
    | some rest => do return some (Path.join (Path.join directory (← target)) rest)
  let base := Path.join directory (← c.baseUrl)
  let matched ← (← c.paths).filterMapM fun (pattern, targets) =>
    match patternTargets? pattern specifier targets with
    | none => pure none
    | some ts => do return some ((← ts).map (Path.join base))
  return (aliased ++ matched.flatten).map Path.normal

def entryFields : List Text := ["module".toList, "main".toList]

def entriesOf (v : Json.Value) : List Text :=
  match v with
  | .obj o => entryFields.filterMap fun name =>
    match Table.get? o name with
    | some (.str s) => some s
    | _ => none
  | _ => []

def packageEntries (w : World) (manifest : Path) : Search (List Text) := do
  match Document.load w manifest with
  | .ok v => return entriesOf v
  | .error (.caught reason) =>
    .note .debug s!"Ignoring unreadable manifest {Text.string manifest}: {reason}"
    return []
  | .error (.escaping fault) => .ofExcept (.error fault)

def manifestName : Text := "package.json".toList

def resolvePackage (w : World) (package : Path) (suffixes : List Text) (f : Family) :
    Search (Option Path) := do
  let manifest := Path.join package manifestName
  let entries ← if w.isFile manifest then packageEntries w manifest else pure []
  let found := entries.findSome? fun entry =>
    probe w (Path.normal (Path.join package entry)) suffixes f
  return found.or (probe w package suffixes f)

def searchRoots (sourceDir directory : Path) (f : Family) : List Path :=
  if f = .stylesheet then [sourceDir, directory] else [directory]

def resolve (w : World) (specifier : Text) (file directory : Path) (c : Config) (f : Family) :
    Search (Option Path) := do
  let suffixes ← .ofExcept (c.suffixesFor f)
  let sourceDir := Path.parent file
  if isRelative specifier then
    let base :=
      if Path.isAbsolute specifier then specifier else Path.join sourceDir specifier
    return probe w (Path.normal base) suffixes f
  let mapped ← .ofExcept (mappedCandidates specifier directory c)
  match mapped.findSome? fun candidate => probe w candidate suffixes f with
  | some found => return some found
  | none =>
    match (searchRoots sourceDir directory f).findSome? fun root =>
        probe w (Path.join root specifier) suffixes f with
    | some found => return some found
    | none =>
      let dirs ← .ofExcept c.moduleDirs
      Search.first (fun dir => do
        let package := Path.join (Path.join directory (← .ofExcept dir)) specifier
        resolvePackage w package suffixes f) dirs

end ModuleGraph.Resolution.PathLike
