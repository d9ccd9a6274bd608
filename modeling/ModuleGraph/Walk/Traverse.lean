import ModuleGraph.Walk.Basic

/-! The walk: depth first from an entry file, each file once. A file is marked before its
dependencies are walked, so that a way back to it ends there. A result that was put together
while a dependency was in progress is held back, and settled when the entry file is complete. -/

namespace ModuleGraph.Walk

def specifiersOf (c : Collaborators) (file : Path) : Walk (List Text) := do
  modify fun s => { s with extracted := s.extracted ++ [file] }
  match ← hear (c.extract file) with
  | .error reason =>
    note .debug s!"Error getting dependencies of {Text.string file}: {reason}"
    return []
  | .ok specifiers =>
    let shown := (Text.quotedList specifiers).string
    note .debug s!"Extracted specifiers for {Text.string file}: {shown}"
    return specifiers

def resolved (c : Collaborators) (specifier : Text) (file : Path) : Walk (Option Path) := do
  match ← hear (c.resolve specifier file) with
  | .error reason =>
    note .debug
      s!"Resolver failed for '{Text.string specifier}' in {Text.string file}: {reason}"
    return none
  | .ok p => return p

def dependency? (c : Collaborators) (file : Path) (specifier : Text) : Walk (Option Path) := do
  let target ← resolved c specifier file
  let canonical := (target.filter fun p => !p.isEmpty).map c.canonical
  match canonical.filter c.isPresent with
  | some p => return some p
  | none =>
    let got := match target with
      | none => "None"
      | some p => (Text.quoted p).string
    note .debug
      s!"Skipping unresolved specifier '{Text.string specifier}' in {Text.string file} (got {got})"
    modify fun s => { s with unresolved := s.unresolved ++ [specifier] }
    return none

def judge (accept : Path → Path → Except String Bool) (file path : Path) : Walk Bool := do
  modify fun s => { s with judged := s.judged ++ [(path, file)] }
  match accept path file with
  | .error reason => fail (.filter reason)
  | .ok verdict => return verdict

def filtered (c : Collaborators) (file : Path) (candidates : List Path) : Walk (List Path) := do
  match c.accept with
  | none => return candidates
  | some accept =>
    let judged ← forEach (fun p => do return (p, ← judge accept file p)) candidates
    let kept := (judged.filter (·.2)).map (·.1)
    note .debug
      s!"Filter kept {kept.length} of {candidates.length} dependencies of {Text.string file}"
    return kept

def dependenciesOf (c : Collaborators) (file : Path) : Walk (List Path) := do
  let specifiers ← specifiersOf c file
  let found ← forEach (dependency? c file) specifiers
  filtered c file (distinct (found.filterMap id))

/-- Completes a file from the results of its dependencies. As long as one of them is in
progress, so is the file: it is held back. -/
def complete (shape : Shape) (file : Path) (deps : List (Path × Ref)) (provisional : Ref) :
    Walk Ref := do
  let result ← build fun g => shape.assemble g file deps provisional
  let files := deps.map (·.1)
  modify fun s => { s with
    visited := s.visited.revise file result
    dependencies := s.dependencies.set file files }
  let visited := (← get).visited
  if files.any fun d => visited.stage d = .inProgress then
    modify fun s => { s with pending := s.pending ++ [file] }
  else onVisited fun v => v.finish file result
  modify fun s => { s with completed := s.completed ++ [file] }
  return result

def traverse (c : Collaborators) (shape : Shape) : (depth : Nat) → Path → Walk Ref
  | 0, _ => fail .tooDeep
  | depth + 1, path => do
    let file := c.canonical path
    if !c.isPresent file then build shape.empty
    else
      let visited := (← get).visited
      let stage := visited.stage file
      if stage ≠ .unseen then
        note .debug s!"Already visited ({stage.name}): {Text.string file}"
        match visited.lookup file with
        | .error e => fail (.cache e)
        | .ok r => return r
      else
        let provisional ← build shape.empty
        onVisited fun v => v.begin_ file provisional
        note .debug s!"Traversing {Text.string file}"
        let deps ← dependenciesOf c file
        let results ← forEach (fun d => do return (d, ← traverse c shape depth d)) deps
        complete shape file results provisional

def renew (shape : Shape) (file : Path) : Walk Unit := do
  let s ← get
  onVisited fun v => shape.renew s.graph s.dependencies v file

def release (file : Path) : Walk Unit :=
  onVisited fun v => do v.finish file (← v.result file)

/-- Settles the results held back: all but the entry file's are made anew, then all are done. -/
def settlePending (shape : Shape) (entry : Path) : Walk Unit := do
  let pending := (← get).pending
  let stale := pending.filter (· ≠ entry)
  note .debug s!"Settling {stale.length} results assembled mid-cycle"
  let _ ← forEach (renew shape) stale
  let _ ← forEach release pending
  modify fun s => { s with pending := [] }

def run (c : Collaborators) (shape : Shape) (entry : Path) : Walk Ref := do
  note .info s!"Traversing dependencies of {Text.string entry}"
  let dedupe := modify fun s => { s with unresolved := distinct s.unresolved }
  if !c.isPresent entry then
    note .debug s!"Entry file does not exist: {Text.string entry}"
    dedupe
    build shape.empty
  else
    let result ← traverse c shape c.depth entry
    if !(← get).pending.isEmpty then settlePending shape entry
    dedupe
    let shown := (Text.quotedList (← get).unresolved).string
    note .debug s!"Deduplicated non-existent specifiers: {shown}"
    note .info s!"Traversal complete: {(← get).completed.length} files walked"
    build fun g => shape.finalize g entry result

end ModuleGraph.Walk
