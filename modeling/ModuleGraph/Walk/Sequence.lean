import ModuleGraph.Walk.Options

/-! Calls made one after the other, which share a cache or the specifiers that led nowhere. -/

namespace ModuleGraph.Walk

structure Call where
  options : Options
  unresolved : List Text

def Cache.after (cache : Cache) (outcome : Except Options.Fault Outcome) : Cache :=
  match outcome with
  | .ok outcome => outcome.cache
  | .error _ => cache

def outcomes (w : World) : (cache : Cache) → List Call → List (Except Options.Fault Outcome)
  | _, [] => []
  | cache, call :: rest =>
    let outcome := perform w call.options cache call.unresolved
    outcome :: outcomes w (cache.after outcome) rest

def Cache.afterAll (cache : Cache) (w : World) (calls : List Call) : Cache :=
  (outcomes w cache calls).foldl Cache.after cache

structure Request where
  options : Options
  cache : Cache

def unresolvedAfter (unresolved : List Text) (outcome : Except Options.Fault Outcome) :
    List Text :=
  match outcome with
  | .ok outcome => outcome.state.unresolved
  | .error _ => unresolved

def outcomesSharing (w : World) :
    (unresolved : List Text) → List Request → List (Except Options.Fault Outcome)
  | _, [] => []
  | unresolved, request :: rest =>
    let outcome := perform w request.options request.cache unresolved
    outcome :: outcomesSharing w (unresolvedAfter unresolved outcome) rest

end ModuleGraph.Walk
