import ModuleGraph.FileSystem.World
import ModuleGraph.Resolution.Config

/-! A search among the files of a world: it may break off with a fault, and it leaves notes. -/

namespace ModuleGraph.Resolution

def Search (α : Type) := Noted (Except Fault α)

namespace Search

variable {α β : Type}

protected def pure (a : α) : Search α := (⟨.ok a, []⟩ : Noted _)

protected def bind (x : Search α) (f : α → Search β) : Search β :=
  match x.value with
  | .error e => (⟨.error e, x.notes⟩ : Noted _)
  | .ok a => (⟨(f a).value, x.notes ++ (f a).notes⟩ : Noted _)

instance : Monad Search where
  pure := Search.pure
  bind := Search.bind

def ofExcept (x : Except Fault α) : Search α := (⟨x, []⟩ : Noted _)

def note (level : Log.Level) (message : String) : Search Unit :=
  (⟨.ok (), [⟨level, message⟩]⟩ : Noted _)

def first (f : α → Search (Option β)) : List α → Search (Option β)
  | [] => return none
  | a :: rest => do
    match ← f a with
    | some b => return some b
    | none => first f rest

end Search

def firstFile (w : World) (candidates : List Path) : Option Path := candidates.find? w.isFile

end ModuleGraph.Resolution
