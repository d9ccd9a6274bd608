import ModuleGraph.Text.Quoted

/-! Log records, and values that come with the records written on the way to them. -/

namespace ModuleGraph

namespace Log

inductive Level where
  | debug
  | info
  | warning
  | error
  | critical
  deriving DecidableEq, Repr

def Level.name : Level → String
  | .debug => "DEBUG"
  | .info => "INFO"
  | .warning => "WARNING"
  | .error => "ERROR"
  | .critical => "CRITICAL"

def Level.weight : Level → Nat
  | .debug => 10
  | .info => 20
  | .warning => 30
  | .error => 40
  | .critical => 50

structure Record where
  level : Level
  message : String
  deriving DecidableEq, Repr

end Log

structure Noted (α : Type) where
  value : α
  notes : List Log.Record

namespace Noted

variable {α β : Type}

protected def pure (a : α) : Noted α := ⟨a, []⟩

protected def bind (x : Noted α) (f : α → Noted β) : Noted β :=
  ⟨(f x.value).value, x.notes ++ (f x.value).notes⟩

instance : Monad Noted where
  pure := Noted.pure
  bind := Noted.bind

def note (level : Log.Level) (message : String) : Noted Unit := ⟨(), [⟨level, message⟩]⟩

def noteAll (records : List Log.Record) : Noted Unit := ⟨(), records⟩

@[simp] theorem value_pure (a : α) : (pure a : Noted α).value = a := rfl

@[simp] theorem value_bind (x : Noted α) (f : α → Noted β) :
    (x >>= f).value = (f x.value).value := rfl

end Noted
end ModuleGraph
