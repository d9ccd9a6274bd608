import ModuleGraph.Program.Token

/-! Readers of token lists. What a reader leaves over is always a final part of what it was
given, and a plain reader does not pass over the word `import`, which only statements may take. Both
are part of the type of readers, so they hold of every reader put together from others. -/

namespace ModuleGraph.Program

def op (s : String) : Kind := .operator s

def word (s : String) : Kind := .keyword s

def importWords (ts : List Token) : Nat := ts.countP fun t => t.kind = word "import"

structure Refusal where
  cause : Cause
  line : Nat
  found : Kind
  deriving DecidableEq, Repr

structure Read (plain : Bool) (α : Type) (ts : List Token) where
  value : α
  rest : List Token
  left : rest <:+ ts
  bare : plain = true → importWords rest = importWords ts

def ReaderOf (plain : Bool) (α : Type) := (ts : List Token) → Except Refusal (Read plain α ts)

abbrev Reader := ReaderOf true

abbrev StatementReader := ReaderOf false

namespace Reader

variable {plain : Bool} {α β : Type}

protected def pure (a : α) : ReaderOf plain α := fun ts =>
  .ok ⟨a, ts, List.suffix_refl ts, fun _ => rfl⟩

protected def bind (p : ReaderOf plain α) (f : α → ReaderOf plain β) : ReaderOf plain β := fun ts =>
  match p ts with
  | .error e => .error e
  | .ok ⟨a, rest, h, hb⟩ =>
    match f a rest with
    | .error e => .error e
    | .ok ⟨b, rest', h', hb'⟩ => .ok ⟨b, rest', h'.trans h, fun hp => (hb' hp).trans (hb hp)⟩

instance : Monad (ReaderOf plain) where
  pure := Reader.pure
  bind := Reader.bind

instance : MonadLift Reader StatementReader where
  monadLift p := fun ts => (p ts).map fun r => ⟨r.value, r.rest, r.left, nofun⟩

def head (ts : List Token) : Token := ts.head?.getD ⟨.endOfInput, ⟨0, 0⟩⟩

def peek : Reader Kind := fun ts => .ok ⟨(head ts).kind, ts, List.suffix_refl ts, fun _ => rfl⟩

def peekSecond : Reader Kind := fun ts =>
  .ok ⟨(head (ts.drop 1)).kind, ts, List.suffix_refl ts, fun _ => rfl⟩

def place : Reader Place := fun ts =>
  .ok ⟨(head ts).place, ts, List.suffix_refl ts, fun _ => rfl⟩

def line : Reader Nat := fun ts => .ok ⟨(head ts).line, ts, List.suffix_refl ts, fun _ => rfl⟩

def refuse (cause : Cause) : ReaderOf plain α := fun ts =>
  .error ⟨cause, (head ts).line, (head ts).kind⟩

def fail : ReaderOf plain α := refuse .malformed

def advance : Reader Unit := fun ts =>
  match ts with
  | [] => .ok ⟨(), [], List.suffix_refl [], fun _ => rfl⟩
  | t :: rest =>
    if h : t.kind = word "import" then fail (t :: rest)
    else .ok ⟨(), rest, List.suffix_cons t rest, fun _ =>
      (List.countP_cons_of_neg (by simp [h])).symm⟩

def importWord : StatementReader Unit := fun ts =>
  if (head ts).kind = word "import" then .ok ⟨(), ts.drop 1, List.drop_suffix 1 ts, nofun⟩
  else fail ts

def accept (k : Kind) : Reader Bool := do
  if (← peek) = k then
    advance
    return true
  else return false

def expect (k : Kind) : Reader Unit := do
  if ← accept k then return () else fail

def name : Reader Text := do
  match ← peek with
  | .name s _ =>
    advance
    return s
  | _ => fail

def many (bound : Nat) (p : ReaderOf plain (Option α)) : ReaderOf plain (List α) :=
  match bound with
  | 0 => return []
  | n + 1 => do
    match ← p with
    | none => return []
    | some a => return a :: (← many n p)

def attempt (p : Reader α) : Reader (Option α) := fun ts =>
  match p ts with
  | .ok ⟨a, rest, h, hb⟩ => .ok ⟨some a, rest, h, hb⟩
  | .error _ => .ok ⟨none, ts, List.suffix_refl ts, fun _ => rfl⟩

def require (check : Except Refusal Unit) : Reader Unit := fun ts =>
  match check with
  | .ok () => .ok ⟨(), ts, List.suffix_refl ts, fun _ => rfl⟩
  | .error e => .error e

def readAll (p : ReaderOf plain α) (ts : List Token) : Except Refusal (α × List Token) :=
  match p ts with
  | .ok r => .ok (r.value, r.rest)
  | .error e => .error e

end Reader
end ModuleGraph.Program
