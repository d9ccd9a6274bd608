import ModuleGraph.Program.Literal
import ModuleGraph.Program.Reader
import ModuleGraph.Program.Token.Scan

/-! Expressions, as far as it matters which texts are expressions and which expressions may stand
on the left of an assignment. Binary operators all take operands of the same form, so chains of
them are read without regard to precedence. -/

namespace ModuleGraph.Program

inductive Shape where
  | name
  | member
  | subscripted
  | starred (target : Shape)
  | group (items : List Shape)
  | plain

namespace Shape

def isSingle : Shape → Bool
  | name | member | subscripted => true
  | _ => false

mutual

def isTarget : Shape → Bool
  | name | member | subscripted => true
  | starred t => isTarget t
  | group ts => areTargets ts
  | plain => false

def areTargets : List Shape → Bool
  | [] => true
  | t :: rest => isTarget t && areTargets rest

end

mutual

def isDeletable : Shape → Bool
  | name | member | subscripted => true
  | group ts => areDeletable ts
  | _ => false

def areDeletable : List Shape → Bool
  | [] => true
  | t :: rest => isDeletable t && areDeletable rest

end

def isStarred : Shape → Bool
  | starred _ => true
  | _ => false

end Shape

namespace Expression

open Reader

inductive Goal where
  | expression
  | disjunction
  | operand
  | factor
  | primary

structure Inner where
  bound : Nat
  isCharacterName : Text → Bool
  read : Goal → Reader Shape

variable (k : Inner)

def opens : Kind → Bool
  | .name _ _ | .number _ | .string _ => true
  | .keyword s => ["True", "False", "None", "not", "lambda", "await"].contains s
  | .operator s => ["(", "[", "\x7b", "-", "+", "~", "...", "*"].contains s
  | _ => false

def assignment? : Reader Bool := do
  match ← peek, ← peekSecond with
  | .name _ _, .operator ":=" =>
    advance
    advance
    let _ ← k.read .expression
    return true
  | _, _ => return false

def named : Reader Shape := do
  if ← assignment? k then return .plain else k.read .expression

def starOr (other : Reader Shape) : Reader Shape := do
  if ← accept (op "*") then return .starred (← k.read .operand) else other

def starNamed : Reader Shape := starOr k (named k)

def itemsBefore (item : Reader Shape) (close : Kind) : Reader (List Shape) :=
  many k.bound do
    if ← accept (op ",") then
      if (← peek) = close then return none else return some (← item)
    else return none

def starExpressions : Reader Shape := do
  let item := starOr k (k.read .expression)
  let first ← item
  if (← peek) = op "," then
    let more ← many k.bound do
      if ← accept (op ",") then
        if opens (← peek) then return some (← item) else return none
      else return none
    return .group (first :: more)
  else return first

def yielded : Reader Shape := do
  expect (word "yield")
  if ← accept (word "from") then
    let _ ← k.read .expression
  else if opens (← peek) then
    let _ ← starExpressions k
  return .plain

def target : Reader Shape := do
  let shape ← if ← accept (op "*") then
      pure (Shape.starred (← k.read .primary))
    else k.read .primary
  if shape.isTarget then return shape else fail

def targets : Reader Unit := do
  let _ ← target k
  let _ ← itemsBefore k (target k) (word "in")

def opensClause : Reader Bool := do
  match ← peek, ← peekSecond with
  | .keyword "for", _ => return true
  | .keyword "async", .keyword "for" => return true
  | _, _ => return false

def clauses : Reader Unit := do
  let _ ← many k.bound do
    if ← opensClause then
      let _ ← accept (word "async")
      expect (word "for")
      targets k
      expect (word "in")
      let _ ← k.read .disjunction
      let _ ← many k.bound do
        if ← accept (word "if") then return some (← k.read .disjunction) else return none
      return some ()
    else return none

def comprehension (item : Shape) (close : Kind) : Reader Shape := do
  if item.isStarred then fail
  else
    clauses k
    expect close
    return .plain

def parenthesized : Reader Shape := do
  let close := op ")"
  if ← accept close then return .group []
  if (← peek) = word "yield" then
    let shape ← yielded k
    expect close
    return shape
  let first ← starNamed k
  if ← opensClause then comprehension k first close
  else if (← peek) = op "," then
    let more ← itemsBefore k (starNamed k) close
    expect close
    return .group (first :: more)
  else
    expect close
    if first.isStarred then fail else return first

def listed : Reader Shape := do
  let close := op "]"
  if ← accept close then return .group []
  let first ← starNamed k
  if ← opensClause then comprehension k first close
  else
    let more ← itemsBefore k (starNamed k) close
    expect close
    return .group (first :: more)

def entry : Reader Shape := do
  if ← accept (op "**") then
    let _ ← k.read .operand
  else
    let _ ← k.read .expression
    expect (op ":")
    let _ ← k.read .expression
  return .plain

def braced : Reader Shape := do
  let close := op "\x7d"
  if ← accept close then return .plain
  if (← peek) = op "**" then
    let _ ← entry k
    let _ ← itemsBefore k (entry k) close
    expect close
    return .plain
  let isAssignment := match ← peek, ← peekSecond with
    | .name _ _, .operator ":=" => true
    | _, _ => false
  let first ← starNamed k
  let isPair ← if isAssignment || first.isStarred then pure false else accept (op ":")
  if isPair then
    let _ ← k.read .expression
    if ← opensClause then comprehension k .plain close
    else
      let _ ← itemsBefore k (entry k) close
      expect close
      return .plain
  else if ← opensClause then comprehension k first close
  else
    let _ ← itemsBefore k (starNamed k) close
    expect close
    return .plain

inductive Phase where
  | positional
  | named
  | mapping
  deriving DecidableEq

def arguments (generator : Bool) : (bound : Nat) → (first : Bool) → Phase → Reader Unit
  | 0, _, _ => fail
  | bound + 1, first, phase => do
    if ← accept (op ")") then return ()
    let phase ← argument first phase
    match phase with
    | none => expect (op ")")
    | some phase =>
      if ← accept (op ",") then arguments generator bound false phase else expect (op ")")
where
  /-- One argument; nothing is returned after a generator. -/
  argument (first : Bool) (phase : Phase) : Reader (Option Phase) := do
    match ← peek, ← peekSecond with
    | .operator "*", _ =>
      advance
      let _ ← k.read .expression
      if phase = .mapping then fail else return some phase
    | .operator "**", _ =>
      advance
      let _ ← k.read .expression
      return some .mapping
    | .name _ _, .operator "=" =>
      advance
      advance
      let _ ← k.read .expression
      return some (if phase = .mapping then .mapping else .named)
    | _, _ =>
      let _ ← named k
      if phase ≠ .positional then fail
      else if generator && first && (← opensClause) then
        clauses k
        return none
      else return some phase

def sliceEnd : Reader Unit := do
  let next ← peek
  if opens next && next ≠ op "*" then
    let _ ← k.read .expression

def subscript : Reader Shape := do
  if ← accept (op "*") then
    let _ ← k.read .expression
    return .plain
  if ← assignment? k then return .plain
  if (← peek) ≠ op ":" then
    let _ ← k.read .expression
  if ← accept (op ":") then
    sliceEnd k
    if ← accept (op ":") then sliceEnd k
  return .plain

def strings : Reader Shape := do
  let line ← line
  let literals ← many k.bound do
    match ← peek with
    | .string l =>
      advance
      return some l
    | _ => return none
  match Literal.allExpressions k.isCharacterName literals with
  | .error cause => require (.error ⟨cause, line, .broken⟩)
  | .ok texts => require (texts.forM fun text => inside line text)
  return .plain
where
  /-- An expression inside a literal is read as if it stood in parentheses. -/
  inside (line : Nat) (text : Text) : Except Refusal Unit := do
    let malformed : Refusal := ⟨.format "invalid syntax", line, .broken⟩
    let scanned := scan ('(' :: (text ++ [')']))
    if scanned.fault.isSome then .error malformed
    else match readAll (k.read .expression) scanned.tokens with
      | .error _ => .error malformed
      | .ok (_, rest) => if (head rest).kind = .newline then .ok () else .error malformed

def atom : Reader Shape := do
  match ← peek with
  | .name _ _ =>
    advance
    return .name
  | .number _ =>
    advance
    return .plain
  | .string _ => strings k
  | .keyword s =>
    if ["True", "False", "None"].contains s then
      advance
      return .plain
    else fail
  | .operator "..." =>
    advance
    return .plain
  | .operator "(" =>
    advance
    parenthesized k
  | .operator "[" =>
    advance
    listed k
  | .operator "\x7b" =>
    advance
    braced k
  | _ => fail

def trailer : Reader (Option Shape) := do
  match ← peek with
  | .operator "." =>
    advance
    let _ ← name
    return some .member
  | .operator "(" =>
    advance
    arguments k true k.bound true .positional
    return some .plain
  | .operator "[" =>
    advance
    let _ ← subscript k
    let _ ← itemsBefore k (subscript k) (op "]")
    expect (op "]")
    return some .subscripted
  | _ => return none

def primary : Reader Shape := do
  let first ← atom k
  let more ← many k.bound (trailer k)
  return more.getLast?.getD first

def signs : List String := ["+", "-", "~"]

def acceptOf (ss : List String) : Reader (Option Unit) := do
  match ← peek with
  | .operator s =>
    if ss.contains s then
      advance
      return some ()
    else return none
  | _ => return none

def factor : Reader Shape := do
  let before ← many k.bound (acceptOf signs)
  let awaited ← accept (word "await")
  let base ← primary k
  if ← accept (op "**") then
    let _ ← k.read .factor
    return .plain
  else if before.isEmpty && !awaited then return base
  else return .plain

def binaryOperators : List String :=
  ["|", "^", "&", "<<", ">>", "+", "-", "*", "/", "//", "%", "@"]

def chain (separator : Reader (Option Unit)) (item : Reader Shape) : Reader Shape := do
  let first ← item
  let more ← many k.bound do
    match ← separator with
    | some () => return some (← item)
    | none => return none
  return if more.isEmpty then first else .plain

def operand : Reader Shape := chain k (acceptOf binaryOperators) (factor k)

def comparison : Reader (Option Unit) := do
  match ← peek, ← peekSecond with
  | .keyword "in", _ =>
    advance
    return some ()
  | .keyword "not", .keyword "in" =>
    advance
    advance
    return some ()
  | .keyword "is", second =>
    advance
    if second = word "not" then advance
    return some ()
  | _, _ => acceptOf ["==", "!=", "<", ">", "<=", ">="]

def inversion : Reader Shape := do
  let before ← many k.bound do
    if ← accept (word "not") then return some () else return none
  let shape ← chain k comparison (operand k)
  return if before.isEmpty then shape else .plain

def connective : Reader (Option Unit) := do
  if ← accept (word "and") then return some ()
  else if ← accept (word "or") then return some ()
  else return none

def disjunction : Reader Shape := chain k connective (inversion k)

structure Parameters where
  any : Bool
  slash : Bool
  default_ : Bool
  star : Bool
  needsName : Bool

def parameters (annotated : Bool) (close : Kind) :
    (bound : Nat) → Parameters → Reader Unit
  | 0, _ => fail
  | bound + 1, seen => do
    let next (seen : Parameters) : Reader Unit := do
      if ← accept (op ",") then parameters annotated close bound seen
      else if seen.needsName then fail
      else expect close
    let annotation (starred : Bool) : Reader Unit := do
      if annotated then
        if ← accept (op ":") then
          let _ ← if starred then starOr k (k.read .expression) else k.read .expression
    match ← peek with
    | .operator "/" =>
      advance
      if seen.any && !seen.slash && !seen.star then next { seen with slash := true } else fail
    | .operator "*" =>
      advance
      if seen.star then fail
      else if (← peek) = op "," then
        next { seen with star := true, needsName := true }
      else
        let _ ← name
        annotation true
        next { seen with star := true }
    | .operator "**" =>
      advance
      if seen.needsName then fail
      else
        let _ ← name
        annotation false
        let _ ← accept (op ",")
        expect close
    | .name _ _ =>
      advance
      annotation false
      let hasDefault ← accept (op "=")
      if hasDefault then
        let _ ← k.read .expression
      if !hasDefault && seen.default_ && !seen.star then fail
      else next { seen with
        any := true
        default_ := seen.default_ || (hasDefault && !seen.star)
        needsName := false }
    | _ => if seen.needsName then fail else expect close

def noParameters : Parameters := ⟨false, false, false, false, false⟩

def expression : Reader Shape := do
  if ← accept (word "lambda") then
    parameters k false (op ":") k.bound noParameters
    let _ ← k.read .expression
    return .plain
  let first ← disjunction k
  if ← accept (word "if") then
    let _ ← disjunction k
    expect (word "else")
    let _ ← k.read .expression
    return .plain
  else return first

def step : Goal → Reader Shape
  | .expression => expression k
  | .disjunction => disjunction k
  | .operand => operand k
  | .factor => factor k
  | .primary => primary k

/-- Reads a form; each level of nesting takes a token, so the number of tokens is enough
fuel. -/
def read (isCharacterName : Text → Bool) : (fuel : Nat) → Goal → Reader Shape
  | 0, _ => fail
  | fuel + 1, g => step ⟨fuel, isCharacterName, read isCharacterName fuel⟩ g

def inner (isCharacterName : Text → Bool) (fuel : Nat) : Inner :=
  ⟨fuel, isCharacterName, read isCharacterName fuel⟩

end Expression
end ModuleGraph.Program
