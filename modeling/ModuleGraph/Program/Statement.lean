import ModuleGraph.Program.Case

/-! Programs as trees of statements. Of a simple statement only its imports are kept, with the place
where it begins, of a compound one what stands in it, in the order of the text: the statements of
its blocks, and its handlers or cases, which have blocks of their own. -/

namespace ModuleGraph.Program

/-- An import statement: of modules under dotted names, or of members of a module, which lies
`level` packages up. A star stands for all members. -/
inductive Import where
  | modules (names : List Text)
  | members (level : Nat) (source : Option Text) (names : List Text)
  deriving DecidableEq, Repr

inductive Statement where
  | imports (place : Place) (i : Import)
  | simple
  | compound (inner : List Statement)

abbrev Block := List Statement

namespace Statement

open Reader Expression

variable (k : Inner)

def dottedName : Reader Text := do
  let first ← name
  let more ← many k.bound do
    if ← accept (op ".") then return some (← name) else return none
  return Text.joined ['.'] (first :: more)

def asName : Reader Unit := do
  if ← accept (word "as") then
    let _ ← name

def importedModule : Reader Text := do
  let s ← dottedName k
  asName
  return s

def importedMember : Reader Text := do
  let s ← name
  asName
  return s

/-- The dots before the name of a relative import; three of them may be one token. -/
def dots : Reader Nat := do
  let ns ← many k.bound do
    if ← accept (op ".") then return some 1
    else if ← accept (op "...") then return some 3
    else return none
  return ns.foldl (· + ·) 0

def moduleNames : Reader (List Text) := do
  let first ← importedModule k
  let more ← many k.bound do
    if ← accept (op ",") then return some (← importedModule k) else return none
  return first :: more

def importModules : StatementReader Import := do
  importWord
  return .modules (← moduleNames k)

/-- The names behind `from ..a import`; only between parentheses a comma may stand last. -/
def memberNames : Reader (List Text) := do
  if ← accept (op "*") then return [['*']]
  else if ← accept (op "(") then
    let first ← importedMember
    let more ← many k.bound do
      if ← accept (op ",") then
        if (← peek) = op ")" then return none else return some (← importedMember)
      else return none
    expect (op ")")
    return first :: more
  else
    let first ← importedMember
    let more ← many k.bound do
      if ← accept (op ",") then return some (← importedMember) else return none
    return first :: more

def sourceName : Reader (Option Text) := do
  match ← peek with
  | .name _ _ => return some (← dottedName k)
  | _ => return none

def importMembers : StatementReader Import := do
  expect (word "from")
  let level ← dots k
  let source ← sourceName k
  if level = 0 && source.isNone then fail
  else
    importWord
    return .members level source (← memberNames k)

def assigningOperators : List String :=
  ["+=", "-=", "*=", "@=", "/=", "%=", "&=", "|=", "^=", "<<=", ">>=", "**=", "//="]

def assigned : Reader Shape := do
  if (← peek) = word "yield" then yielded k else starExpressions k

def assignments : (bound : Nat) → Shape → Reader Unit
  | 0, _ => fail
  | bound + 1, target => do
    if ← accept (op "=") then
      if !target.isTarget then fail
      if (← peek) = word "yield" then
        let _ ← yielded k
      else
        let next ← starExpressions k
        assignments bound next

def expressionStatement : Reader Unit := do
  let first ← starExpressions k
  match ← peek with
  | .operator "=" => assignments k k.bound first
  | .operator ":" =>
    if !first.isSingle then fail
    advance
    let _ ← k.read .expression
    if ← accept (op "=") then
      let _ ← assigned k
  | .operator s =>
    if assigningOperators.contains s then
      if !first.isSingle then fail
      advance
      let _ ← assigned k
  | _ => return ()

def namesBetweenCommas : Reader Unit := do
  let _ ← name
  let _ ← many k.bound do
    if ← accept (op ",") then return some (← name) else return none

def otherStatement : Reader Unit := do
  match ← peek with
  | .keyword "pass" | .keyword "break" | .keyword "continue" => advance
  | .keyword "return" =>
    advance
    if opens (← peek) then
      let _ ← starExpressions k
  | .keyword "raise" =>
    advance
    let next ← peek
    if opens next && next ≠ op "*" then
      let _ ← k.read .expression
      if ← accept (word "from") then
        let _ ← k.read .expression
  | .keyword "global" | .keyword "nonlocal" =>
    advance
    namesBetweenCommas k
  | .keyword "assert" =>
    advance
    let _ ← k.read .expression
    if ← accept (op ",") then
      let _ ← k.read .expression
  | .keyword "del" =>
    advance
    let removed : Reader Shape := do
      let shape ← k.read .primary
      if shape.isDeletable then return shape else fail
    let _ ← removed
    let _ ← many k.bound do
      if ← accept (op ",") then
        match ← peek with
        | .newline | .operator ";" => return none
        | _ => return some (← removed)
      else return none
  | .keyword "yield" =>
    let _ ← yielded k
  | _ => expressionStatement k

def simpleStatement : StatementReader Statement := do
  let begins ← place
  match ← peek with
  | .keyword "import" => return .imports begins (← importModules k)
  | .keyword "from" => return .imports begins (← importMembers k)
  | _ =>
    otherStatement k
    return .simple

def simpleLine : StatementReader Block := do
  let first ← simpleStatement k
  let more ← many k.bound do
    if ← accept (op ";") then
      if (← peek) = .newline then return none else return some (← simpleStatement k)
    else return none
  expect .newline
  return first :: more

def colon : Reader Unit := do
  if ← accept (op ":") then return ()
  else if (← peek) = .newline then refuse .expectedColon
  else fail

def blockAfter (owner : String) (ownerLine : Nat) (body : StatementReader Block) :
    StatementReader Block := do
  colon
  if ← accept .newline then
    if ← accept .indent then
      let b ← body
      expect .dedent
      return b
    else refuse (.expectedBlock owner ownerLine)
  else simpleLine k

variable (body : StatementReader Block)

def plainBlock? (keyword owner : String) : StatementReader (Option Block) := do
  let l ← line
  if ← accept (word keyword) then return some (← blockAfter k owner l body) else return none

def elseBlock : StatementReader Block := do
  return (← plainBlock? k body "else" "'else' statement").getD []

def conditional (owner : String) (ownerLine : Nat) : StatementReader Block := do
  let _ ← named k
  blockAfter k owner ownerLine body

/-- What stands in an `if` statement: its block, and a further `if` statement in place of each
`elif`, the last one with the block behind `else`. -/
def ifParts (otherwise : Block) : (first : Block) → (more : List Block) → Block
  | first, [] => first ++ otherwise
  | first, next :: more => first ++ [.compound (ifParts otherwise next more)]

def ifStatement : StatementReader Block := do
  let l ← line
  expect (word "if")
  let first ← conditional k body "'if' statement" l
  let more ← many k.bound do
    let l ← line
    if ← accept (word "elif") then return some (← conditional k body "'elif' statement" l)
    else return none
  return ifParts (← elseBlock k body) first more

def whileStatement : StatementReader Block := do
  let l ← line
  expect (word "while")
  let first ← conditional k body "'while' statement" l
  return first ++ (← elseBlock k body)

def forHeader : Reader Unit := do
  targets k
  expect (word "in")
  let _ ← starExpressions k

def forStatement : StatementReader Block := do
  let l ← line
  expect (word "for")
  forHeader k
  let first ← blockAfter k "'for' statement" l body
  return first ++ (← elseBlock k body)

def resource : Reader Unit := do
  let _ ← k.read .expression
  if ← accept (word "as") then
    let _ ← target k

def groupedResources : Reader Unit := do
  expect (op "(")
  resource k
  let _ ← many k.bound do
    if ← accept (op ",") then
      if (← peek) = op ")" then return none else return some (← resource k)
    else return none
  expect (op ")")
  if (← peek) ≠ op ":" then fail

def plainResources : Reader Unit := do
  resource k
  let _ ← many k.bound do
    if ← accept (op ",") then return some (← resource k) else return none

def withHeader : Reader Unit := do
  if (← attempt (groupedResources k)).isNone then plainResources k

def withStatement : StatementReader Block := do
  let l ← line
  expect (word "with")
  withHeader k
  blockAfter k "'with' statement" l body

/-- The header of a handler up to the colon, if one begins here. `grouped` handlers are marked
with a star, and only they or only the others may follow one `try`. -/
def handlerHeader (grouped : Bool) : Reader Bool := do
  match ← peek, ← peekSecond with
  | .keyword "except", second =>
    if (second = op "*") ≠ grouped then return false
    advance
    if grouped then advance
    if grouped || second ≠ op ":" then
      let _ ← k.read .expression
      asName
    return true
  | _, _ => return false

def handler? (grouped : Bool) : StatementReader (Option Block) := do
  let l ← line
  let owner := if grouped then "'except*' statement" else "'except' statement"
  if ← handlerHeader k grouped then return some (← blockAfter k owner l body) else return none

def tryStatement : StatementReader Block := do
  let l ← line
  expect (word "try")
  let first ← blockAfter k "'try' statement" l body
  let finallyBlock := plainBlock? k body "finally" "'finally' statement"
  match ← finallyBlock with
  | some last => return first ++ last
  | none =>
    let grouped := (← peekSecond) = op "*"
    let handlers ← many k.bound (handler? k body grouped)
    if handlers.isEmpty then fail
    else
      let otherwise ← elseBlock k body
      let last ← finallyBlock
      return first ++ (handlers.map .compound ++ (otherwise ++ last.getD []))

def functionHeader : Reader Unit := do
  expect (word "def")
  let _ ← name
  expect (op "(")
  parameters k true (op ")") k.bound noParameters
  if ← accept (op "->") then
    let _ ← k.read .expression

def functionDefinition : StatementReader Block := do
  let l ← line
  functionHeader k
  blockAfter k "function definition" l body

def classHeader : Reader Unit := do
  expect (word "class")
  let _ ← name
  if ← accept (op "(") then arguments k false k.bound true .positional

def classDefinition : StatementReader Block := do
  let l ← line
  classHeader k
  blockAfter k "class definition" l body

def asynchronous : StatementReader Block := do
  match ← peek with
  | .keyword "def" => functionDefinition k body
  | .keyword "with" => withStatement k body
  | .keyword "for" => forStatement k body
  | _ => fail

def decorators : Reader Unit := do
  let _ ← many k.bound do
    if ← accept (op "@") then
      let _ ← named k
      expect .newline
      return some ()
    else return none

def decorated : StatementReader Block := do
  decorators k
  match ← peek with
  | .keyword "def" => functionDefinition k body
  | .keyword "class" => classDefinition k body
  | .keyword "async" =>
    advance
    if (← peek) = word "def" then functionDefinition k body else fail
  | _ => fail

def matchHeader : Reader Unit := do
  expect (.name "match".toList true)
  let first ← starNamed k
  if (← peek) = op "," then
    let _ ← itemsBefore k (starNamed k) (op ":")
  else if first.isStarred then fail
  expect (op ":")
  expect .newline
  expect .indent

def caseHeader : Reader Bool := do
  if ← accept (.name "case".toList true) then
    Case.patterns k
    if ← accept (word "if") then
      let _ ← named k
    return true
  else return false

def case? : StatementReader (Option Block) := do
  let l ← line
  if ← caseHeader k then return some (← blockAfter k "'case' statement" l body) else return none

def cases : StatementReader Block := do
  let found ← many k.bound (case? k body)
  if found.isEmpty then fail
  else
    expect .dedent
    return found.map .compound

/-- A statement, or several on one line. The word `match` is a name unless a whole header
follows. -/
def statement : StatementReader Block := do
  let compound (p : StatementReader Block) : StatementReader Block := do return [.compound (← p)]
  match ← peek with
  | .keyword "if" => compound (ifStatement k body)
  | .keyword "while" => compound (whileStatement k body)
  | .keyword "for" => compound (forStatement k body)
  | .keyword "with" => compound (withStatement k body)
  | .keyword "try" => compound (tryStatement k body)
  | .keyword "def" => compound (functionDefinition k body)
  | .keyword "class" => compound (classDefinition k body)
  | .keyword "async" =>
    advance
    compound (asynchronous k body)
  | .operator "@" => compound (decorated k body)
  | .name ['m', 'a', 't', 'c', 'h'] true =>
    match ← attempt (matchHeader k) with
    | some () => compound (cases k body)
    | none => simpleLine k
  | _ => simpleLine k

def untilEnd : StatementReader Block := do
  let parts ← many k.bound do
    match ← peek with
    | .dedent | .endOfInput => return none
    | _ => return some (← statement k body)
  return parts.flatten

def block : (fuel : Nat) → StatementReader Block
  | 0 => fail
  | fuel + 1 => untilEnd k (block fuel)

def wholeProgram (isCharacterName : Text → Bool) (fuel : Nat) : StatementReader Block := do
  let b ← block (Expression.inner isCharacterName fuel) fuel
  expect .endOfInput
  return b

end Statement

/-- The fault to report for a refused token list. A loud fault of the scan comes first; where
the tokens ran out, or were refused on a line behind an open bracket, the scan's fault is the
reason. -/
def faultOf (scanned : Scanned) (r : Refusal) : Fault :=
  let own : Fault := match r.cause, r.found with
    | .malformed, .indent => ⟨.unexpectedIndent, r.line⟩
    | .malformed, .dedent => ⟨.unexpectedUnindent, r.line⟩
    | cause, _ => ⟨cause, r.line⟩
  match scanned.fault with
  | none => own
  | some (fault, loud) =>
    if loud || (r.cause = .malformed && r.found = .broken) then fault
    else match fault.cause with
      | .neverClosed _ => if fault.line < r.line then fault else own
      | _ => own

def parse (isCharacterName : Text → Bool) (source : Text) : Except Fault Block :=
  if source.contains '\x00' then .error ⟨.nullCharacter, 0⟩
  else
    let scanned := scan source
    let tokens := match scanned.fault with
      | none => scanned.tokens
      | some (fault, _) => scanned.tokens ++ [⟨.broken, ⟨fault.line, 0⟩⟩]
    let program := Statement.wholeProgram isCharacterName (2 * source.length + 8)
    match Reader.readAll program tokens with
    | .ok (b, _) => .ok b
    | .error r => .error (faultOf scanned r)

end ModuleGraph.Program
