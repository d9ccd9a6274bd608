import ModuleGraph.Family
import ModuleGraph.Script.Comment

/-! The module references of a script: calls of `require` and `import` with one literal, import
and export declarations, and the dependency arrays of `define` and `require`. -/

namespace ModuleGraph.Script

open Text (Hit Form isBlank opensWord closesWord after?)

def isQuote (c : Char) : Bool := c = '\'' || c = '"'

def isAnyQuote (c : Char) : Bool := isQuote c || c = '`'

def plainLiteral? (isQ : Char → Bool) : Text → Option (Text × Text)
  | q :: rest =>
    if isQ q then
      let body := rest.takeWhile fun c => !isQ c
      match rest.drop body.length with
      | close :: after => if close = q && !body.isEmpty then some (body, after) else none
      | [] => none
    else none
  | [] => none

/-- The hit for a form that began at `s`, whose marked part stood at the end of what was read
before `from_`, and that ends before `after`. -/
def hitAt (s from_ : Text) (marked after : Text) : Hit :=
  ⟨s.length - after.length, s.length - from_.length, marked⟩

def callForm (word : Text) : Form := fun before s => do
  guard (opensWord before)
  let rest ← after? word s
  let rest ← after? ['('] (Text.trimLeft rest)
  let argument := Text.trimLeft rest
  let (spec, rest) ← plainLiteral? isAnyQuote argument
  let rest ← after? [')'] (Text.trimLeft rest)
  return hitAt s (argument.drop 1) spec rest

def fromClause? (before : Option Char) (s : Text) : Option (Text × Text × Text) := do
  guard (opensWord before)
  let rest ← after? "from".toList s
  let source := Text.trimLeft rest
  let (spec, rest) ← plainLiteral? isQuote source
  return (source.drop 1, spec, rest)

def firstFromClause? : Option Char → Text → Option (Text × Text × Text)
  | before, s =>
    match fromClause? before s with
    | some found => some found
    | none =>
      match s with
      | [] => none
      | c :: rest => if isQuote c || c = ';' then none else firstFromClause? (some c) rest

def declarationForm : Form := fun before s => do
  guard (opensWord before)
  let rest ← (after? "import".toList s).or (after? "export".toList s)
  guard (closesWord rest)
  let (from_, spec, rest) ← firstFromClause? (some 't') rest
  return hitAt s from_ spec rest

def bareImportForm : Form := fun before s => do
  guard (opensWord before)
  let rest ← after? "import".toList s
  let source := Text.trimLeft rest
  let (spec, rest) ← plainLiteral? isQuote source
  return hitAt s (source.drop 1) spec rest

def moduleName? : Text → Option Text
  | q :: rest => do
    guard (isQuote q)
    let rest ← after? [q] (rest.dropWhile fun c => !isQuote c)
    let rest ← after? [','] (Text.trimLeft rest)
    return Text.trimLeft rest
  | [] => none

/-- `define([…]` or `require([…]`, with a module name before the array or without one; the
marked part is the text between the brackets. -/
def arrayForm : Form := fun before s => do
  guard (opensWord before)
  let rest ← (after? "define".toList s).or (after? "require".toList s)
  let rest ← after? ['('] (Text.trimLeft rest)
  let argument := Text.trimLeft rest
  let items ← after? ['['] ((moduleName? argument).getD argument)
  let list := items.takeWhile (· ≠ ']')
  let rest ← after? [']'] (items.drop list.length)
  return hitAt s items list rest

def itemForm : Form := fun _ s =>
  (plainLiteral? isQuote s).map fun (spec, _) => ⟨spec.length + 2, 1, spec⟩

def references (code : Text) : List (Nat × Text) :=
  Text.found (callForm "require".toList) code
    ++ Text.found declarationForm code
    ++ Text.found bareImportForm code
    ++ Text.found (callForm "import".toList) code
    ++ (Text.found arrayForm code).flatMap fun (position, list) =>
      (Text.found itemForm list).map fun (offset, spec) => (position + offset, spec)

def pluginMark : Char := '!'

def specifiers (source : Text) (includeCore skipPlugins : Bool) : List Text :=
  let found := (references (stripComments source)).mergeSort fun a b => a.1 ≤ b.1
  (found.map fun (_, spec) => Text.trim spec).filter fun spec =>
    !spec.isEmpty && !(skipPlugins && spec.contains pluginMark)
      && (includeCore || !isCoreModule spec)

end ModuleGraph.Script
