import ModuleGraph.Program.Expression

/-! The patterns of a case distinction. Only their form is read: a pattern takes tokens and
gives nothing. -/

namespace ModuleGraph.Program.Case

open Reader Expression

variable (k : Inner)

def capture : Reader Unit := do
  let s ← name
  if s = ['_'] then fail
  else
    let next ← peek
    if next = op "." || next = op "(" || next = op "=" then fail

def numeral : Reader Unit := do
  match ← peek with
  | .number imaginary =>
    advance
    let next ← peek
    if next = op "+" || next = op "-" then
      advance
      match ← peek with
      | .number true => if imaginary then fail else advance
      | _ => fail
  | _ => fail

def literal? : Reader Bool := do
  match ← peek with
  | .number _ =>
    numeral
    return true
  | .operator "-" =>
    advance
    numeral
    return true
  | .string _ =>
    let _ ← strings k
    return true
  | .keyword s =>
    if ["None", "True", "False"].contains s then
      advance
      return true
    else return false
  | _ => return false

def members : Reader Bool := do
  let ms ← many k.bound do
    if ← accept (op ".") then return some (← name) else return none
  return !ms.isEmpty

def element (pattern : Reader Unit) : Reader Bool := do
  if ← accept (op "*") then
    if !(← accept (.name ['_'] true)) then capture
    return true
  else
    pattern
    return false

def elements (pattern : Reader Unit) (closing : List Kind) : Reader Unit := do
  let _ ← many k.bound do
    if ← accept (op ",") then
      if closing.contains (← peek) then return none else return some (← element pattern)
    else return none

def classParts (pattern : Reader Unit) : (bound : Nat) → (named : Bool) → Reader Unit
  | 0, _ => fail
  | bound + 1, named => do
    if ← accept (op ")") then return ()
    let isNamed := match ← peek, ← peekSecond with
      | .name _ _, .operator "=" => true
      | _, _ => false
    if isNamed then
      advance
      advance
    if named && !isNamed then fail
    pattern
    if ← accept (op ",") then classParts pattern bound (named || isNamed) else expect (op ")")

def mappingParts (pattern : Reader Unit) : (bound : Nat) → Reader Unit
  | 0 => fail
  | bound + 1 => do
    let close := op "\x7d"
    if ← accept close then return ()
    if ← accept (op "**") then
      capture
      let _ ← accept (op ",")
      expect close
    else
      if !(← literal? k) then
        let _ ← name
        if !(← members k) then fail
      expect (op ":")
      pattern
      if ← accept (op ",") then mappingParts pattern bound else expect close

def closed (pattern : Reader Unit) : Reader Unit := do
  if ← literal? k then return ()
  match ← peek with
  | .name s _ =>
    advance
    if s = ['_'] then return ()
    let isPath ← members k
    match ← peek with
    | .operator "(" =>
      advance
      classParts pattern k.bound false
    | .operator "=" => fail
    | .operator "." => if isPath then return () else fail
    | _ => return ()
  | .operator "(" =>
    advance
    if ← accept (op ")") then return ()
    let starred ← element pattern
    if (← peek) = op "," then elements k pattern [op ")"]
    else if starred then fail
    expect (op ")")
  | .operator "[" =>
    advance
    if ← accept (op "]") then return ()
    let _ ← element pattern
    elements k pattern [op "]"]
    expect (op "]")
  | .operator "\x7b" =>
    advance
    mappingParts k pattern k.bound
  | _ => fail

def alternatives (pattern : Reader Unit) : Reader Unit := do
  closed k pattern
  let _ ← many k.bound do
    if ← accept (op "|") then return some (← closed k pattern) else return none
  if ← accept (word "as") then capture

def pattern : (fuel : Nat) → Reader Unit
  | 0 => fail
  | fuel + 1 => alternatives k (pattern fuel)

def patterns : Reader Unit := do
  let one := pattern k k.bound
  let starred ← element one
  if (← peek) = op "," then elements k one [op ":", word "if"]
  else if starred then fail

end ModuleGraph.Program.Case
