import ModuleGraph.Text.Scan

/-! The references of stylesheets: the targets of `@import`, `@use`, `@forward` and `@require`.
Targets on other hosts and modules of the style language itself are left out. -/

namespace ModuleGraph.Stylesheet

open Text (Hit Form isBlank literalBody? blockBody? after?)

def opensLineComment : Option Char → Bool
  | none => true
  | some c => isBlank c

def literal? (quote : Char) (rest : Text) : Option Hit :=
  (literalBody? quote (· = '\n') rest).map fun (body, _) =>
    ⟨body.length + 2, 0, quote :: (body ++ [quote])⟩

def commentOrLiteral : Form := fun before s =>
  match s with
  | '\'' :: rest => literal? '\'' rest
  | '"' :: rest => literal? '"' rest
  | '/' :: '*' :: rest => (blockBody? rest).map fun (body, _) => ⟨body.length + 4, 0, []⟩
  | '/' :: '/' :: rest =>
    if opensLineComment before then some ⟨(rest.takeWhile (· ≠ '\n')).length + 2, 0, []⟩
    else none
  | _ => none

def stripComments (source : Text) : Text := Text.replaceForms commentOrLiteral source

def ruleNames : List Text :=
  ["import".toList, "use".toList, "forward".toList, "require".toList]

def ruleForm : Form := fun _ s => do
  let rest ← after? ['@'] s
  let rest ← ruleNames.findSome? fun name => after? name rest
  let start := Text.trimLeft rest
  guard (start.length < rest.length)
  let body := start.takeWhile fun c => c ≠ ';' && c ≠ '\n'
  guard (!body.isEmpty)
  return ⟨s.length - (start.length - body.length), s.length - start.length, body⟩

def isQuote (c : Char) : Bool := c = '\'' || c = '"'

def isUrlChar (c : Char) : Bool := !isQuote c && c ≠ ')'

/-- `url(…)` with or without quotes. Between empty parentheses the last blank is the target. -/
def url? (s : Text) : Option Hit := do
  let inner ← after? "url(".toList s
  let rest := Text.trimLeft inner
  let found (target after : Text) : Hit := ⟨s.length - after.length, 0, target⟩
  match rest with
  | [] => none
  | q :: more =>
    if isQuote q then
      let target := more.takeWhile isUrlChar
      guard (!target.isEmpty)
      let after ← after? [q] (more.drop target.length)
      let after ← after? [')'] (Text.trimLeft after)
      return found target after
    else
      let target := rest.takeWhile isUrlChar
      let after ← after? [')'] (rest.drop target.length)
      if target.isEmpty then
        guard (rest.length < inner.length)
        return found [' '] after
      else return found target after

def quoted? : Text → Option Hit
  | q :: rest => do
    guard (isQuote q)
    let target := rest.takeWhile fun c => !isQuote c
    guard (!target.isEmpty)
    let _ ← after? [q] (rest.drop target.length)
    return ⟨target.length + 2, 1, target⟩
  | [] => none

def targetForm : Form := fun _ s => (url? s).or (quoted? s)

def remoteMarks : List Text :=
  ["http://".toList, "https://".toList, "//".toList, "sass:".toList]

def isLocal (target : Text) : Bool :=
  !target.isEmpty && !remoteMarks.any fun mark => Text.beginsWith mark target

def targets (body : Text) : List Text :=
  let body := Text.trim body
  match (Text.found targetForm body).map (·.2) with
  | [] => if body.isEmpty then [] else [Text.dropTail (· = ',') (Text.firstWord body)]
  | some_ => some_

def specifiers (source : Text) : List Text :=
  (((Text.found ruleForm (stripComments source)).flatMap fun (_, body) => targets body).map
    Text.trim).filter isLocal

end ModuleGraph.Stylesheet
