import ModuleGraph.Text.Scan

/-! Comments of scripts. Literals are recognized before comments, so a comment mark inside a
literal stays. A block comment leaves its line ends behind, so no line changes its number. -/

namespace ModuleGraph.Script

open Text (Hit Form literalBody? blockBody?)

def literal? (quote : Char) (rest : Text) : Option Hit :=
  (literalBody? quote (fun c => quote ≠ '`' && c = '\n') rest).map fun (body, _) =>
    ⟨body.length + 2, 0, quote :: (body ++ [quote])⟩

def commentOrLiteral : Form := fun _ s =>
  match s with
  | '\'' :: rest => literal? '\'' rest
  | '"' :: rest => literal? '"' rest
  | '`' :: rest => literal? '`' rest
  | '/' :: '*' :: rest =>
    (blockBody? rest).map fun (body, _) =>
      ⟨body.length + 4, 0, List.replicate (body.count '\n') '\n'⟩
  | '/' :: '/' :: rest => some ⟨(rest.takeWhile (· ≠ '\n')).length + 2, 0, []⟩
  | _ => none

def stripComments (source : Text) : Text := Text.replaceForms commentOrLiteral source

end ModuleGraph.Script
