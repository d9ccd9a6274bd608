import ModuleGraph.Text.Basic

/-! Breaking a text into lines: between words, and behind hyphens inside of words. -/

namespace ModuleGraph.Text

/-- The pieces between which a word may be broken: behind a hyphen with two letters before it and
letters after it. -/
def wordPieces (word : Text) : List Text :=
  let rec go : (piece rest : Text) → List Text
    | piece, [] => [piece.reverse]
    | a :: b :: piece, '-' :: c :: rest =>
      let joins := a.isAlpha && b.isAlpha && c.isAlpha &&
        (rest.head?.any Char.isAlpha || (rest.head? = some '-' && (rest.drop 1).any Char.isAlpha))
      if joins then ('-' :: a :: b :: piece).reverse :: go [] (c :: rest)
      else go ('-' :: a :: b :: piece) (c :: rest)
    | piece, c :: rest => go (c :: piece) rest
  go [] word

def pieces (s : Text) : List Text :=
  match fields ' ' s with
  | [] => []
  | first :: rest => wordPieces first ++ rest.flatMap fun w => [' '] :: wordPieces w

/-- Fills lines with pieces as far as they fit. Blanks at the end of a line and at the beginning
of a further one are left out; a piece wider than a line has a line of its own. -/
def fill (width : Nat) (line : Text) : List Text → List Text
  | [] => if line.isEmpty then [] else [dropTail (· = ' ') line]
  | piece :: rest =>
    if line.isEmpty && piece = [' '] then fill width [] rest
    else if line.isEmpty || line.length + piece.length ≤ width then fill width (line ++ piece) rest
    else dropTail (· = ' ') line :: fill width (if piece = [' '] then [] else piece) rest

def wrapped (width : Nat) (s : Text) : List Text := fill width [] (pieces s)

end ModuleGraph.Text
