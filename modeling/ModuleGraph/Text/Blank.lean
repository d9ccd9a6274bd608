import ModuleGraph.Text.Basic

/-! Blanks: the characters that trimming removes and that separate words. They are the
characters with the bidirectional type of a separator or the category of a space. -/

namespace ModuleGraph.Text

def blankRanges : List (Nat × Nat) :=
  [(0x09, 0x0d), (0x1c, 0x20), (0x85, 0x85), (0xa0, 0xa0), (0x1680, 0x1680), (0x2000, 0x200a),
   (0x2028, 0x2029), (0x202f, 0x202f), (0x205f, 0x205f), (0x3000, 0x3000)]

def isBlank (c : Char) : Bool :=
  blankRanges.any fun (low, high) => low ≤ c.toNat && c.toNat ≤ high

def trimLeft (s : Text) : Text := s.dropWhile isBlank

def trimRight (s : Text) : Text := dropTail isBlank s

def trim (s : Text) : Text := trimRight (trimLeft s)

def firstWord (s : Text) : Text := (trimLeft s).takeWhile fun c => !isBlank c

theorem dropTail_append_singleton (p : Char → Bool) (s : Text) (c : Char) :
    dropTail p (s ++ [c]) = if p c then dropTail p s else s ++ [c] := by
  simp only [dropTail, List.reverse_append, List.reverse_cons, List.reverse_nil, List.nil_append,
    List.cons_append, List.dropWhile_cons]
  split <;> simp

end ModuleGraph.Text
