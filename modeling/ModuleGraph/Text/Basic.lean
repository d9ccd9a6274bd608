/-! A text is the list of its code points, so that every scan of it is a recursion on the
text itself. Cutting at a separator loses nothing: joining the fields gives the text back. -/

namespace ModuleGraph

abbrev Text := List Char

namespace Text

def string (s : Text) : String := String.ofList s

def fields (sep : Char) : Text → List Text
  | [] => [[]]
  | c :: rest =>
    if c = sep then [] :: fields sep rest
    else match fields sep rest with
      | [] => [[c]]
      | field :: more => (c :: field) :: more

def cut? (sep : Char) : Text → Option (Text × Text)
  | [] => none
  | c :: rest =>
    if c = sep then some ([], rest)
    else (cut? sep rest).map fun (before, after) => (c :: before, after)

def joined (sep : Text) : List Text → Text
  | [] => []
  | [piece] => piece
  | piece :: rest => piece ++ sep ++ joined sep rest

def dropTail (p : Char → Bool) (s : Text) : Text :=
  (s.reverse.dropWhile p).reverse

def splitLast (p : Char → Bool) (s : Text) : Text × Text :=
  let tail := (s.reverse.takeWhile fun c => !p c).reverse
  (s.take (s.length - tail.length), tail)

def after? : (head s : Text) → Option Text
  | [], s => some s
  | _ :: _, [] => none
  | a :: head, c :: rest => if a = c then after? head rest else none

def beginsWith (head s : Text) : Bool := head.isPrefixOf s

def endsWith (tail s : Text) : Bool := tail.isSuffixOf s

def replace (mark : Char) (value : Text) (s : Text) : Text :=
  s.flatMap fun c => if c = mark then value else [c]

def lowerAscii (s : Text) : Text := s.map Char.toLower

theorem fields_ne_nil (sep : Char) (s : Text) : fields sep s ≠ [] := by
  cases s with
  | nil => simp [fields]
  | cons c rest =>
    simp only [fields]
    split
    · simp
    · split <;> simp

theorem joined_fields (sep : Char) (s : Text) : joined [sep] (fields sep s) = s := by
  induction s with
  | nil => rfl
  | cons c rest ih =>
    simp only [fields]
    split
    · next h =>
      subst h
      cases hf : fields c rest with
      | nil => exact absurd hf (fields_ne_nil _ _)
      | cons field more => simp [joined, ← hf, ih]
    · cases hf : fields sep rest with
      | nil => exact absurd hf (fields_ne_nil _ _)
      | cons field more =>
        rw [hf] at ih
        cases more with
        | nil => simpa [joined] using ih
        | cons next more => simpa [joined] using ih

theorem after?_eq_some_iff {head s rest : Text} : after? head s = some rest ↔ s = head ++ rest := by
  induction head generalizing s with
  | nil => simp [after?, eq_comm]
  | cons a head ih =>
    cases s with
    | nil => simp [after?]
    | cons c s =>
      simp only [after?]
      split
      · next h => subst h; simp [ih]
      · next h => simp [Ne.symm h]

theorem fields_append_cons (sep : Char) (s rest : Text) :
    fields sep (s ++ sep :: rest) = fields sep s ++ fields sep rest := by
  induction s with
  | nil => simp [fields]
  | cons c s ih =>
    simp only [List.cons_append, fields, ih]
    split
    · rfl
    · cases hf : fields sep s with
      | nil => exact absurd hf (fields_ne_nil sep s)
      | cons field more => rfl

theorem cut?_eq_none_iff {sep : Char} {s : Text} : cut? sep s = none ↔ sep ∉ s := by
  induction s with
  | nil => simp [cut?]
  | cons c rest ih =>
    by_cases h : c = sep
    · simp [cut?, h]
    · simp [cut?, h, ih, Ne.symm h]

theorem cut?_eq_some_iff {sep : Char} {s before after : Text} :
    cut? sep s = some (before, after) ↔ s = before ++ sep :: after ∧ sep ∉ before := by
  induction s generalizing before with
  | nil => simp [cut?]
  | cons c rest ih =>
    by_cases h : c = sep
    · subst h
      cases before <;> simp +contextual [cut?]
    · cases before with
      | nil => simp [cut?, h]
      | cons a before =>
        simp only [cut?, if_neg h, Option.map_eq_some_iff, Prod.mk.injEq, Prod.exists,
          List.cons.injEq, List.cons_append, List.mem_cons, not_or]
        constructor
        · rintro ⟨b, after, hcut, ⟨rfl, rfl⟩, rfl⟩
          obtain ⟨rfl, hb⟩ := ih.mp hcut
          exact ⟨⟨rfl, rfl⟩, Ne.symm h, hb⟩
        · rintro ⟨⟨rfl, rfl⟩, -, hb⟩
          exact ⟨before, after, ih.mpr ⟨rfl, hb⟩, ⟨rfl, rfl⟩, rfl⟩

/-- So many digits a whole number may be written with. -/
def maxDigits : Nat := 4300

def tooManyDigits (digits : Nat) : String :=
  s!"Exceeds the limit ({maxDigits} digits) for integer string conversion: value has {digits} digits"
    ++ "; use sys.set_int_max_str_digits() to increase the limit"

end Text
end ModuleGraph
