import ModuleGraph.Text.Blank
import ModuleGraph.Text.Property

/-! Leftmost scans of a text. A form is tried at every position, together with the character
before it; where it is recognized the scan goes on behind it, elsewhere one character further. -/

namespace ModuleGraph.Text

/-- A recognized form: its length, and the marked part with its distance from the start. -/
structure Hit where
  length : Nat
  distance : Nat
  marked : Text
  deriving DecidableEq, Repr

abbrev Form := Option Char → Text → Option Hit

/-- The marked parts with their positions. While `skip` is positive the scan is inside a form
that has been recognized. -/
def findAll (form : Form) : (skip position : Nat) → Option Char → Text → List (Nat × Text)
  | _, _, _, [] => []
  | skip + 1, position, _, c :: rest => findAll form skip (position + 1) (some c) rest
  | 0, position, before, c :: rest =>
    match form before (c :: rest) with
    | none => findAll form 0 (position + 1) (some c) rest
    | some hit =>
      (position + hit.distance, hit.marked)
        :: findAll form (hit.length - 1) (position + 1) (some c) rest

def found (form : Form) (s : Text) : List (Nat × Text) := findAll form 0 0 none s

def replaceFormsFrom (form : Form) : (skip : Nat) → Option Char → Text → Text
  | _, _, [] => []
  | skip + 1, _, c :: rest => replaceFormsFrom form skip (some c) rest
  | 0, before, c :: rest =>
    match form before (c :: rest) with
    | none => c :: replaceFormsFrom form 0 (some c) rest
    | some hit => hit.marked ++ replaceFormsFrom form (hit.length - 1) (some c) rest

def replaceForms (form : Form) (s : Text) : Text := replaceFormsFrom form 0 none s

def opensWord : Option Char → Bool
  | none => true
  | some c => !isWord c

def closesWord : Text → Bool
  | [] => true
  | c :: _ => !isWord c

/-- The body of a literal up to the closing `quote`, and the rest behind that quote. A backslash
takes the next character with it; a character in `stop` ends the literal without success. -/
def literalBody? (quote : Char) (stop : Char → Bool) : Text → Option (Text × Text)
  | [] => none
  | '\\' :: e :: rest =>
    (literalBody? quote stop rest).map fun (body, after) => ('\\' :: e :: body, after)
  | c :: rest =>
    if c = quote then some ([], rest)
    else if c = '\\' || stop c then none
    else (literalBody? quote stop rest).map fun (body, after) => (c :: body, after)

def blockBody? : Text → Option (Text × Text)
  | [] => none
  | '*' :: '/' :: rest => some ([], rest)
  | c :: rest => (blockBody? rest).map fun (body, after) => (c :: body, after)

theorem literalBody?_append {quote : Char} {stop : Char → Bool} {s body after : Text}
    (h : literalBody? quote stop s = some (body, after)) : s = body ++ quote :: after := by
  fun_induction literalBody? quote stop s generalizing body after with
  | case1 => simp at h
  | case2 e rest ih =>
    obtain ⟨⟨b, a⟩, hb, heq⟩ := Option.map_eq_some_iff.1 h
    simp only [Prod.mk.injEq] at heq
    obtain ⟨rfl, rfl⟩ := heq
    simp [ih hb]
  | case3 rest _ => simp at h; obtain ⟨rfl, rfl⟩ := h; simp
  | case4 => simp at h
  | case5 c rest _ _ _ ih =>
    obtain ⟨⟨b, a⟩, hb, heq⟩ := Option.map_eq_some_iff.1 h
    simp only [Prod.mk.injEq] at heq
    obtain ⟨rfl, rfl⟩ := heq
    simp [ih hb]

theorem blockBody?_append {s body after : Text} (h : blockBody? s = some (body, after)) :
    s = body ++ '*' :: '/' :: after := by
  fun_induction blockBody? s generalizing body after with
  | case1 => simp at h
  | case2 rest => simp at h; obtain ⟨rfl, rfl⟩ := h; rfl
  | case3 c rest _ ih =>
    obtain ⟨⟨b, a⟩, hb, heq⟩ := Option.map_eq_some_iff.1 h
    simp only [Prod.mk.injEq] at heq
    obtain ⟨rfl, rfl⟩ := heq
    simp [ih hb]

end ModuleGraph.Text
