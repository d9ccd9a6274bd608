import Mathlib.Data.List.Infix
import ModuleGraph.Proofs.Script.DependencyArray

/-! Import programs: statements that refer to modules, one to a line. Read as a script, a program is
cut at its literals. Between two literals stands the end of one statement and the beginning of
another, or a comma in an array. It ends in the head of a clause only if the next literal is that
clause's own. -/

namespace ModuleGraph.Script

open Text (Blanks isBlank opensWord closesWord trim)

structure Literal where
  quote : Char
  text : Text
  deriving DecidableEq

def Literal.spelled (l : Literal) : Text := l.quote :: (l.text ++ [l.quote])

inductive Statement where
  | requireCall (l : Literal)
  | importCall (l : Literal)
  | bareImport (l : Literal)
  | importFrom (binding : Text) (l : Literal)
  | exportAll (l : Literal)
  | define (ls : List Literal) (callback : Text)
  | requireAll (ls : List Literal) (callback : Text)

structure Source where
  clause? : Option Clause
  literal : Literal
  deriving DecidableEq

namespace Statement

def clause? : Statement → Option Clause
  | requireCall _ => some .requireCall
  | importCall _ => some .importCall
  | bareImport _ => some .bareImport
  | importFrom _ _ | exportAll _ => some .declaration
  | define _ _ | requireAll _ _ => none

def literals : Statement → List Literal
  | requireCall l | importCall l | bareImport l | importFrom _ l | exportAll l => [l]
  | define ls _ | requireAll ls _ => ls

def name : Statement → Text
  | importFrom binding _ => binding
  | define _ callback | requireAll _ callback => callback
  | _ => []

def opening : Statement → String
  | requireCall _ => "require("
  | importCall _ => "import("
  | bareImport _ | importFrom _ _ => "import "
  | exportAll _ => "export * from "
  | define _ _ => "define(["
  | requireAll _ _ => "require(["

def bound : Statement → Text
  | importFrom binding _ => binding ++ " from ".toList
  | _ => []

def arguments : Statement → Text
  | define _ callback | requireAll _ callback => ']' :: ',' :: ' ' :: callback
  | _ => []

def closing : Statement → String
  | bareImport _ | importFrom _ _ | exportAll _ => ";\n"
  | requireCall _ | importCall _ | define _ _ | requireAll _ _ => ");\n"

def head (st : Statement) : Text := st.opening.toList ++ st.bound

def tail (st : Statement) : Text := st.arguments ++ st.closing.toList

def separator : Text := ", ".toList

def text (st : Statement) : Text :=
  st.head ++ Text.joined separator (st.literals.map Literal.spelled) ++ st.tail

def sources (st : Statement) : List Source := st.literals.map fun l => ⟨st.clause?, l⟩

end Statement

def marks : List Char := ['\'', '"', '`', '/', '!']

def Unmarked (s : Text) : Prop := ∀ c ∈ s, c ∉ marks

instance (s : Text) : Decidable (Unmarked s) := List.decidableBAll _ s

/-- A specifier in quotes: neither empty nor with blanks around it, without any characters that have
a meaning of their own in a literal or an array, and no module of the script runtime. -/
structure Literal.Plain (l : Literal) : Prop where
  quote : isQuote l.quote = true
  ne_nil : l.text ≠ []
  allowed : ∀ c ∈ l.text, c ∉ ['\'', '"', '`', '\\', '\n', '[', ']', '!']
  trimmed : trim l.text = l.text
  foreign : isCoreModule l.text = false

structure Statement.WellFormed (st : Statement) : Prop where
  literals : ∀ l ∈ st.literals, l.Plain
  name : ∀ c ∈ st.name, c ∉ [';', '['] ++ marks

instance (l : Literal) : Decidable l.Plain :=
  have : Decidable (∀ c ∈ l.text, c ∉ ['\'', '"', '`', '\\', '\n', '[', ']', '!']) :=
    List.decidableBAll _ l.text
  decidable_of_iff (isQuote l.quote = true ∧ l.text ≠ [] ∧
      (∀ c ∈ l.text, c ∉ ['\'', '"', '`', '\\', '\n', '[', ']', '!']) ∧ trim l.text = l.text ∧
      isCoreModule l.text = false)
    ⟨fun ⟨quote, ne_nil, allowed, trimmed, foreign⟩ => ⟨quote, ne_nil, allowed, trimmed, foreign⟩,
      fun ⟨quote, ne_nil, allowed, trimmed, foreign⟩ => ⟨quote, ne_nil, allowed, trimmed, foreign⟩⟩

instance (st : Statement) : Decidable st.WellFormed :=
  have : Decidable (∀ c ∈ st.name, c ∉ [';', '['] ++ marks) := List.decidableBAll _ st.name
  decidable_of_iff ((∀ l ∈ st.literals, l.Plain) ∧ ∀ c ∈ st.name, c ∉ [';', '['] ++ marks)
    ⟨fun ⟨literals, name⟩ => ⟨literals, name⟩, fun ⟨literals, name⟩ => ⟨literals, name⟩⟩

/-- The first literal can be read as the head of the clause, and what stands between the two as its
literal, closed in the second one. -/
structure Clause.Catches (k : Clause) (a b : Source) : Prop where
  quote : a.literal.quote = b.literal.quote
  opens : k.Opens a.literal.text
  closes : ∃ left, k.Closes b.literal.text left

def Clause.Clashes (k : Clause) (a b : Source) : Prop := a.clause? ≠ some k ∧ k.Catches a b

def Clash (a b : Source) : Prop := ∃ k : Clause, k.Clashes a b

structure Piece where
  source : Source
  gap : Text

def Piece.spelled (p : Piece) : Text := p.source.literal.spelled ++ p.gap

def piecesOf (clause? : Option Clause) (gap : Text) : List Literal → List Piece
  | [] => []
  | [l] => [⟨⟨clause?, l⟩, gap⟩]
  | l :: next :: more =>
    ⟨⟨clause?, l⟩, Statement.separator⟩ :: piecesOf clause? gap (next :: more)

/-- A program, cut at its literals: what stands before the first one, and the pieces. -/
def cut : List Statement → Text × List Piece
  | [] => ([], [])
  | st :: rest =>
    let (gap, ps) := cut rest
    match st.literals with
    | [] => (st.head ++ st.tail ++ gap, ps)
    | l :: more => (st.head, piecesOf st.clause? (st.tail ++ gap) (l :: more) ++ ps)

variable {k : Clause} {st : Statement} {program : List Statement} {gap s : Text} {p : Piece}
  {ps : List Piece} {l : Literal} {ls : List Literal} {clause? : Option Clause}

theorem spelled_cons (p : Piece) (rest : List Piece) : (p :: rest).flatMap Piece.spelled =
    p.source.literal.quote :: (p.source.literal.text ++
      p.source.literal.quote :: (p.gap ++ rest.flatMap Piece.spelled)) := by
  simp [Piece.spelled, Literal.spelled]

theorem spelled_piecesOf (clause? : Option Clause) (gap : Text) (hne : ls ≠ []) :
    (piecesOf clause? gap ls).flatMap Piece.spelled =
      Text.joined Statement.separator (ls.map Literal.spelled) ++ gap := by
  induction ls with
  | nil => exact absurd rfl hne
  | cons l more ih =>
    cases more with
    | nil => simp [piecesOf, Piece.spelled, Text.joined]
    | cons next more =>
      rw [piecesOf, List.flatMap_cons, ih (List.cons_ne_nil _ _)]
      simp [Piece.spelled, Text.joined]

theorem text_eq_cut (program : List Statement) :
    program.flatMap Statement.text = (cut program).1 ++ (cut program).2.flatMap Piece.spelled := by
  induction program with
  | nil => rfl
  | cons st rest ih =>
    rw [List.flatMap_cons, ih, cut, Statement.text]
    dsimp only
    split
    · next hnil => simp [hnil, Text.joined]
    · next l more hcons =>
      rw [List.flatMap_append, spelled_piecesOf _ _ (List.cons_ne_nil l more), hcons]
      simp

theorem map_source_piecesOf (clause? : Option Clause) (gap : Text) (ls : List Literal) :
    (piecesOf clause? gap ls).map Piece.source = ls.map fun l => ⟨clause?, l⟩ := by
  induction ls with
  | nil => rfl
  | cons l more ih =>
    cases more with
    | nil => rfl
    | cons next more =>
      rw [piecesOf, List.map_cons, ih]
      rfl

theorem map_source_cut (program : List Statement) :
    (cut program).2.map Piece.source = program.flatMap Statement.sources := by
  induction program with
  | nil => rfl
  | cons st rest ih =>
    rw [List.flatMap_cons, ← ih, cut, Statement.sources]
    dsimp only
    split
    · next hnil => simp [hnil]
    · next l more hcons => rw [List.map_append, map_source_piecesOf, hcons]

theorem unmarked_append {a b : Text} : Unmarked (a ++ b) ↔ Unmarked a ∧ Unmarked b := by
  simp [Unmarked, or_imp, forall_and]

theorem Unmarked.unquoted (h : Unmarked s) : Unquoted s :=
  unquoted_of_not_mem (fun hmem => h _ hmem (by decide)) fun hmem => h _ hmem (by decide)

theorem Unmarked.no_backtick (h : Unmarked s) : '`' ∉ s := fun hmem => h '`' hmem (by decide)

theorem Statement.WellFormed.unmarked_name (h : st.WellFormed) : Unmarked st.name :=
  fun c hc hmark => h.name c hc (List.mem_append_right _ hmark)

theorem unmarked_head (h : st.WellFormed) : Unmarked st.head := by
  have hname := h.unmarked_name
  have hopening : Unmarked st.opening.toList := by
    cases st <;> simp only [Statement.opening] <;> decide +kernel
  refine unmarked_append.mpr ⟨hopening, ?_⟩
  cases st with
  | importFrom binding l => exact unmarked_append.mpr ⟨hname, by decide +kernel⟩
  | _ => exact fun c hc => by cases hc

theorem unmarked_tail (h : st.WellFormed) : Unmarked st.tail := by
  have hname := h.unmarked_name
  have hclosing : Unmarked st.closing.toList := by
    cases st <;> simp only [Statement.closing] <;> decide +kernel
  have harguments : Unmarked (']' :: ',' :: ' ' :: st.name) :=
    unmarked_append.mpr ⟨show Unmarked [']', ',', ' '] by decide +kernel, hname⟩
  refine unmarked_append.mpr ⟨?_, hclosing⟩
  cases st with
  | define _ _ | requireAll _ _ => exact harguments
  | _ => exact fun c hc => by cases hc

theorem line_closing (st : Statement) : [';', '\n'] <:+ st.closing.toList := by
  cases st <;> simp only [Statement.closing] <;> decide +kernel

theorem line_tail (st : Statement) : [';', '\n'] <:+ st.tail :=
  (line_closing st).trans (List.suffix_append st.arguments st.closing.toList)

theorem lastSolid_eq {a b : Text} {c : Char} (hc : isBlank c = false) (hb : Blanks b) :
    (a ++ c :: b).reverse.find? (fun x => !isBlank x) = some c := by
  rw [List.reverse_append, List.reverse_cons, List.find?_append, List.find?_append]
  have hblank : b.reverse.find? (fun x => !isBlank x) = none := by
    rw [List.find?_eq_none]
    intro x hx
    simp [hb x (List.mem_reverse.mp hx)]
  simp [hblank, hc]

def Clause.final : Clause → Char
  | requireCall | importCall => '('
  | declaration => 'm'
  | bareImport => 't'

theorem Clause.Opens.lastSolid (h : k.Opens s) :
    s.reverse.find? (fun x => !isBlank x) = some k.final := by
  obtain ⟨u, head, rfl, hhead, -⟩ := h
  cases k with
  | requireCall | importCall =>
    obtain ⟨b, b', -, hb', rfl⟩ := hhead
    rw [← List.append_assoc]
    exact lastSolid_eq (by decide) hb'
  | declaration =>
    obtain ⟨word, middle, b, -, -, -, -, -, hb, rfl⟩ := hhead
    have hsplit : u ++ (word ++ middle ++ "from".toList ++ b) =
        (u ++ word ++ middle ++ "fro".toList) ++ 'm' :: b := by simp
    rw [hsplit]
    exact lastSolid_eq (by decide) hb
  | bareImport =>
    obtain ⟨b, hb, rfl⟩ := hhead
    have hsplit : u ++ ("import".toList ++ b) = (u ++ "impor".toList) ++ 't' :: b := by simp
    rw [hsplit]
    exact lastSolid_eq (by decide) hb

def Statement.final : Statement → Char
  | requireCall _ | importCall _ => '('
  | bareImport _ => 't'
  | importFrom _ _ | exportAll _ => 'm'
  | define _ _ | requireAll _ _ => '['

theorem lastSolid_head (st : Statement) :
    st.head.reverse.find? (fun x => !isBlank x) = some st.final := by
  cases st with
  | importFrom binding l =>
    have hsplit : (Statement.importFrom binding l).head =
        ("import ".toList ++ binding ++ " fro".toList) ++ 'm' :: [' '] := by
      simp [Statement.head, Statement.opening, Statement.bound]
    have hblank : Blanks [' '] := by simp [Blanks, show isBlank ' ' = true by decide +kernel]
    rw [hsplit]
    exact lastSolid_eq (by decide) hblank
  | _ =>
    simp only [Statement.head, Statement.opening, Statement.bound, Statement.final, List.append_nil]
    decide +kernel

theorem not_opens_of_no_word {word : Text} (hk : ∀ t, k.Head t → word <+: t)
    (hs : ∀ t ∈ s.tails, ¬ word <+: t) : ¬ k.Opens s := by
  rintro ⟨u, head, rfl, hhead, -⟩
  exact hs head ((List.mem_tails _ _).mpr (List.suffix_append u head)) (hk head hhead)

theorem Clause.CallHead.word {word t : Text} (h : CallHead word t) : word <+: t := by
  obtain ⟨b, b', -, -, rfl⟩ := h
  exact ⟨b ++ '(' :: b', (List.append_assoc ..).symm⟩

theorem opens_head_iff (h : st.WellFormed) : k.Opens st.head ↔ st.clause? = some k := by
  constructor
  · intro hopens
    have hlast : k.final = st.final :=
      Option.some.inj (hopens.lastSolid.symm.trans (lastSolid_head st))
    cases st with
    | requireCall l =>
      cases k with
      | importCall =>
        exact absurd hopens (not_opens_of_no_word (fun t => Clause.CallHead.word) (by
          simp only [Statement.head, Statement.opening, Statement.bound, List.append_nil]
          decide +kernel))
      | requireCall => rfl
      | _ => cases hlast
    | importCall l =>
      cases k with
      | requireCall =>
        exact absurd hopens (not_opens_of_no_word (fun t => Clause.CallHead.word) (by
          simp only [Statement.head, Statement.opening, Statement.bound, List.append_nil]
          decide +kernel))
      | importCall => rfl
      | _ => cases hlast
    | _ =>
      revert hlast
      cases k <;> simp [Clause.final, Statement.final, Statement.clause?]
  · have hnil : Blanks [] := Text.blanks_nil
    have hspace : Blanks [' '] := by simp [Blanks, show isBlank ' ' = true by decide +kernel]
    intro hclause
    cases st with
    | requireCall _ | importCall _ =>
      obtain rfl := Option.some.inj hclause
      exact ⟨[], _, rfl, ⟨[], [], hnil, hnil, by simp [Statement.opening, Statement.bound]⟩, rfl⟩
    | bareImport l =>
      obtain rfl := Option.some.inj hclause
      exact ⟨[], _, rfl, ⟨[' '], hspace, by simp [Statement.opening, Statement.bound]⟩, rfl⟩
    | importFrom binding l =>
      obtain rfl := Option.some.inj hclause
      have hname : Unquoted binding := h.unmarked_name.unquoted
      have hmiddle : Unbroken (' ' :: (binding ++ [' '])) := by
        intro c hc
        simp only [List.mem_cons, List.mem_append, List.not_mem_nil, or_false] at hc
        rcases hc with rfl | hc | rfl
        · decide
        · exact ⟨hname c hc, fun heq => h.name c hc (heq ▸ List.mem_cons_self)⟩
        · decide
      have hlast : opensWord (' ' :: (binding ++ [' '])).getLast? = true := by
        rw [← List.cons_append, List.getLast?_concat]
        rfl
      exact ⟨[], _, rfl, ⟨"import".toList, ' ' :: (binding ++ [' ']), [' '], Or.inl rfl,
        List.cons_ne_nil _ _, rfl, hlast, hmiddle, hspace,
        by simp [Statement.opening, Statement.bound]⟩, rfl⟩
    | exportAll l =>
      obtain rfl := Option.some.inj hclause
      exact ⟨[], _, rfl, ⟨"export".toList, " * ".toList, [' '], Or.inr rfl, by decide +kernel,
        by decide +kernel, by decide +kernel, by decide +kernel, hspace,
        by simp [Statement.opening, Statement.bound]⟩, rfl⟩
    | define _ _ | requireAll _ _ => cases hclause

end ModuleGraph.Script
