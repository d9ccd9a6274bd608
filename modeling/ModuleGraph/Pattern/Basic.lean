import ModuleGraph.Text.Blank
import ModuleGraph.Text.Case

/-! Search patterns: what they are made of, and how many characters they can match. -/

namespace ModuleGraph

namespace Pattern

structure Modes where
  ignoreCase : Bool
  multiline : Bool
  dotAll : Bool
  verbose : Bool
  ascii : Bool
  deriving DecidableEq, Repr

def Modes.plain : Modes := ⟨false, false, false, false, false⟩

inductive Category where
  | digit
  | space
  | word
  deriving DecidableEq, Repr

def Category.holds (k : Category) (m : Modes) (c : Char) : Bool :=
  match k with
  | .digit => if m.ascii then c.isDigit else Text.isDecimal c
  | .space => Text.isBlank c && (!m.ascii || ('\t' ≤ c && c ≤ '\r') || c = ' ')
  | .word => if m.ascii then c.isAlphanum || c = '_' else Text.isWord c

inductive ClassItem where
  | range (low high : Nat)
  | category (k : Category) (negated : Bool)
  deriving DecidableEq, Repr

namespace ClassItem

def single (n : Nat) : ClassItem := .range n n

def covers (low high : Nat) (c : Char) : Bool := low ≤ c.toNat && c.toNat ≤ high

def holds (i : ClassItem) (m : Modes) (c : Char) : Bool :=
  match i with
  | .range low high => covers low high c
  | .category k negated => k.holds m c != negated

/-- Whether a lower-case character belongs to the item when case does not matter: a range holds
it if it holds one way to write the letter. -/
def holdsLower (i : ClassItem) (m : Modes) (c : Char) : Bool :=
  match i with
  | .range low high =>
    if m.ascii then covers low high c || (c.isLower && covers low high c.toUpper)
    else (Text.letterClass c).any fun l => (Text.withLower l).any (covers low high)
  | .category k negated => k.holds m c != negated

end ClassItem

structure CharClass where
  items : List ClassItem
  negated : Bool
  deriving DecidableEq, Repr

def Modes.lower (m : Modes) (c : Char) : Char := if m.ascii then c.toLower else Text.lowerChar c

def CharClass.holds (cls : CharClass) (m : Modes) (c : Char) : Bool :=
  let found :=
    if m.ignoreCase then cls.items.any fun i => i.holdsLower m (m.lower c)
    else cls.items.any fun i => i.holds m c
  found != cls.negated

inductive Edge where
  | lineStart
  | lineEnd
  | textStart
  | textEnd
  | wordEdge
  | noWordEdge
  deriving DecidableEq, Repr

inductive Greed where
  | greedy
  | reluctant
  | possessive
  deriving DecidableEq, Repr

end Pattern

open Pattern in
inductive Pattern where
  | empty
  | never
  | unit (cls : CharClass) (m : Modes)
  | edge (e : Edge) (m : Modes)
  | seq (p q : Pattern)
  | alt (p q : Pattern)
  | times (least : Nat) (most : Option Nat) (g : Greed) (p : Pattern)
  | capture (n : Nat) (p : Pattern)
  | atomic (p : Pattern)
  /-- What stands ahead, or with `behind` that many characters behind. -/
  | around (behind : Option Nat) (positive : Bool) (p : Pattern)
  /-- The text of a group once more. -/
  | again (n : Nat) (m : Modes)
  | ifCaptured (n : Nat) (yes no : Pattern)
  deriving Repr

namespace Pattern

def unbounded : Nat := 4294967295

def maxGroups : Nat := 1073741823

structure Width where
  least : Nat
  most : Nat
  deriving DecidableEq, Repr

namespace Width

def capped (least most : Nat) : Width := ⟨min least (unbounded - 1), min most unbounded⟩

def zero : Width := ⟨0, 0⟩

def add (a b : Width) : Width := capped (a.least + b.least) (a.most + b.most)

def either (a b : Width) : Width := capped (min a.least b.least) (max a.most b.most)

end Width

def width (groups : Nat → Width) : Pattern → Width
  | empty | never | edge .. | around .. => .zero
  | unit .. => ⟨1, 1⟩
  | seq p q => (width groups p).add (width groups q)
  | alt p q => (width groups p).either (width groups q)
  | times least most _ p =>
    let w := width groups p
    .capped (w.least * least) (w.most * most.getD unbounded)
  | capture _ p | atomic p => width groups p
  | again n _ => groups n
  | ifCaptured _ yes no => (width groups yes).either (width groups no)

def ofItems : List Pattern → Pattern
  | [] => empty
  | [p] => p
  | p :: rest => seq p (ofItems rest)

end Pattern
end ModuleGraph
