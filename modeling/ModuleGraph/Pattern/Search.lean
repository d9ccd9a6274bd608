import ModuleGraph.Pattern.Basic
import ModuleGraph.Table

/-! Searching a text for a pattern: by trying, from left to right, what comes first in the pattern
first. A repetition ends with the first round that takes no character, so that every search ends. -/

namespace ModuleGraph.Pattern

/-- A place in a text and the texts of the groups matched on the way: what is before it, the
nearest character first, and what comes next. -/
structure Spot where
  before : Text
  rest : Text
  captured : Table Nat Text

namespace Spot

def start (s : Text) : Spot := ⟨[], s, []⟩

def back (s : Spot) (n : Nat) : Spot :=
  { s with before := s.before.drop n, rest := (s.before.take n).reverse ++ s.rest }

def upTo (s t : Spot) : Text := s.rest.take (s.rest.length - t.rest.length)

def isAtWordEdge (s : Spot) (m : Modes) : Bool :=
  let isWord (c : Char) := Category.word.holds m c
  (s.before.head?.any isWord) != (s.rest.head?.any isWord)

def isEmptyText (s : Spot) : Bool := s.before.isEmpty && s.rest.isEmpty

end Spot

/-- A line ends before a line feed; the text's last line also ends at its end. Nothing is an edge
of a word, or none, in the empty text. -/
def Edge.holds (e : Edge) (m : Modes) (s : Spot) : Bool :=
  match e with
  | .lineStart => s.before.isEmpty || (m.multiline && s.before.head? = some '\n')
  | .lineEnd => s.rest.isEmpty || s.rest = ['\n'] || (m.multiline && s.rest.head? = some '\n')
  | .textStart => s.before.isEmpty
  | .textEnd => s.rest.isEmpty
  | .wordEdge => !s.isEmptyText && s.isAtWordEdge m
  | .noWordEdge => !s.isEmptyText && !s.isAtWordEdge m

def Modes.after? (m : Modes) : (taken s : Text) → Option Text
  | [], s => some s
  | _, [] => none
  | c :: taken, d :: s =>
    if c = d || (m.ignoreCase && m.lower c = m.lower d) then m.after? taken s else none

abbrev Next := Spot → Option Spot

/-- Tries the next round of a repetition and what follows it. After the `least` rounds a round
is tried only where the round before took a character; `last` is the number of characters left
when it began. `fuel` bounds the rounds: one for each of the `least` and for each place. -/
def rounds (round : Next → Next) (least : Nat) (most : Option Nat) (g : Greed) (k : Next) :
    (fuel count : Nat) → (last : Option Nat) → Next
  | 0, _, _, _ => none
  | fuel + 1, count, last, s =>
    if count < least then round (rounds round least most g k fuel (count + 1) last) s
    else
      let goesOn := most.all (count < ·) && last ≠ some s.rest.length
      match g with
      | .reluctant =>
        match k s with
        | some t => some t
        | none =>
          if goesOn then
            round (rounds round least most g k fuel (count + 1) (some s.rest.length)) s
          else none
      | .greedy =>
        match (if goesOn then
            round (rounds round least most g k fuel (count + 1) (some s.rest.length)) s
          else none) with
        | some t => some t
        | none => k s
      | .possessive =>
        match (if goesOn then round some s else none) with
        | some t => rounds round least most g k fuel (count + 1) (some s.rest.length) t
        | none => k s

def firstRounds (round : Next → Next) : (least : Nat) → Next
  | 0, s => some s
  | n + 1, s => (round some s).bind (firstRounds round n)

/-- Matches a pattern from a place on and goes on with `k`; where that does not work out, the
next way to match is tried. -/
def from_ : Pattern → Next → Next
  | empty, k, s => k s
  | never, _, _ => none
  | unit cls m, k, s =>
    match s.rest with
    | [] => none
    | c :: rest =>
      if cls.holds m c then k { s with before := c :: s.before, rest := rest } else none
  | edge e m, k, s => if e.holds m s then k s else none
  | seq p q, k, s => from_ p (from_ q k) s
  | alt p q, k, s =>
    match from_ p k s with
    | some t => some t
    | none => from_ q k s
  | times least most .possessive p, k, s =>
    (firstRounds (from_ p) least s).bind fun t =>
      rounds (from_ p) 0 (most.map (· - least)) .possessive k (t.rest.length + 2) 0 none t
  | times least most g p, k, s =>
    rounds (from_ p) least most g k (least + s.rest.length + 2) 0 none s
  | capture n p, k, s => from_ p (fun t => k { t with captured := t.captured.set n (s.upTo t) }) s
  | atomic p, k, s => (from_ p some s).bind k
  | around behind positive p, k, s =>
    let width := behind.getD 0
    let found := if s.before.length < width then none else from_ p some (s.back width)
    match found with
    | some t => if positive then k { s with captured := t.captured } else none
    | none => if positive then none else k s
  | again n m, k, s =>
    match s.captured.get? n with
    | none => none
    | some taken =>
      match m.after? taken s.rest with
      | none => none
      | some rest =>
        let shown := s.rest.take taken.length
        k { s with before := shown.reverse ++ s.before, rest := rest }
  | ifCaptured n yes no, k, s => if s.captured.contains n then from_ yes k s else from_ no k s

def foundFrom (p : Pattern) : (before rest : Text) → Bool
  | before, [] => (from_ p some ⟨before, [], []⟩).isSome
  | before, c :: rest =>
    (from_ p some ⟨before, c :: rest, []⟩).isSome || foundFrom p (c :: before) rest

def foundIn (p : Pattern) (s : Text) : Bool := foundFrom p [] s

end ModuleGraph.Pattern
