import ModuleGraph.Json.Value

/-! Reading JSON documents. Beyond the standard the words `NaN`, `Infinity` and `-Infinity` are
numbers; a name that occurs twice in an object keeps its first position and its last value. A
document is refused with the complaint about the first fault and its place. -/

namespace ModuleGraph.Json

inductive Complaint where
  | byteOrderMark
  | expectedValue
  | expectedName
  | expectedColon
  | expectedComma
  | extraData
  | controlCharacter
  | unterminated
  | badEscape
  | badUnicodeEscape
  | hugeInteger (digits : Nat)
  | tooDeep
  deriving DecidableEq, Repr

def Complaint.message : Complaint → String
  | .byteOrderMark => "Unexpected UTF-8 BOM (decode using utf-8-sig)"
  | .expectedValue => "Expecting value"
  | .expectedName => "Expecting property name enclosed in double quotes"
  | .expectedColon => "Expecting ':' delimiter"
  | .expectedComma => "Expecting ',' delimiter"
  | .extraData => "Extra data"
  | .controlCharacter => "Invalid control character at"
  | .unterminated => "Unterminated string starting at"
  | .badEscape => "Invalid \\escape"
  | .badUnicodeEscape => "Invalid \\uXXXX escape"
  | .hugeInteger digits => Text.tooManyDigits digits
  | .tooDeep => "maximum recursion depth exceeded"

/-- A complaint about the character that has `left` characters from itself to the end. -/
structure Fault where
  complaint : Complaint
  left : Nat
  deriving DecidableEq, Repr

def Fault.message (doc : Text) (f : Fault) : String :=
  let pos := doc.length - f.left
  let before := doc.take pos
  let line := before.count '\n' + 1
  let column := (before.reverse.takeWhile (· ≠ '\n')).length + 1
  s!"{f.complaint.message}: line {line} column {column} (char {pos})"

abbrev Scan (α : Type) := Text → Except Fault (α × Text)

def fail {α : Type} (c : Complaint) (at_ : Text) : Except Fault α := .error ⟨c, at_.length⟩

def isSpace (c : Char) : Bool := c = ' ' || c = '\t' || c = '\n' || c = '\r'

def skipSpace (s : Text) : Text := s.dropWhile isSpace

def hexValue? (c : Char) : Option Nat :=
  if '0' ≤ c ∧ c ≤ '9' then some (c.toNat - 48)
  else if 'a' ≤ c ∧ c ≤ 'f' then some (c.toNat - 87)
  else if 'A' ≤ c ∧ c ≤ 'F' then some (c.toNat - 55)
  else none

def hexFour? : Text → Option Nat
  | [a, b, c, d] => do
    let w ← hexValue? a
    let x ← hexValue? b
    let y ← hexValue? c
    let z ← hexValue? d
    return ((w * 16 + x) * 16 + y) * 16 + z
  | _ => none

def simpleEscape? : Char → Option Char
  | '"' => some '"'
  | '\\' => some '\\'
  | '/' => some '/'
  | 'b' => some '\x08'
  | 'f' => some '\x0c'
  | 'n' => some '\n'
  | 'r' => some '\r'
  | 't' => some '\t'
  | _ => none

/-- A code point. Half of a surrogate pair stands for no character; like U+0000, which is put in its
place, it stands in no name of a file. -/
def codePoint (n : Nat) : Char :=
  if n.isValidChar then Char.ofNat n else '\x00'

/-- The escape after `\u`, which needs a character behind its digits. A high surrogate joins
with a low one that follows at once. -/
def unicodeEscape (rest : Text) : Except Fault (Char × Text) :=
  let complain (s : Text) : Except Fault (Char × Text) :=
    .error ⟨.badUnicodeEscape, s.length + 1⟩
  if rest.length < 5 then complain rest
  else match hexFour? (rest.take 4) with
    | none => complain rest
    | some high =>
      let after := rest.drop 4
      if 0xd800 ≤ high ∧ high ≤ 0xdbff ∧ 7 ≤ after.length then
        match after with
        | '\\' :: 'u' :: more =>
          match hexFour? (more.take 4) with
          | none => complain more
          | some low =>
            if 0xdc00 ≤ low ∧ low ≤ 0xdfff then
              .ok (codePoint (0x10000 + (high - 0xd800) * 0x400 + (low - 0xdc00)), more.drop 4)
            else .ok (codePoint high, after)
        | _ => .ok (codePoint high, after)
      else .ok (codePoint high, after)

/-- The characters of a string up to its closing quote; `whole` is the length at its opening
quote. Each step uses up a character, so `fuel` may be the length of the text. -/
def stringBody (whole : Nat) : Nat → Text → Except Fault (Text × Text)
  | 0, _ => .error ⟨.unterminated, whole⟩
  | fuel + 1, s =>
    match s with
    | [] => .error ⟨.unterminated, whole⟩
    | '"' :: rest => .ok ([], rest)
    | ['\\'] => .error ⟨.unterminated, whole⟩
    | '\\' :: 'u' :: rest => do
      let (c, rest) ← unicodeEscape rest
      let (tail, rest) ← stringBody whole fuel rest
      return (c :: tail, rest)
    | '\\' :: e :: rest =>
      match simpleEscape? e with
      | none => .error ⟨.badEscape, s.length⟩
      | some c => do
        let (tail, rest) ← stringBody whole fuel rest
        return (c :: tail, rest)
    | c :: rest =>
      if c.toNat ≤ 0x1f then .error ⟨.controlCharacter, s.length⟩
      else do
        let (tail, rest) ← stringBody whole fuel rest
        return (c :: tail, rest)

def stringAfterQuote (rest : Text) : Except Fault (Text × Text) :=
  stringBody (rest.length + 1) (rest.length + 1) rest

def digitsValue (ds : Text) : Nat :=
  ds.foldl (fun n c => n * 10 + (c.toNat - 48)) 0

def floatOf (negative : Bool) (digits : Text) (exponent : Int) : Float :=
  let m := digitsValue digits
  let significant := (digits.dropWhile (· = '0')).length
  let size := (significant : Int) + exponent
  let x : Float :=
    if m = 0 ∨ size < -400 then 0.0
    else if 400 < size then 1.0 / 0.0
    else Float.ofScientific m (exponent < 0) exponent.natAbs
  if negative then -x else x

def digitRun (s : Text) : Text × Text := (s.takeWhile Char.isDigit, s.dropWhile Char.isDigit)

/-- The exponent mark with its digits; a mark without digits belongs to what follows. -/
def exponent? (s : Text) : Option (Int × Text) :=
  match s with
  | e :: rest =>
    if e = 'e' ∨ e = 'E' then
      let (negative, rest) := match rest with
        | '-' :: more => (true, more)
        | '+' :: more => (false, more)
        | _ => (false, rest)
      match digitRun rest with
      | ([], _) => none
      | (ds, more) =>
        let n : Int := digitsValue (if ds.length > 400 then ['9', '9', '9', '9'] else ds)
        some (if negative then -n else n, more)
    else none
  | [] => none

def number (s : Text) : Except Fault (Value × Text) :=
  let (negative, body) := match s with
    | '-' :: rest => (true, rest)
    | _ => (false, s)
  let (whole, rest) := match body with
    | '0' :: more => (['0'], more)
    | _ => digitRun body
  if whole.isEmpty then fail .expectedValue s
  else
    let (fraction, rest) := match rest with
      | '.' :: more => match digitRun more with
        | ([], _) => ([], rest)
        | (ds, after) => (ds, after)
      | _ => ([], rest)
    match exponent? rest with
    | some (e, rest) =>
      .ok (.float (floatOf negative (whole ++ fraction) (e - fraction.length)), rest)
    | none =>
      if fraction.isEmpty then
        if Text.maxDigits < whole.length then fail (.hugeInteger whole.length) s
        else
          let n : Int := digitsValue whole
          .ok (.int (if negative then -n else n), rest)
      else .ok (.float (floatOf negative (whole ++ fraction) (-(fraction.length : Int))), rest)

def words : List (Text × Value) :=
  [("null".toList, .null), ("true".toList, .bool true), ("false".toList, .bool false),
   ("NaN".toList, .float (0.0 / 0.0)), ("Infinity".toList, .float (1.0 / 0.0)),
   ("-Infinity".toList, .float (-1.0 / 0.0))]

def scalar (s : Text) : Except Fault (Value × Text) :=
  match words.findSome? fun (w, v) => (Text.after? w s).map fun rest => (v, rest) with
  | some found => .ok found
  | none => number s

mutual

/-- One value, in which at most `room` arrays and objects stand inside each other. Every second
call uses up a character, so twice the length is enough fuel. -/
def value : (fuel room : Nat) → Text → Except Fault (Value × Text)
  | 0, _, s => fail .expectedValue s
  | fuel + 1, room, s =>
    match s with
    | '"' :: rest => do
      let (t, rest) ← stringAfterQuote rest
      return (.str t, rest)
    | '{' :: rest =>
      match room with
      | 0 => fail .tooDeep s
      | room + 1 =>
        match skipSpace rest with
        | '}' :: after => .ok (.obj [], after)
        | inner => do
          let (o, rest) ← members fuel room [] inner
          return (.obj o, rest)
    | '[' :: rest =>
      match room with
      | 0 => fail .tooDeep s
      | room + 1 =>
        match skipSpace rest with
        | ']' :: after => .ok (.arr [], after)
        | inner => do
          let (items, rest) ← elements fuel room inner
          return (.arr items, rest)
    | _ => scalar s

def members : (fuel room : Nat) → Object → Text → Except Fault (Object × Text)
  | 0, _, _, s => fail .expectedName s
  | fuel + 1, room, acc, s =>
    match s with
    | '"' :: rest => do
      let (name, rest) ← stringAfterQuote rest
      match skipSpace rest with
      | ':' :: rest => do
        let (v, rest) ← value fuel room (skipSpace rest)
        let acc := acc.set name v
        match skipSpace rest with
        | '}' :: rest => return (acc, rest)
        | ',' :: rest => members fuel room acc (skipSpace rest)
        | rest => fail .expectedComma rest
      | rest => fail .expectedColon rest
    | _ => fail .expectedName s

def elements : (fuel room : Nat) → Text → Except Fault (List Value × Text)
  | 0, _, s => fail .expectedValue s
  | fuel + 1, room, s => do
    let (v, rest) ← value fuel room s
    match skipSpace rest with
    | ']' :: rest => return ([v], rest)
    | ',' :: rest => do
      let (vs, rest) ← elements fuel room (skipSpace rest)
      return (v :: vs, rest)
    | rest => fail .expectedComma rest

end

def parse (nesting : Nat) (doc : Text) : Except Fault Value :=
  match doc with
  | '\ufeff' :: _ => fail .byteOrderMark doc
  | _ => do
    let (v, rest) ← value (2 * doc.length + 2) nesting (skipSpace doc)
    match skipSpace rest with
    | [] => return v
    | rest => fail .extraData rest

end ModuleGraph.Json
