import ModuleGraph.Pattern.Basic
import ModuleGraph.Table
import ModuleGraph.Text.CharacterName
import ModuleGraph.Text.Number

/-! Reading of written patterns. Those who read one catch that it is not well formed, and nothing
else that can be wrong with it. -/

namespace ModuleGraph.Pattern

/-- A backslash at the end escapes nothing. -/
inductive Sign where
  | plain (c : Char)
  | escaped (c : Char)
  | dangling
  deriving DecidableEq, Repr

namespace Sign

def scan : Text → List Sign
  | [] => []
  | ['\\'] => [.dangling]
  | '\\' :: c :: rest => .escaped c :: scan rest
  | c :: rest => .plain c :: scan rest

def text : Sign → Text
  | .plain c => [c]
  | .escaped c => ['\\', c]
  | .dangling => ['\\']

end Sign

inductive Fault where
  | malformed
  | hugeRepeat
  | longNumber (digits : Nat)
  | clashingModes
  deriving DecidableEq, Repr

def Fault.message : Fault → String
  | .malformed => "malformed pattern"
  | .hugeRepeat => "the repetition number is too large"
  | .longNumber digits => Text.tooManyDigits digits
  | .clashingModes => "ASCII and UNICODE flags are incompatible"

/-- `modes` are the letters that hold for the whole pattern, and `loose` says that what must stand
behind a place has no fixed width. -/
structure Reading where
  rest : List Sign
  widths : List (Option Width)
  names : Table Text Nat
  conditions : List Nat
  behindFrom : Option Nat
  modes : Text
  loose : Bool

abbrev Reader := StateT Reading (Except Fault)

namespace Reader

def malformed {α : Type} : Reader α := throw .malformed

def peek : Reader (Option Sign) := do return (← get).rest.head?

/-- A sign that is dangling is refused as soon as it is the next. -/
def advance (n : Nat) : Reader Unit := do
  let s ← get
  if (s.rest.take (n + 1)).contains .dangling then malformed
  set { s with rest := s.rest.drop n }

def next? : Reader (Option Sign) := do
  let sign ← peek
  advance 1
  return sign

def next : Reader Sign := do
  let some sign ← next? | malformed
  return sign

def accept (c : Char) : Reader Bool := do
  if (← peek) = some (.plain c) then
    let _ ← next?
    return true
  else return false

def expect (c : Char) : Reader Unit := do
  if ← accept c then return () else malformed

def plainIf (p : Char → Bool) : Option Sign → Option Char
  | some (.plain c) => if p c then some c else none
  | _ => none

def takeWhile (p : Char → Bool) : (bound : Nat) → Reader Text
  | 0 => return []
  | n + 1 => do
    match plainIf p (← peek) with
    | none => return []
    | some c =>
      let _ ← next?
      return c :: (← takeWhile p n)

def remaining : Reader Nat := do return (← get).rest.length

def until_ (c : Char) : Reader Text := do
  let s ← get
  let found := s.rest.takeWhile (· ≠ .plain c)
  if found.isEmpty || found.length = s.rest.length then malformed
  advance (found.length + 1)
  return found.flatMap Sign.text

def groupCount : Reader Nat := do return (← get).widths.length + 1

def closedWidth? (s : Reading) (n : Nat) : Option Width := (s.widths[n - 1]?).join

def checkBehind (n : Nat) : Reader Unit := do
  let s ← get
  match s.behindFrom with
  | none => return ()
  | some first => if (closedWidth? s n).isNone || first ≤ n then malformed

def openGroup (name : Option Text) : Reader Nat := do
  let n ← groupCount
  modify fun s => { s with widths := s.widths ++ [none] }
  match name with
  | none => return n
  | some name =>
    if (← get).names.contains name then malformed
    modify fun s => { s with names := s.names.set name n }
    return n

def widthOf (p : Pattern) : Reader Width := do
  let s ← get
  return p.width fun n => (closedWidth? s n).getD .zero

def closeGroup (n : Nat) (p : Pattern) : Reader Unit := do
  let w ← widthOf p
  modify fun s => { s with widths := s.widths.set (n - 1) (some w) }

def reference (n : Nat) : Reader Nat := do
  if n = 0 || (closedWidth? (← get) n).isNone then malformed
  checkBehind n
  return n

end Reader

open Reader

def isOctal (c : Char) : Bool := '0' ≤ c && c ≤ '7'

def isHex (c : Char) : Bool := c.isDigit || ('a' ≤ c && c ≤ 'f') || ('A' ≤ c && c ≤ 'F')

def hexValue (c : Char) : Nat :=
  if c.isDigit then c.toNat - 48 else if c.isLower then c.toNat - 87 else c.toNat - 55

def number (base : Nat) (digits : Text) : Nat :=
  digits.foldl (fun n c => n * base + hexValue c) 0

def hexEscape (count : Nat) : Reader Nat := do
  let digits ← takeWhile isHex count
  let n := number 16 digits
  if digits.length = count && n ≤ 0x10ffff then return n else malformed

def namedEscape : Reader Nat := do
  expect '\x7b'
  let some n := Text.characterNamed? (← until_ '\x7d') | malformed
  return n

def controlEscape? : Char → Option Nat
  | 'a' => some 7
  | 'b' => some 8
  | 'f' => some 12
  | 'n' => some 10
  | 'r' => some 13
  | 't' => some 9
  | 'v' => some 11
  | '\\' => some 92
  | _ => none

def categoryEscape? : Char → Option ClassItem
  | 'd' => some (.category .digit false)
  | 'D' => some (.category .digit true)
  | 's' => some (.category .space false)
  | 'S' => some (.category .space true)
  | 'w' => some (.category .word false)
  | 'W' => some (.category .word true)
  | _ => none

def edgeEscape? : Char → Option Edge
  | 'A' => some .textStart
  | 'Z' => some .textEnd
  | 'b' => some .wordEdge
  | 'B' => some .noWordEdge
  | _ => none

/-- Escapes of code points that hold everywhere. Letters that mean nothing are refused, other
characters stand for themselves. -/
def codeEscape (c : Char) : Reader Nat := do
  match c with
  | 'x' => hexEscape 2
  | 'u' => hexEscape 4
  | 'U' => hexEscape 8
  | 'N' => namedEscape
  | c => if c.isAlpha || c.isDigit then malformed else return c.toNat

def classEscape (c : Char) : Reader ClassItem := do
  match controlEscape? c with
  | some n => return .single n
  | none =>
    match categoryEscape? c with
    | some item => return item
    | none =>
      if isOctal c then
        let n := number 8 (c :: (← takeWhile isOctal 2))
        if n ≤ 0o377 then return .single n else malformed
      else return .single (← codeEscape c)

def classSign : Sign → Reader ClassItem
  | .plain c => return .single c.toNat
  | .escaped c => classEscape c
  | .dangling => malformed

/-- The items of a character class up to its closing bracket, which stands for itself where it
would close an empty class. Each round takes a sign. -/
def classItems : (fuel : Nat) → List ClassItem → Reader (List ClassItem)
  | 0, _ => malformed
  | fuel + 1, found => do
    let sign ← next
    if sign = .plain ']' && !found.isEmpty then return found.reverse
    let low ← classSign sign
    if ← accept '-' then
      let sign ← next
      if sign = .plain ']' then return (.single '-'.toNat :: low :: found).reverse
      let high ← classSign sign
      match low, high with
      | .range a _, .range b _ =>
        if b < a then malformed
        classItems fuel (.range a b :: found)
      | _, _ => malformed
    else classItems fuel (low :: found)

def charClass (m : Modes) : Reader Pattern := do
  let negated ← accept '^'
  return .unit ⟨← classItems ((← remaining) + 1) [], negated⟩ m

def literal (n : Nat) (m : Modes) : Pattern := .unit ⟨[.single n], false⟩ m

inductive Part where
  | atom (p : Pattern)
  | edge (p : Pattern)
  | repeated (p : Pattern)

def Part.pattern : Part → Pattern
  | .atom p => p
  | .edge p => p
  | .repeated p => p

/-- Digits behind a backslash: an octal code point if they begin with zero or are three octal
digits, else the number of a group. -/
def digitEscape (c : Char) (m : Modes) : Reader Part := do
  if c = '0' then
    return .atom (literal (number 8 (← takeWhile isOctal 2)) m)
  match plainIf Char.isDigit (← peek) with
  | none => return .atom (.again (← reference (hexValue c)) m)
  | some d =>
    let _ ← next?
    match plainIf isOctal (← peek) with
    | some e =>
      if isOctal c && isOctal d then
        let _ ← next?
        let n := number 8 [c, d, e]
        if n ≤ 0o377 then return .atom (literal n m) else malformed
      else return .atom (.again (← reference (number 10 [c, d])) m)
    | none => return .atom (.again (← reference (number 10 [c, d])) m)

def escape (c : Char) (m : Modes) : Reader Part := do
  match edgeEscape? c with
  | some e => return .edge (.edge e m)
  | none =>
    match categoryEscape? c with
    | some item => return .atom (.unit ⟨[item], false⟩ m)
    | none =>
      match controlEscape? c with
      | some n => return .atom (literal n m)
      | none =>
        if c.isDigit then digitEscape c m
        else return .atom (literal (← codeEscape c) m)

def repetition (digits : Text) : Reader (Option Nat) := do
  if digits.isEmpty then return none
  if Text.maxDigits < digits.length then throw (.longNumber digits.length)
  let n := number 10 digits
  if unbounded ≤ n then throw .hugeRepeat
  return some n

def bounds (c : Char) : Reader (Option (Nat × Option Nat)) := do
  match c with
  | '?' => return some (0, some 1)
  | '*' => return some (0, none)
  | '+' => return some (1, none)
  | _ =>
    let before ← get
    if (← peek) = some (.plain '\x7d') then return none
    let least ← takeWhile Char.isDigit (← remaining)
    let most ← if ← accept ',' then takeWhile Char.isDigit (← remaining) else pure least
    if ← accept '\x7d' then
      let low := (← repetition least).getD 0
      let high ← repetition most
      if high.any (· < low) then malformed
      return some (low, high)
    else
      set before
      return none

def greed : Reader Greed := do
  if ← accept '?' then return .reluctant
  else if ← accept '+' then return .possessive
  else return .greedy

def repeated (low : Nat) (high : Option Nat) : List Part → Reader (List Part)
  | .atom p :: before => do return .repeated (.times low high (← greed) p) :: before
  | _ => malformed

def isIdentifier : Text → Bool
  | [] => false
  | c :: rest => Text.isIdentifierStart c && rest.all Text.isIdentifierContinue

def groupName (close : Char) : Reader Text := do
  let name ← until_ close
  if isIdentifier name then return name else malformed

def condition : Reader Nat := do
  let name ← until_ ')'
  let n ←
    if isIdentifier name then
      match (← get).names.get? name with
      | some n => pure n
      | none => malformed
    else
      match Text.writtenNumber? name with
      | some n =>
        if n = 0 || maxGroups ≤ n then malformed
        modify fun s => { s with conditions := n :: s.conditions }
        pure n
      | none => malformed
  checkBehind n
  return n

def modeOf? (c : Char) : Option (Modes → Bool → Modes) :=
  match c with
  | 'i' => some fun m b => { m with ignoreCase := b }
  | 'm' => some fun m b => { m with multiline := b }
  | 's' => some fun m b => { m with dotAll := b }
  | 'x' => some fun m b => { m with verbose := b }
  | 'a' => some fun m b => { m with ascii := b }
  | 'u' => some fun m b => { m with ascii := !b }
  | _ => none

def isModeLetter (c : Char) : Bool := (modeOf? c).isSome

def switched (letters : Text) (b : Bool) (m : Modes) : Modes :=
  letters.foldl (fun m c => match modeOf? c with
    | some f => f m b
    | none => m) m

/-- The letters of a group that switches modes: those switched on, and those switched off, if the
group has a scope. The two kinds of letters exclude each other, and so do `a` and `u`, which
cannot be switched off. -/
def modeLetters (first : Char) : Reader (Text × Option Text) := do
  let on ← if first = '-' then pure [] else do
    pure (first :: (← takeWhile isModeLetter (← remaining)))
  if on.contains 'a' && on.contains 'u' then malformed
  let close ← if first = '-' then pure (.plain '-') else next
  match close with
  | .plain ')' => return (on, none)
  | .plain ':' => return (on, some [])
  | .plain '-' =>
    let off ← takeWhile isModeLetter (← remaining)
    expect ':'
    if off.isEmpty || off.any fun c => c = 'a' || c = 'u' || on.contains c then malformed
    return (on, some off)
  | _ => malformed

def isVerboseBlank (c : Char) : Bool := c = ' ' || ('\t' ≤ c && c ≤ '\r')

def skipPast (sign : Sign) : Reader Bool := do
  let s ← get
  let found := s.rest.takeWhile (· ≠ sign)
  advance (found.length + 1)
  return found.length < s.rest.length

def globalModes : (fuel : Nat) → Modes → Reader Modes
  | 0, m => return m
  | fuel + 1, m => do
    match (← get).rest with
    | .plain '(' :: .plain '?' :: .plain '#' :: _ =>
      if ← skipPast (.plain ')') then globalModes fuel m else malformed
    | .plain '(' :: .plain '?' :: .plain c :: rest =>
      if isModeLetter c then
        let before ← get
        set { before with rest := rest }
        match ← modeLetters c with
        | (on, none) =>
          modify fun s => { s with modes := s.modes ++ on }
          globalModes fuel (switched on true m)
        | (_, some _) =>
          set before
          return m
      else return m
    | .plain c :: _ =>
      if m.verbose && isVerboseBlank c then
        let _ ← next?
        globalModes fuel m
      else if m.verbose && c = '#' then
        let _ ← skipPast (.plain '\n')
        globalModes fuel m
      else return m
    | _ => return m

mutual

def alternatives : (fuel : Nat) → Modes → Reader Pattern
  | 0, _ => malformed
  | fuel + 1, m => do
    let p ← sequence fuel m []
    if ← accept '|' then return .alt p (← alternatives fuel m) else return p

def sequence : (fuel : Nat) → Modes → List Part → Reader Pattern
  | 0, _, _ => malformed
  | fuel + 1, m, parts => do
    let done := .ofItems (parts.reverse.map Part.pattern)
    match ← peek with
    | none => return done
    | some .dangling => malformed
    | some (.escaped c) =>
      let _ ← next?
      sequence fuel m ((← escape c m) :: parts)
    | some (.plain c) =>
      if c = '|' || c = ')' then return done
      let _ ← next?
      if m.verbose && isVerboseBlank c then sequence fuel m parts
      else if m.verbose && c = '#' then
        let _ ← skipPast (.plain '\n')
        sequence fuel m parts
      else
        match c with
        | '[' => sequence fuel m (.atom (← charClass m) :: parts)
        | '.' =>
          let lineEnd := if m.dotAll then [] else [.single 10]
          sequence fuel m (.atom (.unit ⟨lineEnd, true⟩ m) :: parts)
        | '^' => sequence fuel m (.edge (.edge .lineStart m) :: parts)
        | '$' => sequence fuel m (.edge (.edge .lineEnd m) :: parts)
        | '(' =>
          match ← group fuel m with
          | some p => sequence fuel m (.atom p :: parts)
          | none => sequence fuel m parts
        | '?' | '*' | '+' | '\x7b' =>
          match ← bounds c with
          | none => sequence fuel m (.atom (literal c.toNat m) :: parts)
          | some (low, high) => sequence fuel m (← repeated low high parts)
        | c => sequence fuel m (.atom (literal c.toNat m) :: parts)

def grouped : (fuel : Nat) → Modes → Reader Pattern
  | 0, _ => malformed
  | fuel + 1, m => do
    let p ← alternatives fuel m
    expect ')'
    return p

def group : (fuel : Nat) → Modes → Reader (Option Pattern)
  | 0, _ => malformed
  | fuel + 1, m => do
    if !(← accept '?') then return some (← captured fuel m none)
    let .plain c ← next | malformed
    match c with
    | ':' => return some (← grouped fuel m)
    | '>' => return some (.atomic (← grouped fuel m))
    | '#' => if ← skipPast (.plain ')') then return none else malformed
    | '=' => return some (.around none true (← grouped fuel m))
    | '!' => return some (.around none false (← grouped fuel m))
    | '<' =>
      let .plain d ← next | malformed
      if d ≠ '=' && d ≠ '!' then malformed
      let before := (← get).behindFrom
      let count ← groupCount
      modify fun s => { s with behindFrom := some (before.getD count) }
      let p ← grouped fuel m
      modify fun s => { s with behindFrom := before }
      let w ← widthOf p
      modify fun s => { s with loose := s.loose || w.least ≠ w.most }
      return some (.around (some w.least) (d = '=') p)
    | '(' =>
      let n ← condition
      let yes ← sequence fuel m []
      let no ← if ← accept '|' then sequence fuel m [] else pure .empty
      expect ')'
      return some (.ifCaptured n yes no)
    | 'P' =>
      if ← accept '<' then return some (← captured fuel m (some (← groupName '>')))
      expect '='
      let some n := (← get).names.get? (← groupName ')') | malformed
      return some (.again (← reference n) m)
    | c =>
      if !isModeLetter c && c ≠ '-' then malformed
      let (on, some off) ← modeLetters c | malformed
      return some (← grouped fuel (switched off false (switched on true m)))

def captured : (fuel : Nat) → Modes → Option Text → Reader Pattern
  | 0, _, _ => malformed
  | fuel + 1, m, name => do
    let n ← openGroup name
    let p ← grouped fuel m
    closeGroup n p
    return .capture n p

end

/-- The pattern that a text writes. Each step down takes a sign, or goes from a group to what is in
it, at most four times for one sign. Whether modes exclude each other is looked at before what is
left, and before what is known only of the whole pattern. -/
def read (s : Text) : Except Fault Pattern := do
  let signs := Sign.scan s
  let fuel := 5 * (signs.length + 1)
  let reader : Reader Pattern := do
    let m ← globalModes (signs.length + 1) .plain
    alternatives fuel m
  let (p, left) ← reader.run ⟨signs, [], [], [], none, [], false⟩
  if left.modes.contains 'a' && left.modes.contains 'u' then throw .clashingModes
  if left.rest.isEmpty && !left.loose && left.conditions.all (· ≤ left.widths.length) then
    return p
  else throw .malformed

end ModuleGraph.Pattern
