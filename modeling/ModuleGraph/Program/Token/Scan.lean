import ModuleGraph.Program.Token

/-! From characters to tokens. Lines with nothing but blanks and a comment do not count; inside
brackets neither line ends nor indentation do. Indentation is measured twice, with tabs that
reach to a multiple of eight and with tabs of width one, and both measures have to agree on what
is deeper. A scan ends with the end of the input or at the first fault. -/

namespace ModuleGraph.Program

structure Scan where
  place : Place
  levels : List (Nat × Nat)
  brackets : List (Char × Nat)
  tokens : List Token

/-- Finished tokens in order, and the fault if the scan did not reach the end. A fault that is
`loud` is reported even when the tokens before it are refused already. -/
structure Scanned where
  tokens : List Token
  fault : Option (Fault × Bool)

namespace Scan

def initial : Scan := ⟨.start, [], [], []⟩

def line (s : Scan) : Nat := s.place.line

def emit (s : Scan) (kind : Kind) : Scan := { s with tokens := ⟨kind, s.place⟩ :: s.tokens }

def past (s : Scan) (text : Text) : Scan := { s with place := s.place.after text }

def take (s : Scan) (kind : Kind) (spelled : Text) : Scan := (s.emit kind).past spelled

def stop (s : Scan) (cause : Cause) (loud : Bool) : Scanned :=
  ⟨s.tokens.reverse, some (⟨cause, s.line⟩, loud)⟩

def maxLevels : Nat := 100

def maxBrackets : Nat := 200

/-- The columns at which a line begins, under both measures, and the place to which its blanks
lead. A line joined to the next one by a backslash keeps the indentation of its first part. -/
structure Margin where
  column : Nat
  narrow : Nat
  joined : Nat
  place : Place

def Margin.past (m : Margin) (text : Text) : Margin := { m with place := m.place.after text }

def margin : (fuel : Nat) → Margin → Text → Except Cause (Margin × Text)
  | 0, m, s => .ok (m, s)
  | fuel + 1, m, s =>
    match s with
    | ' ' :: rest =>
      margin fuel { m.past [' '] with column := m.column + 1, narrow := m.narrow + 1 } rest
    | '\t' :: rest =>
      margin fuel { m.past ['\t'] with
        column := (m.column / 8 + 1) * 8
        narrow := m.narrow + 1 } rest
    | '\x0c' :: rest => margin fuel { m.past ['\x0c'] with column := 0, narrow := 0 } rest
    | '\\' :: '\n' :: rest =>
      if rest.isEmpty then .error .unexpectedEnd
      else margin fuel { m.past ['\\', '\n'] with
        joined := if m.joined = 0 then m.column else m.joined } rest
    | '\\' :: _ => .error .badContinuation
    | _ => .ok (m, s)

def closeLevels (column : Nat) : List (Nat × Nat) → Nat × List (Nat × Nat)
  | [] => (0, [])
  | level :: outer =>
    if column < level.1 then
      let (n, rest) := closeLevels column outer
      (n + 1, rest)
    else (0, level :: outer)

def currentLevel (levels : List (Nat × Nat)) : Nat × Nat := levels.head?.getD (0, 0)

def align (s : Scan) (column narrow : Nat) : Except Cause Scan :=
  let (c, n) := currentLevel s.levels
  if column = c then
    if narrow = n then .ok s else .error .inconsistentTabs
  else if c < column then
    if maxLevels ≤ s.levels.length + 1 then .error .tooManyLevels
    else if narrow ≤ n then .error .inconsistentTabs
    else .ok ({ s with levels := (column, narrow) :: s.levels }.emit .indent)
  else
    let (count, levels) := closeLevels column s.levels
    let (c, n) := currentLevel levels
    if column ≠ c then .error .inconsistentUnindent
    else if narrow ≠ n then .error .inconsistentTabs
    else .ok ((List.range count).foldl (fun s _ => s.emit .dedent) { s with levels := levels })

def isNameStart (c : Char) : Bool := c.isAlpha || c = '_' || 0x80 ≤ c.toNat

def isNameChar (c : Char) : Bool := c.isAlphanum || c = '_' || 0x80 ≤ c.toNat

def badNameChar? : Text → Option Char
  | [] => none
  | c :: rest =>
    if Text.isIdentifierStart c then rest.find? fun d => !Text.isIdentifierContinue d
    else some c

structure Marks where
  b : Bool
  u : Bool
  r : Bool
  f : Bool

def Marks.add? (m : Marks) (c : Char) : Option Marks :=
  let c := c.toLower
  if c = 'b' && !(m.b || m.u || m.f) then some { m with b := true }
  else if c = 'u' && !(m.b || m.u || m.r || m.f) then some { m with u := true }
  else if c = 'r' && !(m.r || m.u) then some { m with r := true }
  else if c = 'f' && !(m.f || m.b || m.u) then some { m with f := true }
  else none

def literalMarks? : Marks → Text → Option (Marks × Text × Text)
  | _, [] => none
  | m, c :: rest =>
    if c = '\'' || c = '"' then some (m, [], c :: rest)
    else (m.add? c).bind fun m =>
      (literalMarks? m rest).map fun (m, letters, text) => (m, c :: letters, text)

def singleBody? (quote : Char) : Text → Option (Text × Text)
  | [] => none
  | '\\' :: e :: rest =>
    (singleBody? quote rest).map fun (body, after) => ('\\' :: e :: body, after)
  | c :: rest =>
    if c = quote then some ([], rest)
    else if c = '\n' then none
    else (singleBody? quote rest).map fun (body, after) => (c :: body, after)

def tripleBody? (quote : Char) : Text → Option (Text × Text)
  | [] => none
  | '\\' :: e :: rest =>
    (tripleBody? quote rest).map fun (body, after) => ('\\' :: e :: body, after)
  | c :: rest =>
    if c = quote && rest.take 2 = [quote, quote] then some ([], rest.drop 2)
    else (tripleBody? quote rest).map fun (body, after) => (c :: body, after)

def lastLineOf (s : Text) : Nat := s.count '\n'

def literal (m : Marks) (s : Text) : Except Bool (Literal × Text × Text) :=
  let make (quotes body after : Text) : Literal × Text × Text :=
    (⟨m.b, m.r, m.f, body⟩, quotes ++ (body ++ quotes), after)
  match s with
  | q :: q' :: q'' :: rest =>
    if q' = q && q'' = q then
      match tripleBody? q rest with
      | some (body, after) => .ok (make [q, q, q] body after)
      | none => .error true
    else match singleBody? q (q' :: q'' :: rest) with
      | some (body, after) => .ok (make [q] body after)
      | none => .error false
  | q :: rest =>
    match singleBody? q rest with
    | some (body, after) => .ok (make [q] body after)
    | none => .error false
  | [] => .error false

/-- Digit groups with single low lines between them: `none` if a low line has no digit behind
it. The digits are returned without the low lines. -/
def digitGroups (digit : Char → Bool) : Text → Option (Text × Text)
  | [] => some ([], [])
  | '_' :: c :: rest =>
    if digit c then (digitGroups digit rest).map fun (ds, after) => (c :: ds, after) else none
  | ['_'] => none
  | c :: rest =>
    if digit c then (digitGroups digit rest).map fun (ds, after) => (c :: ds, after)
    else some ([], c :: rest)

def wordsAfterNumber : List Text :=
  ["and".toList, "else".toList, "for".toList, "if".toList, "in".toList, "is".toList,
   "not".toList, "or".toList]

def endsNumber (kind : String) (s : Text) : Except Cause Unit :=
  if wordsAfterNumber.any fun w => Text.beginsWith w s then .ok ()
  else match s with
    | c :: _ => if isNameChar c then .error (.badNumber kind) else .ok ()
    | [] => .ok ()

def isHex (c : Char) : Bool := c.isDigit || ('a' ≤ c.toLower && c.toLower ≤ 'f')

def radixNumber (kind : String) (digit : Char → Bool) (s : Text) : Except Cause Text :=
  let body := match s with
    | '_' :: rest => rest
    | _ => s
  match body with
  | [] => .error (.badNumber kind)
  | c :: _ =>
    if !digit c then
      if c.isDigit then .error (.badDigit c kind) else .error (.badNumber kind)
    else match digitGroups digit body with
      | none => .error (.badNumber kind)
      | some (_, rest) =>
        match rest with
        | c :: _ =>
          if c.isDigit then .error (.badDigit c kind)
          else (endsNumber kind rest).map fun _ => rest
        | [] => .ok []

def decimalGroups (s : Text) : Except Cause (Text × Text) :=
  match digitGroups Char.isDigit s with
  | none => .error (.badNumber "decimal")
  | some found => .ok found

/-- What may follow the digits before an exponent: the exponent and the imaginary mark. The
result tells whether the number is whole, and whether it is imaginary. -/
def numberTail (whole : Bool) (s : Text) : Except Cause (Bool × Bool × Text) := do
  let (whole, rest) ← match s with
    | e :: rest =>
      if e = 'e' || e = 'E' then
        let signed := match rest with
          | c :: more => if c = '+' || c = '-' then some more else none
          | [] => none
        match signed with
        | some more =>
          match more with
          | d :: _ =>
            if d.isDigit then
              let (_, after) ← decimalGroups more
              pure (false, after)
            else .error (.badNumber "decimal")
          | [] => .error (.badNumber "decimal")
        | none =>
          match rest with
          | d :: _ =>
            if d.isDigit then
              let (_, after) ← decimalGroups rest
              pure (false, after)
            else
              endsNumber "decimal" s
              return (whole, false, s)
          | [] =>
            endsNumber "decimal" s
            return (whole, false, s)
      else pure (whole, s)
    | [] => pure (whole, s)
  match rest with
  | j :: after =>
    if j = 'j' || j = 'J' then
      endsNumber "imaginary" after
      return (false, true, after)
    else
      endsNumber "decimal" rest
      return (whole, false, rest)
  | [] => return (whole, false, rest)

def fractionTail (s : Text) : Except Cause (Bool × Text) := do
  let rest ← match s with
    | d :: _ => if d.isDigit then (decimalGroups s).map (·.2) else pure s
    | [] => pure s
  let (_, imaginary, after) ← numberTail false rest
  return (imaginary, after)

def number (s : Text) : Except Cause (Bool × Text) := do
  match s with
  | '.' :: rest => fractionTail rest
  | '0' :: x :: rest =>
    let base := x.toLower
    if base = 'x' then return (false, ← radixNumber "hexadecimal" isHex rest)
    else if base = 'o' then
      return (false, ← radixNumber "octal" (fun c => '0' ≤ c && c < '8') rest)
    else if base = 'b' then
      return (false, ← radixNumber "binary" (fun c => c = '0' || c = '1') rest)
    else decimal s
  | _ => decimal s
where
  /-- Zeros lead no digits of a whole number, unless the word `else` follows at once. -/
  decimal (s : Text) : Except Cause (Bool × Text) := do
    let (ds, rest) ← decimalGroups s
    match rest with
    | '.' :: after => fractionTail after
    | _ =>
      let (whole, imaginary, after) ← numberTail true rest
      if whole then
        if ds.head? = some '0' then
          if ds.all (· = '0') || Text.beginsWith "else".toList after then
            return (imaginary, after)
          else .error .leadingZeros
        else if Text.maxDigits < ds.length then .error (.hugeNumber ds.length)
        else return (imaginary, after)
      else return (imaginary, after)

def closingFor : Char → Char
  | '(' => ')'
  | '[' => ']'
  | _ => '\x7d'

def bracket (s : Scan) (c : Char) : Except Cause Scan :=
  if c = '(' || c = '[' || c = '\x7b' then
    if maxBrackets ≤ s.brackets.length then .error .tooManyBrackets
    else .ok { s with brackets := (c, s.line) :: s.brackets }
  else if c = ')' || c = ']' || c = '\x7d' then
    match s.brackets with
    | [] => .error (.unmatched c)
    | (o, line) :: outer =>
      if closingFor o = c then .ok { s with brackets := outer }
      else .error (.mismatched c o (if line = s.line then none else some line))
  else .ok s

def finish (s : Scan) : Scanned :=
  match s.brackets with
  | (b, line) :: _ => ⟨s.tokens.reverse, some (⟨.neverClosed b, line⟩, false)⟩
  | [] =>
    let s := s.levels.foldl (fun s _ => s.emit .dedent) s
    ⟨(s.emit .endOfInput).tokens.reverse, none⟩

def token (s : Scan) (rest : Text) : Except Scanned (Scan × Text) :=
  match rest with
  | [] => .ok (s, [])
  | c :: after =>
    let quoted (m : Marks) (letters text : Text) : Except Scanned (Scan × Text) :=
      match literal m text with
      | .ok (lit, spelled, behind) => .ok (s.take (.string lit) (letters ++ spelled), behind)
      | .error triple =>
        let last := if triple then s.line + lastLineOf text - 1 else s.line
        .error (s.stop (.unterminatedString triple last) true)
    if isNameStart c then
      match literalMarks? ⟨false, false, false, false⟩ rest with
      | some (m, letters, text) => quoted m letters text
      | none =>
        let word := rest.takeWhile isNameChar
        let behind := rest.drop word.length
        if word.all Text.isAscii then
          if keywords.contains (Text.string word) then
            .ok (s.take (.keyword (Text.string word)) word, behind)
          else .ok (s.take (.name word true) word, behind)
        else match badNameChar? word with
          | some bad =>
            .error (s.stop
              (if Text.isPrintable bad then .badCharacter bad else .hiddenCharacter bad) true)
          | none =>
            let normal := Text.compatible word
            .ok (s.take (.name normal (normal = word)) word, behind)
    else if c = '\'' || c = '"' then quoted ⟨false, false, false, false⟩ [] rest
    else if c.isDigit || (c = '.' && (after.head?.map Char.isDigit).getD false) then
      match number rest with
      | .ok (imaginary, behind) =>
        .ok (s.take (.number imaginary) (rest.take (rest.length - behind.length)), behind)
      | .error cause => .error (s.stop cause true)
    else match s.bracket c with
      | .error cause => .error (s.stop cause true)
      | .ok s' =>
        if !Text.isPrintable c then .error (s.stop (.hiddenCharacter c) true)
        else match operators.find? fun o => Text.beginsWith o.toList rest with
          | some o =>
            .ok ({ s.take (.operator o) o.toList with brackets := s'.brackets },
              rest.drop o.length)
          | none => .ok (s.take (.operator (String.singleton c)) [c], after)

/-- The tokens of a text that ends with a line end. `fresh` holds at the start of a line. Each
step uses up a character, but for the change to the inside of a line, so twice the length of
the text is enough fuel. -/
def run : (fuel : Nat) → (fresh : Bool) → Scan → Text → Scanned
  | 0, _, s, _ => s.stop .malformed false
  | fuel + 1, true, s, text =>
    match margin text.length ⟨0, 0, 0, s.place⟩ text with
    | .error cause => s.stop cause false
    | .ok (m, rest) =>
      let s := { s with place := m.place }
      match rest with
      | [] => s.finish
      | '\n' :: after => run fuel true (s.past ['\n']) after
      | '#' :: after =>
        let comment := after.takeWhile (· ≠ '\n')
        let behind := after.dropWhile (· ≠ '\n')
        run fuel true (s.past ('#' :: (comment ++ behind.take 1))) (behind.drop 1)
      | _ =>
        if s.brackets.isEmpty then
          let column := if m.joined = 0 then m.column else m.joined
          let narrow := if m.joined = 0 then m.narrow else m.joined
          match s.align column narrow with
          | .error cause => s.stop cause false
          | .ok s => run fuel false s rest
        else run fuel false s rest
  | fuel + 1, false, s, text =>
    match text with
    | [] => s.finish
    | ' ' :: rest => run fuel false (s.past [' ']) rest
    | '\t' :: rest => run fuel false (s.past ['\t']) rest
    | '\x0c' :: rest => run fuel false (s.past ['\x0c']) rest
    | '#' :: rest =>
      run fuel false (s.past ('#' :: rest.takeWhile (· ≠ '\n'))) (rest.dropWhile (· ≠ '\n'))
    | '\n' :: rest =>
      let s := if s.brackets.isEmpty then s.emit .newline else s
      run fuel true (s.past ['\n']) rest
    | ['\\'] => s.stop .badContinuation false
    | '\\' :: c :: rest =>
      if c ≠ '\n' then s.stop .badContinuation false
      else if rest.isEmpty then s.stop .unexpectedEnd false
      else run fuel false (s.past ['\\', '\n']) rest
    | _ =>
      match s.token text with
      | .error scanned => scanned
      | .ok (s, rest) => run fuel false s rest

end Scan

def closedLines : (last : Char) → Text → Text
  | last, [] => if last = '\n' then [] else ['\n']
  | _, '\r' :: '\n' :: rest => '\n' :: closedLines '\n' rest
  | _, '\r' :: rest => '\n' :: closedLines '\n' rest
  | _, c :: rest => c :: closedLines c rest

def scan (source : Text) : Scanned :=
  let text := closedLines ' ' source
  Scan.run (2 * text.length + 2) true .initial text

end ModuleGraph.Program
