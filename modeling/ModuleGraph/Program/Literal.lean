import ModuleGraph.Program.Token

/-! What the inside of a string literal must satisfy: its escapes are complete, a bytes literal
is ASCII, and a formatted literal splits into text and replacement fields. A field gives the text
of its expression; a format after a colon may hold fields once more, and those once more a format
without fields. -/

namespace ModuleGraph.Program.Literal

def isHexDigit (c : Char) : Bool := c.isDigit || ('a' ≤ c.toLower && c.toLower ≤ 'f')

def hexNumber (s : Text) : Nat :=
  s.foldl (fun n c => n * 16 + Text.digitValue c.toLower) 0

def hexDigits (count : Nat) (s : Text) : Bool :=
  let ds := s.take count
  ds.length = count && ds.all isHexDigit && hexNumber ds ≤ 0x10ffff

variable (isCharacterName : Text → Bool)

def isNamed (s : Text) : Bool :=
  match s with
  | '\x7b' :: rest =>
    match Text.cut? '\x7d' rest with
    | some (name, _) => !name.isEmpty && isCharacterName name
    | none => false
  | _ => false

def textEscapes : Text → Bool
  | [] => true
  | '\\' :: e :: rest =>
    (match e with
      | 'x' => hexDigits 2 rest
      | 'u' => hexDigits 4 rest
      | 'U' => hexDigits 8 rest
      | 'N' => isNamed isCharacterName rest
      | _ => true) && textEscapes rest
  | _ :: rest => textEscapes rest

def bytesEscapes : Text → Bool
  | [] => true
  | '\\' :: e :: rest => (e != 'x' || hexDigits 2 rest) && bytesEscapes rest
  | _ :: rest => bytesEscapes rest

/-- The text before a field: what it is, whether it ended with a doubled brace, and the rest.
Braces double only outside of formats, that is, on level zero. -/
def piece (raw : Bool) (level : Nat) : Text → Except Cause (Text × Bool × Text)
  | [] => .ok ([], false, [])
  | c :: rest =>
    let brace (c : Char) (rest : Text) : Except Cause (Text × Bool × Text) :=
      if level = 0 then
        if rest.head? = some c then .ok ([c], true, rest.drop 1)
        else if c = '\x7d' then .error (.format "single '\x7d' is not allowed")
        else .ok ([], false, c :: rest)
      else .ok ([], false, c :: rest)
    if c = '\\' && !raw then
      match rest with
      | 'N' :: '\x7b' :: more => do
        let (lit, doubled, rest) ← named more
        return ('\\' :: 'N' :: '\x7b' :: lit, doubled, rest)
      | e :: more =>
        if e = '\x7b' || e = '\x7d' then do
          let (lit, doubled, rest) ← brace e more
          return (c :: lit, doubled, rest)
        else do
          let (lit, doubled, rest) ← piece raw level more
          return (c :: e :: lit, doubled, rest)
      | [] => .ok ([c], false, [])
    else if c = '\x7b' || c = '\x7d' then brace c rest
    else do
      let (lit, doubled, rest) ← piece raw level rest
      return (c :: lit, doubled, rest)
where
  /-- The rest of a character name, then the text goes on. -/
  named : Text → Except Cause (Text × Bool × Text)
    | [] => .ok ([], false, [])
    | c :: rest => do
      let (lit, doubled, rest) ← if c = '\x7d' then piece raw level rest else named rest
      return (c :: lit, doubled, rest)

/-- The text of an expression up to the sign that ends it: `!`, `:`, `=` or a closing brace
outside of brackets and strings. The comparisons `!=`, `==`, `<=` and `>=` do not end it. Each
step uses up a character. -/
def expressionText : (fuel : Nat) → (brackets : List Char) → (quote : Option (Char × Bool)) →
    Text → Except Cause (Text × Text)
  | 0, _, _, _ => .error (.format "expecting '\x7d'")
  | _, _, some _, [] => .error (.format "unterminated string")
  | _, b :: _, none, [] => .error (.format s!"unmatched '{b}'")
  | _, [], none, [] => .error (.format "expecting '\x7d'")
  | fuel + 1, brackets, quote, c :: rest =>
    let keep (n : Nat) (brackets : List Char) (quote : Option (Char × Bool)) :
        Except Cause (Text × Text) := do
      let (text, after) ← expressionText fuel brackets quote (rest.drop (n - 1))
      return (c :: rest.take (n - 1) ++ text, after)
    if c = '\\' then .error (.format "expression part cannot include a backslash")
    else match quote with
      | some (q, triple) =>
        if c = q then
          if triple then
            if rest.take 2 = [q, q] then keep 3 brackets none else keep 1 brackets quote
          else keep 1 brackets none
        else keep 1 brackets quote
      | none =>
        if c = '\'' || c = '"' then
          if rest.take 2 = [c, c] then keep 3 brackets (some (c, true))
          else keep 1 brackets (some (c, false))
        else if c = '[' || c = '\x7b' || c = '(' then
          if 200 ≤ brackets.length then .error (.format "too many nested parenthesis")
          else keep 1 (c :: brackets) none
        else if c = '#' then .error (.format "expression part cannot include '#'")
        else if brackets.isEmpty && "!:\x7d=><".toList.contains c then
          if "!=<>".toList.contains c && rest.head? = some '=' then keep 2 brackets none
          else if c = '>' || c = '<' then keep 1 brackets none
          else .ok ([], c :: rest)
        else if c = ']' || c = '\x7d' || c = ')' then
          match brackets with
          | [] => .error (.format s!"unmatched '{c}'")
          | o :: outer =>
            if (o, c) = ('(', ')') || (o, c) = ('[', ']') || (o, c) = ('\x7b', '\x7d') then
              keep 1 outer none
            else .error (.mismatched c o none)
        else keep 1 brackets none

def isSpace (c : Char) : Bool := c = ' ' || ('\t' ≤ c && c ≤ '\r')

def isBlankInside (c : Char) : Bool := c = ' ' || c = '\t' || c = '\n' || c = '\x0c'

def conversion (s : Text) : Except Cause Text :=
  match s with
  | '!' :: rest =>
    let name := rest.takeWhile fun c => c ≠ '\x7d' && c ≠ ':'
    if ["s".toList, "r".toList, "a".toList].contains name then .ok (rest.drop name.length)
    else .error (.format "invalid conversion character: expected 's', 'r', or 'a'")
  | _ => .ok s

def fields (raw : Bool) : (fuel level : Nat) → Text → Except Cause (List Text × Text)
  | 0, _, _ => .error (.format "expecting '\x7d'")
  | fuel + 1, level, s => do
    let (lit, doubled, rest) ← piece raw level s
    if !raw && !textEscapes isCharacterName lit then .error .badEscape
    else if doubled then fields raw fuel level rest
    else match rest with
      | '\x7b' :: inner =>
        if 2 ≤ level then .error (.format "expressions nested too deeply")
        else do
          let (text, rest) ← expressionText (inner.length + 1) [] none inner
          if text.all isBlankInside then .error (.format "empty expression not allowed")
          else
            let rest := match rest with
              | '=' :: after => after.dropWhile isSpace
              | _ => rest
            let rest ← conversion rest
            let (nested, rest) ← match rest with
              | ':' :: spec => fields raw fuel (level + 1) spec
              | _ => pure ([], rest)
            match rest with
            | '\x7d' :: rest => do
              let (more, rest) ← fields raw fuel level rest
              return (text :: nested ++ more, rest)
            | _ => .error (.format "expecting '\x7d'")
      | _ => return ([], rest)

def expressions (l : Literal) : Except Cause (List Text) :=
  if l.isFormatted then (fields isCharacterName l.isRaw (l.body.length + 2) 0 l.body).map (·.1)
  else if l.isBytes then
    if !l.body.all Text.isAscii then .error .nonAsciiBytes
    else if !l.isRaw && !bytesEscapes l.body then .error .badEscape
    else .ok []
  else if !l.isRaw && !textEscapes isCharacterName l.body then .error .badEscape
  else .ok []

def allExpressions (ls : List Literal) : Except Cause (List Text) := do
  if ls.any (·.isBytes) && ls.any (!·.isBytes) then .error .mixedLiterals
  else
    let parts ← ls.mapM (expressions isCharacterName)
    return parts.flatten

end ModuleGraph.Program.Literal
