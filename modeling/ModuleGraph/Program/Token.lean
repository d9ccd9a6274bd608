import ModuleGraph.Text.Compatibility

/-! Tokens of programs whose blocks are marked by indentation, and the faults for which a
program is refused. -/

namespace ModuleGraph.Program

structure Literal where
  isBytes : Bool
  isRaw : Bool
  isFormatted : Bool
  body : Text
  deriving DecidableEq, Repr

/-- The kinds of tokens. A name is `exact` if its normal form is what is written. -/
inductive Kind where
  | name (s : Text) (exact : Bool)
  | keyword (s : String)
  | number (imaginary : Bool)
  | string (literal : Literal)
  | operator (s : String)
  | newline
  | indent
  | dedent
  | endOfInput
  | broken
  deriving DecidableEq, Repr

inductive Cause where
  | nullCharacter
  | malformed
  | expectedColon
  | expectedBlock (after : String) (line : Nat)
  | unexpectedIndent
  | unexpectedUnindent
  | unexpectedEnd
  | neverClosed (bracket : Char)
  | unmatched (bracket : Char)
  | mismatched (closing opening : Char) (line : Option Nat)
  | tooManyBrackets
  | tooManyLevels
  | inconsistentTabs
  | inconsistentUnindent
  | badContinuation
  | unterminatedString (triple : Bool) (line : Nat)
  | badNumber (kind : String)
  | badDigit (digit : Char) (kind : String)
  | leadingZeros
  | hugeNumber (digits : Nat)
  | badCharacter (c : Char)
  | hiddenCharacter (c : Char)
  | mixedLiterals
  | nonAsciiBytes
  | badEscape
  | format (what : String)
  deriving DecidableEq, Repr

structure Fault where
  cause : Cause
  line : Nat
  deriving DecidableEq, Repr

def codeName (c : Char) : String :=
  let ds := (Nat.toDigits 16 c.toNat).map Char.toUpper
  String.ofList ("U+".toList ++ List.replicate (4 - ds.length) '0' ++ ds)

def Cause.message : Cause → String
  | .nullCharacter => "source code string cannot contain null bytes"
  | .malformed => "invalid syntax"
  | .expectedColon => "expected ':'"
  | .expectedBlock after line => s!"expected an indented block after {after} on line {line}"
  | .unexpectedIndent => "unexpected indent"
  | .unexpectedUnindent => "unexpected unindent"
  | .unexpectedEnd => "unexpected EOF while parsing"
  | .neverClosed b => s!"'{b}' was never closed"
  | .unmatched b => s!"unmatched '{b}'"
  | .mismatched c o none =>
    s!"closing parenthesis '{c}' does not match opening parenthesis '{o}'"
  | .mismatched c o (some line) =>
    s!"closing parenthesis '{c}' does not match opening parenthesis '{o}' on line {line}"
  | .tooManyBrackets => "too many nested parentheses"
  | .tooManyLevels => "too many levels of indentation"
  | .inconsistentTabs => "inconsistent use of tabs and spaces in indentation"
  | .inconsistentUnindent => "unindent does not match any outer indentation level"
  | .badContinuation => "unexpected character after line continuation character"
  | .unterminatedString false line => s!"unterminated string literal (detected at line {line})"
  | .unterminatedString true line =>
    s!"unterminated triple-quoted string literal (detected at line {line})"
  | .badNumber kind => s!"invalid {kind} literal"
  | .badDigit d kind => s!"invalid digit '{d}' in {kind} literal"
  | .leadingZeros =>
    "leading zeros in decimal integer literals are not permitted; "
      ++ "use an 0o prefix for octal integers"
  | .hugeNumber digits =>
    Text.tooManyDigits digits
      ++ " - Consider hexadecimal for huge integer literals to avoid decimal conversion limits."
  | .badCharacter c => s!"invalid character '{c}' ({codeName c})"
  | .hiddenCharacter c => s!"invalid non-printable character {codeName c}"
  | .mixedLiterals => "cannot mix bytes and nonbytes literals"
  | .nonAsciiBytes => "bytes can only contain ASCII literal characters"
  | .badEscape => "(unicode error) 'unicodeescape' codec can't decode bytes"
  | .format what => s!"f-string: {what}"

def Fault.message (f : Fault) (file : Text) : String :=
  match f.cause with
  | .nullCharacter => f.cause.message
  | cause => s!"{cause.message} ({file.string}, line {f.line})"

structure Place where
  line : Nat
  column : Nat
  deriving DecidableEq, Repr

namespace Place

def start : Place := ⟨1, 0⟩

def after (p : Place) (s : Text) : Place :=
  s.foldl (fun p c => if c = '\n' then ⟨p.line + 1, 0⟩ else ⟨p.line, p.column + c.utf8Size⟩) p

def le (p q : Place) : Bool := p.line < q.line || (p.line = q.line && p.column ≤ q.column)

end Place

structure Token where
  kind : Kind
  place : Place
  deriving DecidableEq, Repr

def Token.line (t : Token) : Nat := t.place.line

def keywords : List String :=
  ["False", "None", "True", "and", "as", "assert", "async", "await", "break", "class",
   "continue", "def", "del", "elif", "else", "except", "finally", "for", "from", "global", "if",
   "import", "in", "is", "lambda", "nonlocal", "not", "or", "pass", "raise", "return", "try",
   "while", "with", "yield"]

def operators : List String :=
  ["**=", "//=", "<<=", ">>=", "...", "!=", "%=", "&=", "**", "*=", "+=", "-=", "->", "//", "/=",
   ":=", "<<", "<=", "<>", "==", ">=", ">>", "@=", "^=", "|=", "(", ")", "[", "]", "\x7b",
   "\x7d", ":", ",", ";", "+", "-", "*", "/", "|", "&", "<", ">", "=", ".", "%", "~", "^", "@"]

end ModuleGraph.Program
