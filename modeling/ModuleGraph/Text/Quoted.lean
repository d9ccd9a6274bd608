import ModuleGraph.Text.Property

/-! Quoted texts in messages. The quote is the apostrophe unless the text holds apostrophes and
no double quotes; characters that do not show are written by their code points. -/

namespace ModuleGraph.Text

def hex (width : Nat) (c : Char) : Text :=
  let ds := Nat.toDigits 16 c.toNat
  List.replicate (width - ds.length) '0' ++ ds

def quotedChar (quote c : Char) : Text :=
  if c = quote || c = '\\' then ['\\', c]
  else if c = '\t' then ['\\', 't']
  else if c = '\n' then ['\\', 'n']
  else if c = '\r' then ['\\', 'r']
  else if isPrintable c then [c]
  else if c.toNat ≤ 0xff then '\\' :: 'x' :: hex 2 c
  else if c.toNat ≤ 0xffff then '\\' :: 'u' :: hex 4 c
  else '\\' :: 'U' :: hex 8 c

def quoteFor (s : Text) : Char :=
  if s.contains '\'' && !s.contains '"' then '"' else '\''

def quoted (s : Text) : Text :=
  let q := quoteFor s
  q :: (s.flatMap (quotedChar q) ++ [q])

def quotedList (items : List Text) : Text :=
  '[' :: (joined [',', ' '] (items.map quoted) ++ [']'])

end ModuleGraph.Text
