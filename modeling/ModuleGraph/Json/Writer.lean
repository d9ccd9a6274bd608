import ModuleGraph.Json.Value

/-! Writing JSON documents: on one line, or with one member or element per line. Control
characters, the quote and the backslash are escaped, all other characters stand as they are. -/

namespace ModuleGraph.Json

def hexDigits (width n : Nat) : Text :=
  let ds := Nat.toDigits 16 n
  List.replicate (width - ds.length) '0' ++ ds

def escapeChar (c : Char) : Text :=
  if c = '"' then ['\\', '"']
  else if c = '\\' then ['\\', '\\']
  else if c = '\n' then ['\\', 'n']
  else if c = '\r' then ['\\', 'r']
  else if c = '\t' then ['\\', 't']
  else if c = '\x0c' then ['\\', 'f']
  else if c = '\x08' then ['\\', 'b']
  else if c.toNat < 0x20 then '\\' :: 'u' :: hexDigits 4 c.toNat
  else [c]

def quoted (s : Text) : Text := '"' :: (s.flatMap escapeChar ++ ['"'])

def floatWord (x : Float) : String :=
  if x.isNaN then "NaN"
  else if x.isInf then if x < 0.0 then "-Infinity" else "Infinity"
  else floatText x

def scalarText : Value → Text
  | .null => "null".toList
  | .bool true => "true".toList
  | .bool false => "false".toList
  | .int n => (toString n).toList
  | .float x => (floatWord x).toList
  | .str s => quoted s
  | .arr _ => "[]".toList
  | .obj _ => "\x7b\x7d".toList

/-- How neighbours are set apart: what stands after the opening bracket of a level, between
its items, and before its closing bracket. -/
structure Layout where
  opening : Nat → Text
  between : Nat → Text
  closing : Nat → Text
  colon : Text

def oneLine : Layout where
  opening _ := []
  between _ := [',']
  closing _ := []
  colon := [':']

def indented : Layout where
  opening depth := '\n' :: List.replicate (2 * (depth + 1)) ' '
  between depth := ',' :: '\n' :: List.replicate (2 * (depth + 1)) ' '
  closing depth := '\n' :: List.replicate (2 * depth) ' '
  colon := [':', ' ']

mutual

def write (l : Layout) (depth : Nat) : Value → Text
  | .arr (v :: rest) =>
    '[' :: l.opening depth ++ write l (depth + 1) v ++ writeItems l depth rest
      ++ l.closing depth ++ [']']
  | .obj ((k, v) :: rest) =>
    '\x7b' :: l.opening depth ++ quoted k ++ l.colon ++ write l (depth + 1) v
      ++ writeMembers l depth rest ++ l.closing depth ++ ['\x7d']
  | v => scalarText v

def writeItems (l : Layout) (depth : Nat) : List Value → Text
  | [] => []
  | v :: rest => l.between depth ++ write l (depth + 1) v ++ writeItems l depth rest

def writeMembers (l : Layout) (depth : Nat) : List (Text × Value) → Text
  | [] => []
  | (k, v) :: rest =>
    l.between depth ++ quoted k ++ l.colon ++ write l (depth + 1) v ++ writeMembers l depth rest

end

end ModuleGraph.Json
