import ModuleGraph.Log.Record
import ModuleGraph.Text.Property

/-! Templates of log lines: texts with places such as `%(message)s` or `%(levelname)-8s` that a
record fills. -/

namespace ModuleGraph.Log

structure Event where
  logger : Text
  level : Level
  message : Text

structure Slot where
  name : Text
  flags : Text
  width : Nat
  precision : Option Nat
  conversion : Char
  deriving DecidableEq, Repr

inductive Piece where
  | text (s : Text)
  | slot (s : Slot)
  | broken
  deriving DecidableEq, Repr

namespace Template

def isFlag (c : Char) : Bool := c = '#' || c = '0' || c = '+' || c = ' ' || c = '-'

def conversions : Text := "diouxefgcrsa%DIOUXEFGCRSA".toList

def numberOf (digits : Text) : Nat := digits.foldl (fun n c => n * 10 + (c.toNat - 48)) 0

def slot? : Text → Option (Slot × Text)
  | '(' :: s =>
    let name := s.takeWhile (· ≠ ')')
    match s.drop name.length with
    | [] => none
    | _ :: s =>
      let flags := s.takeWhile isFlag
      let s := s.drop flags.length
      let width := s.takeWhile Char.isDigit
      let s := s.drop width.length
      let (precision, s) := match s with
        | '.' :: s =>
          let digits := s.takeWhile Char.isDigit
          (some (numberOf digits), s.drop digits.length)
        | s => (none, s)
      match s with
      | [] => none
      | c :: s => some (⟨name, flags, numberOf width, precision, c⟩, s)
  | _ => none

def hasSlot : Text → Bool
  | [] => false
  | c :: s =>
    (c = '%' && (match slot? s with
      | some (slot, _) =>
        !slot.name.isEmpty && slot.name.all Text.isWord && conversions.contains slot.conversion
      | none => false)) || hasSlot s

def pieces : (fuel : Nat) → Text → List Piece
  | 0, _ => []
  | _, [] => []
  | fuel + 1, '%' :: '%' :: s => .text ['%'] :: pieces fuel s
  | fuel + 1, '%' :: s =>
    match slot? s with
    | some (slot, rest) => .slot slot :: pieces fuel rest
    | none => [.broken]
  | fuel + 1, c :: s => .text [c] :: pieces fuel s

def placed (s : Slot) (fillZero : Bool) (shown : Text) : Text :=
  let room := s.width - shown.length
  if s.flags.contains '-' then shown ++ List.replicate room ' '
  else List.replicate room (if fillZero && s.flags.contains '0' then '0' else ' ') ++ shown

def Slot.textOf? (s : Slot) (e : Event) : Option Text :=
  if s.name = "message".toList || s.name = "msg".toList then some e.message
  else if s.name = "name".toList then some e.logger
  else if s.name = "levelname".toList then some e.level.name.toList
  else none

def fill? (s : Slot) (e : Event) : Option Text :=
  let cut (t : Text) : Text := match s.precision with
    | some n => t.take n
    | none => t
  if s.name = "levelno".toList then
    let digits := (toString e.level.weight).toList
    if s.conversion = 'd' || s.conversion = 'i' then
      let sign := if s.flags.contains '+' then ['+'] else if s.flags.contains ' ' then [' '] else []
      some (placed s true (sign ++ digits))
    else if s.conversion = 's' || s.conversion = 'r' then some (placed s false (cut digits))
    else none
  else
    (Slot.textOf? s e).bind fun t =>
      if s.conversion = 's' then some (placed s false (cut t))
      else if s.conversion = 'r' then some (placed s false (cut (Text.quoted t)))
      else none

def line? (template : Text) (e : Event) : Option Text :=
  let filled := (pieces template.length template).mapM fun p => match p with
    | .text s => some s
    | .slot s => fill? s e
    | .broken => none
  filled.map List.flatten

end Template
end ModuleGraph.Log
