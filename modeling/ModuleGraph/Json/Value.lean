import ModuleGraph.Text.Basic
import ModuleGraph.Decimal.Shortest
import ModuleGraph.Table

/-! Values of a JSON document. Whole numbers and fractions are told apart, whole numbers are
unbounded, and the members of an object keep their order, one member for each name. -/

namespace ModuleGraph.Json

inductive Value where
  | null
  | bool (b : Bool)
  | int (n : Int)
  | float (x : Float)
  | str (s : Text)
  | arr (items : List Value)
  | obj (members : List (Text × Value))
  deriving Inhabited

abbrev Object := Table Text Value

namespace Value

def isTruthy : Value → Bool
  | null => false
  | bool b => b
  | int n => n != 0
  | float x => x != 0.0
  | str s => !s.isEmpty
  | arr items => !items.isEmpty
  | obj members => !members.isEmpty

def kindName : Value → String
  | null => "NoneType"
  | bool _ => "bool"
  | int _ => "int"
  | float _ => "float"
  | str _ => "str"
  | arr _ => "list"
  | obj _ => "dict"

end Value

/-- A fraction is written positionally from `10⁻⁴` up to `10¹⁶` and always shows that it is
one; other sizes have an exponent with a sign and two digits or more. -/
def floatText (x : Float) : String :=
  if x.isNaN then "nan"
  else
    let sign := if Decimal.isNegative x then "-" else ""
    if x.isInf then sign ++ "inf"
    else if x == 0.0 then sign ++ "0.0"
    else
      let d := (Decimal.Binary.ofFloat x).shortest
      let all := Nat.toDigits 10 d.value
      let digits := Text.dropTail (· = '0') all
      let zeros (n : Nat) : Text := List.replicate n '0'
      let body : Text :=
        if -3 ≤ d.place ∧ d.place ≤ 16 then
          if d.place ≤ 0 then '0' :: '.' :: (zeros (-d.place).toNat ++ digits)
          else
            let whole := d.place.toNat
            if digits.length ≤ whole then digits ++ zeros (whole - digits.length) ++ ['.', '0']
            else digits.take whole ++ '.' :: digits.drop whole
        else
          let e := d.place - 1
          let size := Nat.toDigits 10 e.natAbs
          let shown := zeros (2 - size.length) ++ size
          let mantissa := match digits with
            | [] => []
            | [c] => [c]
            | c :: more => c :: '.' :: more
          mantissa ++ 'e' :: (if e < 0 then '-' else '+') :: shown
      sign ++ body.string

def Value.label : Value → Text
  | .null => "None".toList
  | .bool b => (if b then "True" else "False").toList
  | .int n => (toString n).toList
  | .float x => (floatText x).toList
  | .str s => s
  | .arr _ | .obj _ => []

end ModuleGraph.Json
