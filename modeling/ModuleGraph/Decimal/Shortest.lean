/-! The fewest decimal digits that read back as a given binary fraction. A value is
`mantissa * 2 ^ exponent`; every real nearer to it than half a unit of the last place reads back,
so the first decimal grid with a point in that interval gives the digits. -/

namespace ModuleGraph.Decimal

structure Binary where
  mantissa : Nat
  exponent : Int

/-- Digits `d₁ d₂ …` with the decimal point after `place` of them. -/
structure Digits where
  value : Nat
  count : Nat
  place : Int

def Binary.ofFloat (x : Float) : Binary :=
  let bits : Nat := x.toBits.toNat
  let biased : Nat := bits / Nat.pow 2 52 % Nat.pow 2 11
  let fraction : Nat := bits % Nat.pow 2 52
  if biased = 0 then ⟨fraction, -1074⟩ else ⟨fraction + Nat.pow 2 52, (biased : Int) - 1075⟩

def isNegative (x : Float) : Bool := x.toBits.toNat / Nat.pow 2 63 = 1

structure Interval where
  value : Nat
  low : Nat
  high : Nat
  denominator : Nat
  closed : Bool

/-- Below a power of two the numbers lie twice as close, except in the lowest binade. -/
def Binary.interval (b : Binary) : Interval :=
  let up := Nat.pow 2 b.exponent.toNat
  let below := if b.mantissa = Nat.pow 2 52 && b.exponent ≠ -1074 then 1 else 2
  { value := 4 * b.mantissa * up
    low := (4 * b.mantissa - below) * up
    high := (4 * b.mantissa + 2) * up
    denominator := 4 * Nat.pow 2 (-b.exponent).toNat
    closed := b.mantissa % 2 = 0 }

/-- The `k` with `10 ^ (k - 1) ≤ n / d < 10 ^ k`, for `n / d` within the range of a double. -/
def leadingPlace (n d : Nat) : Int :=
  if d ≤ n then (Nat.toDigits 10 (n / d)).length
  else -(((List.range 400).find? fun j => d ≤ n * Nat.pow 10 (j + 1)).getD 0 : Nat)

def Interval.contains (i : Interval) (c : Nat) (unit : Int) : Bool :=
  let point := c * Nat.pow 10 unit.toNat * i.denominator
  let scale := Nat.pow 10 (-unit).toNat
  if i.closed then i.low * scale ≤ point && point ≤ i.high * scale
  else i.low * scale < point && point < i.high * scale

def Interval.onGrid? (i : Interval) (unit : Int) : Option Nat :=
  let n := i.value * Nat.pow 10 (-unit).toNat
  let d := i.denominator * Nat.pow 10 unit.toNat
  let c := n / d
  match i.contains c unit, i.contains (c + 1) unit with
  | true, true =>
    let twice := 2 * (n % d)
    if twice < d then some c else if d < twice then some (c + 1)
    else if c % 2 = 0 then some c else some (c + 1)
  | true, false => some c
  | false, true => some (c + 1)
  | false, false => none

/-- Seventeen digits always read back, so the search among `1 … 17` digits succeeds. -/
def Binary.shortest (b : Binary) : Digits :=
  let i := b.interval
  let place := leadingPlace i.value i.denominator
  let found := (List.range 17).findSome? fun n =>
    (i.onGrid? (place - (n + 1 : Nat))).map fun c =>
      if c = Nat.pow 10 (n + 1) then Digits.mk 1 1 (place + 1) else ⟨c, n + 1, place⟩
  found.getD ⟨0, 1, 1⟩

end ModuleGraph.Decimal
