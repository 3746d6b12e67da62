/-!
# Shortest decimals

A finite double is `significand · 2 ^ exponent`. Its shortest decimal has the fewest digits among
those that read back as the same double, and of these it is the nearest.
-/

namespace SqlTables.Text

/-- A positive double, together with the distances to the ends of the interval of numbers that
round to it. All of them are multiples of the unit `2 ^ exponent`. -/
structure Rounding where
  middle : Nat
  below : Nat
  above : Nat
  exponent : Int
  /-- Whether the ends of the interval round to the double, too. -/
  closed : Bool

namespace Rounding

def ofBits (bits : Nat) : Rounding :=
  let biased : Nat := bits / Nat.pow 2 52
  let fraction := bits % Nat.pow 2 52
  let significand := if biased = 0 then fraction else fraction + Nat.pow 2 52
  let exponent : Int := (if biased = 0 then 1 else Int.ofNat biased) - 1075
  { middle := 4 * significand
    below := if fraction = 0 ∧ 1 < biased then 1 else 2
    above := 2
    exponent := exponent - 2
    closed := significand % 2 = 0 }

def scaled (rounding : Rounding) (multiple : Nat) (power : Int) : Nat × Nat :=
  let twos := rounding.exponent
  (multiple * Nat.pow 2 twos.toNat * Nat.pow 10 power.toNat,
    Nat.pow 2 (-twos).toNat * Nat.pow 10 (-power).toNat)

def holds (rounding : Rounding) (digits : Nat) (power : Int) : Bool :=
  let (low, unit) := rounding.scaled (rounding.middle - rounding.below) power
  let (high, _) := rounding.scaled (rounding.middle + rounding.above) power
  let candidate := digits * unit
  if rounding.closed then low ≤ candidate && candidate ≤ high
  else low < candidate && candidate < high

/-- The nearest of the neighbours of the double among the multiples of `10 ^ -power` that lie in
its interval. -/
def nearest? (rounding : Rounding) (power : Int) : Option Nat :=
  let (value, unit) := rounding.scaled rounding.middle power
  let digits := value / unit
  match rounding.holds digits power, rounding.holds (digits + 1) power with
  | true, true =>
    let rest := 2 * (value % unit)
    some (if rest < unit then digits else if unit < rest then digits + 1
      else if digits % 2 = 0 then digits else digits + 1)
  | true, false => some digits
  | false, true => some (digits + 1)
  | false, false => none

/-- The largest power of ten that is at most the double, found by going up from a start. -/
def magnitudeFrom (rounding : Rounding) : Nat → Int → Int
  | 0, power => power
  | fuel + 1, power =>
    let (value, unit) := rounding.scaled rounding.middle (-(power + 1))
    if unit ≤ value then magnitudeFrom rounding fuel (power + 1) else power

/-- Try numbers of digits one after the other; gives the digits and the power of ten of the last
of them. -/
def search (rounding : Rounding) (magnitude : Int) : Nat → Nat → Nat × Int
  | 0, _ => (0, 0)
  | fuel + 1, count =>
    let power := magnitude - count
    match rounding.nearest? (-power) with
    | some digits => (digits, power)
    | none => search rounding magnitude fuel (count + 1)

end Rounding

/-- Drop the zeros at the end of digits, counting them into a power of ten. -/
def dropZeros : Nat → Nat → Int → Nat × Int
  | 0, digits, power => (digits, power)
  | fuel + 1, digits, power =>
    if digits ≠ 0 ∧ digits % 10 = 0 then dropZeros fuel (digits / 10) (power + 1)
    else (digits, power)

/-- The digits of the shortest decimal of a positive finite double and the power of ten of the
last of them. -/
def shortest (bits : Nat) : Nat × Int :=
  let rounding := Rounding.ofBits bits
  let magnitude := rounding.magnitudeFrom 700 (-330)
  let (digits, power) := rounding.search magnitude 18 0
  dropZeros 20 digits power

def zeros (count : Nat) : String :=
  String.ofList (List.replicate count '0')

/-- Write digits and a power of ten: with a decimal point if the point is near the digits, and
with an exponent otherwise. -/
def writeDecimal (digits : Nat) (power : Int) : String :=
  let text := toString digits
  let count := text.length
  let point := power + count
  if 0 ≤ power ∧ point ≤ 16 then
    text ++ zeros power.toNat ++ ".0"
  else if 0 < point ∧ point ≤ 16 then
    (text.take point.toNat).toString ++ "." ++ (text.drop point.toNat).toString
  else if -5 < point ∧ point ≤ 0 then
    "0." ++ zeros (-point).toNat ++ text
  else
    let fraction := if count = 1 then "" else "." ++ (text.drop 1).toString
    (text.take 1).toString ++ fraction ++ "e" ++ toString (point - 1)

def writeReal (value : Float) : String :=
  let bits := value.toBits.toNat
  let magnitude := bits % Nat.pow 2 63
  let sign := if bits = magnitude then "" else "-"
  if magnitude = 0 then sign ++ "0.0"
  else
    let (digits, power) := shortest magnitude
    sign ++ writeDecimal digits power

end SqlTables.Text
