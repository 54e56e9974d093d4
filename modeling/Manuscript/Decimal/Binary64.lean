import Manuscript.Text.Numeral

/-!
# Binary Floating-Point Numbers

Numbers with 53 significant binary digits and an exponent of eleven bits, read
from decimal numerals and written as decimals.

Every such number is a whole multiple of two to the power of -1074, so a
number is kept as the count of these units. Reading finds the nearest number,
and of two equally near ones the one whose last binary digit is zero. Writing
looks for the fewest decimal digits that read back to the same number, and of
these for the ones nearest to it, the greater of two equally near ones, and
places the decimal point without an exponent.

All arithmetic is exact. A power of five turns units into decimal places, so
no step but the last needs a quotient.

## Main definitions

* `Binary64`: A finite number.
* `Binary64.ofDecimal?`: The number nearest to a decimal.
* `Binary64.shortest`: The fewest digits that read back.
* `Binary64.text`: A number in decimal.
* `Binary64.read?`: The number a numeral stands for.
-/

namespace Manuscript

/-- A finite binary floating-point number. -/
structure Binary64 where
  negative : Bool
  /-- How many times two to the power of -1074 the number amounts to. -/
  units : Nat
deriving DecidableEq, Repr

namespace Binary64

/-- The whole number nearest to a quotient; of two equally near ones the even one. -/
def roundDiv (num den : Nat) : Nat :=
  let whole := num / den
  let twice := 2 * (num % den)
  if twice < den then whole
  else if den < twice then whole + 1
  else whole + whole % 2

/-- The power of two, in units, to which a number of so many units is precise. -/
def precision (units : Nat) : Nat := Nat.log2 units - 52

/-- The units of the number nearest to a quotient, unless that is too great. -/
def unitsOf? (num den : Nat) : Option Nat :=
  let num := num * Nat.pow 2 1074
  let grid := Nat.pow 2 (precision (num / den))
  let units := roundDiv num (den * grid) * grid
  if units < Nat.pow 2 2098 then some units else none

/-- The number nearest to `digits` times ten to the power of `exponent`, unless that is too great.
    Decimals far outside of the range are decided by their magnitude alone. -/
def ofDecimal? (negative : Bool) (digits : Nat) (exponent : Int) : Option Binary64 :=
  let magnitude : Int := (Nat.toDigits 10 digits).length + exponent
  if digits = 0 ∨ magnitude < -330 then some ⟨negative, 0⟩
  else if 310 < magnitude then none
  else
    let units? :=
      if 0 ≤ exponent then unitsOf? (digits * Nat.pow 10 exponent.toNat) 1
      else unitsOf? digits (Nat.pow 10 (-exponent).toNat)
    units?.map fun units => ⟨negative, units⟩

/-- How many decimal places a number is written out to while its digits are chosen. -/
def places : Nat := 1076

/-- The decimals between which a number is the nearest, in the last decimal place. -/
def bounds (units : Nat) : Nat × Nat :=
  let grid := Nat.pow 2 (precision units)
  let below := if units = Nat.pow 2 52 * grid ∧ 1 < grid then grid else 2 * grid
  ((4 * units - below) * Nat.pow 5 places, (4 * units + 2 * grid) * Nat.pow 5 places)

/-- Whether a decimal reads back, where the bounds do so if the last binary digit is zero. -/
def readsBack (units : Nat) (decimal : Nat) : Bool :=
  let (low, high) := bounds units
  let even := units / Nat.pow 2 (precision units) % 2 = 0
  if even then low ≤ decimal && decimal ≤ high else low < decimal && decimal < high

/-- The nearest decimal of at least `digits` digits that reads back, looking for more digits at
    most `more` times. Of two equally near ones it is the greater. -/
def shortestFrom (units exact length : Nat) : Nat → Nat → Nat
  | _, 0 => exact
  | digits, more + 1 =>
    let step := Nat.pow 10 (length - digits)
    let below := exact / step * step
    let above := below + step
    match readsBack units below, readsBack units above with
    | true, true => if exact - below < above - exact then below else above
    | true, false => below
    | false, true => above
    | false, false => shortestFrom units exact length (digits + 1) more

/-- The decimal of fewest digits that reads back, in the last decimal place. -/
def shortest (units : Nat) : Nat :=
  if units = 0 then 0
  else
    let exact := 4 * units * Nat.pow 5 places
    shortestFrom units exact (Nat.toDigits 10 exact).length 1 17

/-- The number in decimal, with a decimal point and a digit after it. -/
def text (x : Binary64) : String :=
  let decimal := shortest x.units
  let fraction := Nat.toDigits 10 (Nat.pow 10 places + decimal % Nat.pow 10 places)
  let digits := (fraction.tail.reverse.dropWhile (· = '0')).reverse
  let sign := if x.negative then "-" else ""
  sign ++ toString (decimal / Nat.pow 10 places) ++ "." ++
    (if digits.isEmpty then "0" else String.ofList digits)

/-- The exponent of a numeral after its mark. -/
def readExponent? : List Char → Option Int
  | '-' :: cs => (Numeral.read? 10 cs).map fun n => -n
  | '+' :: cs => (Numeral.read? 10 cs).map fun n => n
  | cs => (Numeral.read? 10 cs).map fun n => n

/-- The number of a numeral that has no sign, unless that is too great. There are digits before
    or after the point, and a point or exponent may be left out. -/
def readUnsigned? (negative : Bool) (cs : List Char) : Option Binary64 := do
  let (whole, cs) := cs.span Char.isDigit
  let (fraction, cs) := match cs with
    | '.' :: rest => rest.span Char.isDigit
    | rest => ([], rest)
  let digits ← Numeral.read? 10 (whole ++ fraction)
  let exponent ← match cs with
    | [] => some 0
    | e :: rest => if e = 'e' ∨ e = 'E' then readExponent? rest else none
  ofDecimal? negative digits (exponent - fraction.length)

/-- The number a numeral stands for, unless that is too great. -/
def read? : List Char → Option Binary64
  | '-' :: cs => readUnsigned? true cs
  | '+' :: cs => readUnsigned? false cs
  | cs => readUnsigned? false cs

end Binary64

end Manuscript
