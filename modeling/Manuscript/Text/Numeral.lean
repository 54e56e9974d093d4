/-!
# Numerals

Reading of unsigned numerals in a radix up to sixteen. A numeral is one or
more digits of the radix and nothing else: no sign, no separator, and no
digits of scripts other than the Latin one.

## Main definitions

* `Numeral.digit?`: The value of a digit.
* `Numeral.read?`: The value of a numeral.
-/

namespace Manuscript

namespace Numeral

/-- The value of a digit in radix `base`, where letters of either case stand for ten and on. -/
def digit? (base : Nat) (c : Char) : Option Nat :=
  let value :=
    if '0' ≤ c ∧ c ≤ '9' then some (c.toNat - 48)
    else if 'a' ≤ c ∧ c ≤ 'f' then some (c.toNat - 87)
    else if 'A' ≤ c ∧ c ≤ 'F' then some (c.toNat - 55)
    else none
  value.filter (· < base)

/-- Continues a numeral whose digits so far amount to `value`. -/
def readFrom (base : Nat) : Nat → List Char → Option Nat
  | value, [] => some value
  | value, c :: cs =>
    match digit? base c with
    | some d => readFrom base (value * base + d) cs
    | none => none

/-- The value of a numeral in radix `base`. -/
def read? (base : Nat) : List Char → Option Nat
  | [] => none
  | cs => readFrom base 0 cs

/-- The value of a decimal numeral that fits in a word of thirty-two bits. -/
def readWord? (cs : List Char) : Option UInt32 :=
  match read? 10 cs with
  | some n => if n < UInt32.size then some (UInt32.ofNat n) else none
  | none => none

end Numeral

end Manuscript
