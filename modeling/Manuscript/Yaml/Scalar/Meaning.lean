import Manuscript.Decimal.Binary64

/-!
# Meanings of Plain Scalars

What a scalar without quotes means. Its text decides: it is the null value, a
truth value, a whole number, a decimal number, or just text. The forms are
tried in this order.

Whole numbers are decimal, or hexadecimal, octal or binary after `0x`, `0o` or
`0b`. A decimal number does not start with a zero unless it is zero; digits
after a leading zero are text, not a number of any kind. Whole numbers come in
two widths. One that fits in neither is read as a decimal number, if it is in
decimal.

## Main definitions

* `Yaml.Meaning`: What a plain scalar means.
* `Yaml.meaning`: The meaning of a text.
-/

namespace Manuscript

namespace Yaml

/-- What a plain scalar means. -/
inductive Meaning where
  | null
  | flag (value : Bool)
  /-- A number without a minus sign that fits in 64 bits. -/
  | natural (value : Nat)
  /-- A number with a minus sign that fits in 64 bits with its sign; its magnitude. -/
  | negative (magnitude : Nat)
  /-- A number without a minus sign that fits in 128 bits. -/
  | wideNatural (value : Nat)
  /-- A number with a minus sign that fits in 128 bits with its sign; its magnitude. -/
  | wideNegative (magnitude : Nat)
  | decimal (value : Binary64)
  | infinity (isNegative : Bool)
  | notANumber
  | text
deriving DecidableEq, Repr

/-- Whether a plain scalar is a word for the null value. -/
def isNullWord (s : String) : Bool := s = "null" || s = "Null" || s = "NULL" || s = "~"

/-- The truth value of a word. -/
def readFlag? (s : String) : Option Bool :=
  if s = "true" ∨ s = "True" ∨ s = "TRUE" then some true
  else if s = "false" ∨ s = "False" ∨ s = "FALSE" then some false
  else none

/-- Whether the text is a zero and further digits, after a sign or none. -/
def isPaddedNumeral (cs : List Char) : Bool :=
  let digits := match cs with
    | '-' :: rest => rest
    | '+' :: rest => rest
    | rest => rest
  match digits with
  | '0' :: d :: rest => (d :: rest).all Char.isDigit
  | _ => false

/-- The value of a numeral that says its radix itself, or of a decimal one. -/
def readMagnitude? : List Char → Option Nat
  | '0' :: 'x' :: cs => Numeral.read? 16 cs
  | '0' :: 'o' :: cs => Numeral.read? 8 cs
  | '0' :: 'b' :: cs => Numeral.read? 2 cs
  | cs => if isPaddedNumeral cs then none else Numeral.read? 10 cs

/-- The whole number of a text, in the narrower width that holds it. -/
def readWhole? : List Char → Option Meaning
  | '-' :: cs => do
    let n ← readMagnitude? cs
    if n ≤ Nat.pow 2 63 then return .negative n
    else if n ≤ Nat.pow 2 127 then return .wideNegative n
    else none
  | cs => do
    let n ← readMagnitude? (if cs.head? = some '+' then cs.tail else cs)
    if n < Nat.pow 2 64 then return .natural n
    else if n < Nat.pow 2 128 then return .wideNatural n
    else none

/-- Whether the word, after its sign and point, stands for infinity. -/
def isInfinityWord (cs : List Char) : Bool :=
  cs = ".inf".toList || cs = ".Inf".toList || cs = ".INF".toList

/-- The decimal number of a text. -/
def readDecimal? (cs : List Char) : Option Meaning :=
  let unsigned := if cs.head? = some '+' then cs.tail else cs
  if cs.head? = some '+' ∧ (unsigned.head? = some '+' ∨ unsigned.head? = some '-') then none
  else if isInfinityWord unsigned then some (.infinity false)
  else if cs.head? = some '-' ∧ isInfinityWord cs.tail then some (.infinity true)
  else if cs = ".nan".toList ∨ cs = ".NaN".toList ∨ cs = ".NAN".toList then some .notANumber
  else (Binary64.read? cs).map .decimal

/-- The meaning of the text of a plain scalar. -/
def meaning (s : String) : Meaning :=
  if s.isEmpty || isNullWord s then .null
  else
    match readFlag? s with
    | some b => .flag b
    | none =>
      let cs := s.toList
      match readWhole? cs with
      | some n => n
      | none =>
        if isPaddedNumeral cs then .text else (readDecimal? cs).getD .text

end Yaml

end Manuscript
