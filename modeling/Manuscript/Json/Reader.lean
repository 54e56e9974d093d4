import Manuscript.Data
import Manuscript.Text.Numeral

/-!
# Reading JSON

Plain data from JSON text. The reader follows the grammar of the format:
blanks between tokens are spaces, tabs and line ends, numerals have no leading
zeros, texts hold no raw control characters, and two escaped surrogates in a
row stand for one character. A surrogate that stands alone is refused. The
fields of a record keep their order, and repeated names are kept too.

Every function takes what it reads from the front of the text and returns the
rest. Nesting is bounded by the length of the text, which serves as the number
of steps the reader may take.

## Main definitions

* `Json.readText`: A text up to its closing quote.
* `Json.readNumeral`: A numeral.
* `Json.read?`: The plain data a whole text holds.
-/

namespace Manuscript

namespace Json

/-- Whether the character may stand between tokens. -/
def isGap (c : Char) : Bool := c = ' ' || c = '\t' || c = '\n' || c = '\r'

/-- The text without the gap at its front. -/
def skipGap (cs : List Char) : List Char := cs.dropWhile isGap

/-- The code unit of four hexadecimal digits. -/
def codeUnit? (a b c d : Char) : Option Nat := Numeral.read? 16 [a, b, c, d]

/-- The character of a letter escape. -/
def letterEscape? : Char → Option Char
  | '"' => some '"'
  | '\\' => some '\\'
  | '/' => some '/'
  | 'b' => some '\x08'
  | 'f' => some '\x0c'
  | 'n' => some '\n'
  | 'r' => some '\r'
  | 't' => some '\t'
  | _ => none

/-- The character of two surrogates. -/
def ofSurrogates (high low : Nat) : Char :=
  Char.ofNat (0x10000 + (high - 0xd800) * 0x400 + (low - 0xdc00))

/-- Reads a text up to its closing quote. What is read already is held last character first. -/
def readText (out : List Char) : List Char → Option (String × List Char)
  | '"' :: cs => some (String.ofList out.reverse, cs)
  | '\\' :: 'u' :: a :: b :: c :: d :: cs =>
    match codeUnit? a b c d with
    | none => none
    | some m =>
      if m < 0xd800 ∨ 0xe000 ≤ m then readText (Char.ofNat m :: out) cs
      else
        match cs with
        | '\\' :: 'u' :: e :: f :: g :: h :: rest =>
          match codeUnit? e f g h with
          | none => none
          | some n =>
            if m < 0xdc00 ∧ 0xdc00 ≤ n ∧ n < 0xe000 then readText (ofSurrogates m n :: out) rest
            else none
        | _ => none
  | '\\' :: c :: cs =>
    match letterEscape? c with
    | some e => readText (e :: out) cs
    | none => none
  | c :: cs => if c = '\\' ∨ c.toNat < 32 then none else readText (c :: out) cs
  | [] => none

/-- The digits at the front and the rest. -/
def spanDigits (cs : List Char) : List Char × List Char := cs.span Char.isDigit

/-- The whole part of a numeral: zero, or digits that do not start with zero. -/
def readWhole : List Char → Option (List Char × List Char)
  | '0' :: cs => some (['0'], cs)
  | cs =>
    match spanDigits cs with
    | ([], _) => none
    | found => some found

/-- The fraction of a numeral, if there is one. -/
def readFraction : List Char → Option (List Char × List Char)
  | '.' :: cs =>
    match spanDigits cs with
    | ([], _) => none
    | (digits, rest) => some ('.' :: digits, rest)
  | cs => some ([], cs)

/-- The digits of an exponent after its mark and sign. -/
def readExponentDigits (mark : List Char) (cs : List Char) : Option (List Char × List Char) :=
  match spanDigits cs with
  | ([], _) => none
  | (digits, rest) => some (mark ++ digits, rest)

/-- The exponent of a numeral, if there is one. -/
def readExponent : List Char → Option (List Char × List Char)
  | c :: s :: cs =>
    if c = 'e' ∨ c = 'E' then
      if s = '+' ∨ s = '-' then readExponentDigits [c, s] cs else readExponentDigits [c] (s :: cs)
    else some ([], c :: s :: cs)
  | [c] => if c = 'e' ∨ c = 'E' then none else some ([], [c])
  | [] => some ([], [])

/-- Reads a numeral. -/
def readNumeral (cs : List Char) : Option (String × List Char) := do
  let (sign, cs) := match cs with
    | '-' :: rest => (['-'], rest)
    | rest => ([], rest)
  let (whole, cs) ← readWhole cs
  let (fraction, cs) ← readFraction cs
  let (exponent, cs) ← readExponent cs
  return (String.ofList (sign ++ whole ++ fraction ++ exponent), cs)

/-- Reads a word that stands for a value. -/
def readWord (cs : List Char) : Option (Data × List Char) :=
  match cs with
  | 'n' :: 'u' :: 'l' :: 'l' :: rest => some (.null, rest)
  | 't' :: 'r' :: 'u' :: 'e' :: rest => some (.flag true, rest)
  | 'f' :: 'a' :: 'l' :: 's' :: 'e' :: rest => some (.flag false, rest)
  | cs => (readNumeral cs).map fun (numeral, rest) => (.number numeral, rest)

mutual

/-- Reads a value in at most so many steps. -/
def readValue : Nat → List Char → Option (Data × List Char)
  | 0, _ => none
  | steps + 1, cs =>
    match skipGap cs with
    | '"' :: rest => (readText [] rest).map fun (s, rest) => (.text s, rest)
    | '[' :: rest =>
      match skipGap rest with
      | ']' :: rest => some (.list [], rest)
      | rest => readItems steps [] rest
    | '{' :: rest =>
      match skipGap rest with
      | '}' :: rest => some (.record [], rest)
      | rest => readFields steps [] rest
    | rest => readWord rest

/-- Reads the items of a list up to its end. Those read already are held last first. -/
def readItems : Nat → List Data → List Char → Option (Data × List Char)
  | 0, _, _ => none
  | steps + 1, out, cs =>
    match readValue steps cs with
    | none => none
    | some (item, rest) =>
      match skipGap rest with
      | ',' :: rest => readItems steps (item :: out) rest
      | ']' :: rest => some (.list (item :: out).reverse, rest)
      | _ => none

/-- Reads the fields of a record up to its end. Those read already are held last first. -/
def readFields : Nat → List (String × Data) → List Char → Option (Data × List Char)
  | 0, _, _ => none
  | steps + 1, out, cs =>
    match skipGap cs with
    | '"' :: rest =>
      match readText [] rest with
      | none => none
      | some (name, rest) =>
        match skipGap rest with
        | ':' :: rest =>
          match readValue steps rest with
          | none => none
          | some (value, rest) =>
            match skipGap rest with
            | ',' :: rest => readFields steps ((name, value) :: out) rest
            | '}' :: rest => some (.record ((name, value) :: out).reverse, rest)
            | _ => none
        | _ => none
    | _ => none

end

/-- The plain data that a whole text holds, with nothing but a gap around it. -/
def read? (s : String) : Option Data :=
  let cs := s.toList
  match readValue (cs.length + 1) cs with
  | some (value, rest) => if (skipGap rest).isEmpty then some value else none
  | none => none

end Json

end Manuscript
