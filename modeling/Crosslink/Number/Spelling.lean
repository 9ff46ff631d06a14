import Crosslink.Number.Decimal
import Crosslink.Text.Blank
import Crosslink.Text.Digit

/-!
# Numbers as people spell them

A number may have blanks around it, a sign, the mark of its base and digits of any script.
Text with a character outside ASCII has its blanks and digits brought to ASCII first; then
only the blanks of ASCII may stand around the number.
-/

namespace Crosslink.Number

/-- The greatest number of decimal digits that a whole number is read from or written with. -/
def digitLimit : Nat := 4300

/-- The six blanks of ASCII that may stand around a number. -/
def isMargin (c : Char) : Bool := c == ' ' || (9 ≤ c.toNat && c.toNat ≤ 13)

/-- Remove the blanks around a number. -/
def trimMargins (cs : List Char) : List Char := Text.dropEndWhile isMargin (cs.dropWhile isMargin)

/-- A blank or a digit of any script as ASCII; nothing for other characters outside it. -/
def asciiForm? (c : Char) : Option Char :=
  if c.toNat < 127 then some c
  else if Text.isBlank c then some ' '
  else (Text.decimalDigit? c).map Nat.digitChar

/-- Blanks and digits of all scripts as ASCII; ASCII text stays as it is. -/
def toAscii? (cs : List Char) : Option (List Char) :=
  if cs.all fun c => c.toNat < 128 then some cs else cs.mapM asciiForm?

/-- The letter that may follow a zero at the front of digits of a base. -/
def baseLetter? : Nat → Option Char
  | 2 => some 'b'
  | 8 => some 'o'
  | 16 => some 'x'
  | _ => none

/-- Drop the mark of a base from the front. -/
def dropBaseMark (base : Nat) (cs : List Char) : List Char :=
  match cs with
  | '0' :: c :: rest => if baseLetter? base == some c.toLower then rest else cs
  | _ => cs

/-- Are so many digits of the base allowed? Bases whose digits are groups of bits know no
limit. -/
def allowsDigits (base count : Nat) : Bool := (baseLetter? base).isSome || count ≤ digitLimit

/-- The whole number that text spells in a base. -/
def readWhole? (base : Nat) (cs : List Char) : Option Int := do
  let (negative, body) := splitSign (trimMargins (← toAscii? cs))
  let digits := dropBaseMark base body
  if allowsDigits base digits.length then
    let n ← natOfDigits? base digits
    return if negative then -(n : Int) else n
  else none

/-- The floating-point value that text spells. -/
def readReal? (cs : List Char) : Option Binary64 := do
  readBinary64? (trimMargins (← toAscii? cs))

end Crosslink.Number
