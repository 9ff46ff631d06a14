import Crosslink.Number.Binary64

/-!
# Reading numbers

Decimal digits with an optional fraction and exponent are read exactly and rounded
once. Whole numbers are read in any base up to sixteen.
-/

namespace Crosslink.Number

/-- The value of a digit in a base, if it is one. -/
def digit? (base : Nat) (c : Char) : Option Nat :=
  let n := c.toNat
  let value :=
    if '0'.toNat ≤ n && n ≤ '9'.toNat then n - '0'.toNat
    else if 'a'.toNat ≤ n && n ≤ 'f'.toNat then n - 'a'.toNat + 10
    else if 'A'.toNat ≤ n && n ≤ 'F'.toNat then n - 'A'.toNat + 10
    else base
  if value < base then some value else none

/-- The value of digits appended to `acc`, or nothing if one is no digit of the base. -/
def digitsFrom (base acc : Nat) : List Char → Option Nat
  | [] => some acc
  | c :: cs => (digit? base c).bind fun d => digitsFrom base (acc * base + d) cs

/-- The value of a non-empty run of digits. -/
def natOfDigits? (base : Nat) (cs : List Char) : Option Nat :=
  if cs.isEmpty then none else digitsFrom base 0 cs

/-- Is the character one of the ten digits? -/
def isDigit (c : Char) : Bool := '0' ≤ c && c ≤ '9'

/-- A sign at the front: is it a minus, and what follows. -/
def splitSign : List Char → Bool × List Char
  | '-' :: cs => (true, cs)
  | '+' :: cs => (false, cs)
  | cs => (false, cs)

/-- A signed whole number in base ten, nothing else. -/
def intOfDigits? (cs : List Char) : Option Int :=
  let (negative, cs) := splitSign cs
  (natOfDigits? 10 cs).map fun n => if negative then -(n : Int) else n

/-- Digits, fraction and exponent of a decimal numeral. -/
structure Numeral where
  negative : Bool
  digits : Nat
  exponent : Int
  deriving DecidableEq, Repr

/-- Read `digits [. digits] [e exponent]`, with digits on at least one side of the point. -/
def readNumeral? (cs : List Char) : Option Numeral := do
  let (negative, cs) := splitSign cs
  let whole := cs.takeWhile isDigit
  let cs := cs.dropWhile isDigit
  let (fraction, cs) := match cs with
    | '.' :: cs => (cs.takeWhile isDigit, cs.dropWhile isDigit)
    | _ => ([], cs)
  let digits ← natOfDigits? 10 (whole ++ fraction)
  let power ← match cs with
    | [] => some 0
    | e :: cs => if e == 'e' || e == 'E' then intOfDigits? cs else none
  return ⟨negative, digits, power - fraction.length⟩

/-- The value nearest to a numeral. -/
def Numeral.toBinary64 (n : Numeral) : Binary64 := Binary64.ofDecimal n.negative n.digits n.exponent

/-- ASCII letters in lower case, every other character as it is. -/
def lowerAscii (cs : List Char) : List Char := cs.map Char.toLower

/-- Read a numeral or one of the words for infinity and for no number. -/
def readBinary64? (cs : List Char) : Option Binary64 :=
  match readNumeral? cs with
  | some n => some n.toBinary64
  | none =>
    let (negative, word) := splitSign (lowerAscii cs)
    if word == "inf".toList || word == "infinity".toList then some (.infinite negative)
    else if word == "nan".toList then some .nan
    else none

end Crosslink.Number
