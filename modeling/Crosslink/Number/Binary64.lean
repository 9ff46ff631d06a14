/-!
# Binary floating point of sixty-four bits

Finite values are a sign, a mantissa below `2 ^ 53` and an exponent from `-1074` to
`971`; the mantissa is at least `2 ^ 52` unless the exponent is least. Reading a ratio
rounds to the nearest value and to the even mantissa on a tie, in exact arithmetic.
-/

namespace Crosslink.Number

/-- A value of the sixty-four bit binary format. Zeros are signed. -/
inductive Binary64 where
  | nan
  | infinite (negative : Bool)
  | finite (negative : Bool) (mantissa : Nat) (exponent : Int)
  deriving DecidableEq, Repr

namespace Binary64

/-- The zero of a sign. -/
def zero (negative : Bool) : Binary64 := .finite negative 0 (-1074)

/-- The numerator and denominator of `n / d` divided by `2 ^ e`. -/
def scale (n d : Nat) (e : Int) : Nat × Nat := (n <<< (-e).toNat, d <<< e.toNat)

/-- Round a quotient to the nearest whole number, ties to even. -/
def roundQuotient (a b : Nat) : Nat :=
  let q := a / b
  let r := a % b
  if 2 * r < b then q else if b < 2 * r then q + 1 else q + q % 2

/-- The exponent of the mantissa that `n / d` rounds to. -/
def exponentOf (n d : Nat) : Int :=
  let guess : Int := (n.log2 : Int) - (d.log2 : Int) - 52
  let (a, b) := scale n d guess
  max (-1074) (if a / b < 1 <<< 52 then guess - 1 else guess)

/-- The value nearest to `n / d` with a sign, infinite when it is too large. -/
def ofRatio (negative : Bool) (n d : Nat) : Binary64 :=
  if n = 0 ∨ d = 0 then zero negative
  else
    let e := exponentOf n d
    let (a, b) := scale n d e
    let q := roundQuotient a b
    let (q, e) := if q = 1 <<< 53 then (1 <<< 52, e + 1) else (q, e)
    if 971 < e then .infinite negative else .finite negative q e

/-- The value nearest to `digits · 10 ^ exponent`. Exponents far outside the range are
decided without computing the power. -/
def ofDecimal (negative : Bool) (digits : Nat) (exponent : Int) : Binary64 :=
  if digits = 0 then zero negative
  else
    let magnitude : Int := (Nat.toDigits 10 digits).length + exponent
    if 400 < magnitude then .infinite negative
    else if magnitude < -400 then zero negative
    else ofRatio negative (digits * Nat.pow 10 exponent.toNat) (Nat.pow 10 (-exponent).toNat)

/-- The value nearest to a whole number. -/
def ofNat (n : Nat) : Binary64 := ofRatio false n 1

/-- The exact ratio `m · 2 ^ e` as numerator and denominator. -/
def ratio (m : Nat) (e : Int) : Nat × Nat := (m <<< e.toNat, 1 <<< (-e).toNat)

/-- The value with the other sign. -/
def negate : Binary64 → Binary64
  | .nan => .nan
  | .infinite s => .infinite (!s)
  | .finite s m e => .finite (!s) m e

/-- The rounded product. -/
def mul : Binary64 → Binary64 → Binary64
  | .nan, _ => .nan
  | _, .nan => .nan
  | .infinite s, .infinite t => .infinite (s != t)
  | .infinite s, .finite t m _ => if m = 0 then .nan else .infinite (s != t)
  | .finite s m _, .infinite t => if m = 0 then .nan else .infinite (s != t)
  | .finite s m e, .finite t n f =>
    let (a, b) := ratio (m * n) (e + f)
    ofRatio (s != t) a b

/-- A mantissa with its sign. -/
def signedMantissa (negative : Bool) (m : Nat) : Int := if negative then -(m : Int) else m

/-- The rounded sum; a sum of nothing is negative only if both parts are. -/
def add : Binary64 → Binary64 → Binary64
  | .nan, _ => .nan
  | _, .nan => .nan
  | .infinite s, .infinite t => if s == t then .infinite s else .nan
  | .infinite s, .finite _ _ _ => .infinite s
  | .finite _ _ _, .infinite t => .infinite t
  | .finite s m e, .finite t n f =>
    let least := min e f
    let total := signedMantissa s (m <<< (e - least).toNat)
      + signedMantissa t (n <<< (f - least).toNat)
    if total = 0 then zero (s && t)
    else
      let (a, b) := ratio total.natAbs least
      ofRatio (total < 0) a b

/-- A finite value that is a whole number, as that number. -/
def whole? : Binary64 → Option Int
  | .finite s m e =>
    let (a, b) := ratio m e
    if a % b = 0 then some (if s then -(a / b : Nat) else (a / b : Nat)) else none
  | _ => none

/-- Is the value a zero of either sign? -/
def isZero : Binary64 → Bool
  | .finite _ m _ => m == 0
  | _ => false

/-- Numerical equality: both zeros are equal, and every `nan` equals itself. -/
def sameNumber : Binary64 → Binary64 → Bool
  | .finite s m e, .finite t n f => (m == 0 && n == 0) || (s == t && m == n && e == f)
  | x, y => x == y

end Binary64

end Crosslink.Number
