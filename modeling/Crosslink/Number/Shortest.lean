import Crosslink.Number.Binary64

/-!
# Shortest decimal form

The fewest significant digits that read back as the same value, and of those the
nearest to it. For one to seventeen digits the two decimal neighbours of the value on
that grid are tried; seventeen digits always suffice.
-/

namespace Crosslink.Number

/-- The number `0.d₁d₂… · 10 ^ point`, where `digits` is `d₁d₂…` read as a whole number. -/
structure Significand where
  digits : Nat
  point : Int
  deriving DecidableEq, Repr

/-- The position of the decimal point before the first significant digit of `n / d`. -/
def pointOf (n d : Nat) : Int := (Nat.toDigits 10 (n * Nat.pow 10 400 / d)).length - (400 : Int)

/-- The better neighbour of `n / d` among the decimals with `count` digits that read
back as `x`, as a multiple of the grid unit. -/
def neighbour? (x : Binary64) (n d : Nat) (point : Int) (count : Nat) : Option Nat :=
  let unit : Int := point - count
  let a := n * Nat.pow 10 (-unit).toNat
  let b := d * Nat.pow 10 unit.toNat
  let low := a / b
  let rest := a % b
  let lowReads := Binary64.ofDecimal false low unit == x
  let highReads := Binary64.ofDecimal false (low + 1) unit == x
  if lowReads && highReads then
    some (if 2 * rest < b then low else if b < 2 * rest then low + 1 else low + low % 2)
  else if lowReads then some low
  else if highReads then some (low + 1)
  else none

/-- The first grid with a neighbour that reads back, looking at `count` digits and more. -/
def searchDigits (x : Binary64) (n d : Nat) (point : Int) : (fuel count : Nat) → Significand
  | 0, count => ⟨n * Nat.pow 10 (count - point).toNat / (d * Nat.pow 10 (point - count).toNat), point⟩
  | fuel + 1, count =>
    match neighbour? x n d point count with
    | some c => if c = Nat.pow 10 count then ⟨1, point + 1⟩ else ⟨c, point⟩
    | none => searchDigits x n d point fuel (count + 1)

/-- The shortest significand of a positive finite value. -/
def shortest (mantissa : Nat) (exponent : Int) : Significand :=
  let (n, d) := Binary64.ratio mantissa exponent
  searchDigits (.finite false mantissa exponent) n d (pointOf n d) 17 1

/-- Lay out digits: positional with at least one place while the point lies within four
zeros before and sixteen digits after the first digit, else scientific with a signed
exponent of at least two digits. -/
def Significand.layout (s : Significand) : String :=
  let ds := Nat.toDigits 10 s.digits
  let count : Int := ds.length
  if -4 < s.point ∧ s.point ≤ 16 then
    if s.point ≤ 0 then
      "0." ++ String.ofList (List.replicate (-s.point).toNat '0' ++ ds)
    else if s.point < count then
      String.ofList (ds.take s.point.toNat ++ '.' :: ds.drop s.point.toNat)
    else String.ofList (ds ++ List.replicate (s.point - count).toNat '0') ++ ".0"
  else
    let power := s.point - 1
    let written := Nat.toDigits 10 power.natAbs
    let lead := match ds with
      | [] => []
      | [d] => [d]
      | d :: rest => d :: '.' :: rest
    String.ofList (lead ++ 'e' :: (if power < 0 then '-' else '+')
      :: (List.replicate (2 - written.length) '0' ++ written))

/-- The text of a value: signed, shortest digits, with words for what is not finite. -/
def Binary64.text : Binary64 → String
  | .nan => "nan"
  | .infinite s => if s then "-inf" else "inf"
  | .finite s m e =>
    let body := if m = 0 then "0.0" else (shortest m e).layout
    if s then "-" ++ body else body

end Crosslink.Number
