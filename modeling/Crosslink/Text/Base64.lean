/-!
# Base 64

Reading of bytes written four characters for three bytes. Characters outside the alphabet
are skipped; the text ends at the padding that completes a group of four.
-/

namespace Crosslink.Text.Base64

/-- The six bits of a character of the alphabet. -/
def sextet? (c : Char) : Option Nat :=
  let n := c.toNat
  if 'A' ≤ c && c ≤ 'Z' then some (n - 'A'.toNat)
  else if 'a' ≤ c && c ≤ 'z' then some (n - 'a'.toNat + 26)
  else if '0' ≤ c && c ≤ '9' then some (n - '0'.toNat + 52)
  else if c == '+' then some 62
  else if c == '/' then some 63
  else none

/-- Read on with `place` characters of the current group and their open bits in `carry`,
after `pads` padding characters. A group that is not complete at the end is an error. -/
def decodeFrom : (place carry pads : Nat) → List Char → Option (List UInt8)
  | place, _, _, [] => if place = 0 then some [] else none
  | place, carry, pads, c :: cs =>
    if c == '=' then
      if 2 ≤ place && 4 ≤ place + pads + 1 then some []
      else decodeFrom place carry (pads + 1) cs
    else match sextet? c with
      | none => decodeFrom place carry pads cs
      | some v =>
        match place with
        | 0 => decodeFrom 1 v 0 cs
        | 1 => (UInt8.ofNat (carry * 4 + v / 16) :: ·) <$> decodeFrom 2 (v % 16) 0 cs
        | 2 => (UInt8.ofNat (carry * 16 + v / 4) :: ·) <$> decodeFrom 3 (v % 4) 0 cs
        | _ => (UInt8.ofNat (carry * 64 + v) :: ·) <$> decodeFrom 0 0 0 cs

/-- The bytes that a text spells. -/
def decode? (cs : List Char) : Option (List UInt8) := decodeFrom 0 0 0 cs

end Crosslink.Text.Base64
