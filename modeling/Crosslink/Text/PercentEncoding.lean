import Crosslink.Text.Utf8

/-!
# Percent encoding

Path segments are written with ASCII letters, digits and four marks as themselves and
every other byte of their UTF-8 form as a percent sign and two hexadecimal digits.
-/

namespace Crosslink.Text.PercentEncoding

/-- The characters that stand for themselves. -/
def isUnreserved (c : Char) : Bool :=
  c.isAlphanum || c == '_' || c == '.' || c == '-' || c == '~'

/-- The upper-case hexadecimal digit of a number below sixteen. -/
def hexDigit (n : Nat) : Char :=
  if n < 10 then Char.ofNat ('0'.toNat + n) else Char.ofNat ('A'.toNat + (n - 10))

/-- One byte as a percent sign and two digits. -/
def escapeByte (b : UInt8) : List Char := ['%', hexDigit (b.toNat / 16), hexDigit (b.toNat % 16)]

/-- One character: itself or its bytes escaped. -/
def encodeChar (c : Char) : List Char :=
  if isUnreserved c then [c] else (String.utf8EncodeChar c).flatMap escapeByte

/-- The encoded form of a path segment. -/
def encode (cs : List Char) : List Char := cs.flatMap encodeChar

/-- The encoded form of a string. -/
def encodeString (s : String) : String := String.ofList (encode s.toList)

@[simp] theorem encode_nil : encode [] = [] := rfl

@[simp] theorem encode_cons (c : Char) (cs : List Char) :
    encode (c :: cs) = encodeChar c ++ encode cs := by
  simp only [encode, List.flatMap_cons]

end Crosslink.Text.PercentEncoding
