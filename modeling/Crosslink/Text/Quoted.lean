import Crosslink.Text.Printable

/-!
# Quoted text

The quoted form of a string in messages and nested values. Single quotes are used
unless the text holds a single quote and no double quote; the chosen quote, the
backslash and everything unprintable are escaped.
-/

namespace Crosslink.Text

/-- Lower-case hexadecimal digits of `n`, filled with zeros to at least `width`. -/
def hexDigits (width n : Nat) : String :=
  let digits := Nat.toDigits 16 n
  String.ofList (List.replicate (width - digits.length) '0' ++ digits)

/-- The numeric escape of a character: two, four or eight hexadecimal digits. -/
def numericEscape (c : Char) : String :=
  let n := c.toNat
  if n < 0x100 then "\\x" ++ hexDigits 2 n
  else if n < 0x10000 then "\\u" ++ hexDigits 4 n
  else "\\U" ++ hexDigits 8 n

/-- One character of a quoted text that is closed by `quote`. -/
def quoteChar (quote c : Char) : String :=
  if c == quote || c == '\\' then String.ofList ['\\', c]
  else if c == '\t' then "\\t"
  else if c == '\n' then "\\n"
  else if c == '\r' then "\\r"
  else if isPrintable c then String.ofList [c]
  else numericEscape c

/-- The quote that needs fewer escapes, the single one when both or neither occur. -/
def chooseQuote (cs : List Char) : Char :=
  if cs.contains '\'' && !cs.contains '"' then '"' else '\''

/-- The quoted form of a string. -/
def quoted (s : String) : String :=
  let cs := s.toList
  let q := chooseQuote cs
  String.ofList [q] ++ String.join (cs.map (quoteChar q)) ++ String.ofList [q]

end Crosslink.Text
