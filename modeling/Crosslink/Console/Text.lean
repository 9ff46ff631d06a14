import Crosslink.Text.Width

/-!
# Text on the console

Control characters that move the cursor are left out of what is shown. What is shown is a list
of lines.
-/

namespace Crosslink.Console

/-- Bell, backspace, vertical tab, form feed and carriage return. -/
def movesCursor (c : Char) : Bool :=
  let n := c.toNat
  n == 7 || n == 8 || n == 11 || n == 12 || n == 13

/-- Text without characters that move the cursor. -/
def visible (s : String) : String := String.ofList (s.toList.filter (!movesCursor ·))

/-- The lines of a text. -/
def linesOf (s : String) : List String := (s.toList.splitOn '\n').map String.ofList

end Crosslink.Console
