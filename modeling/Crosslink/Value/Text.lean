import Crosslink.Value
import Crosslink.Number.Shortest
import Crosslink.Number.Spelling
import Crosslink.Text.Quoted

/-!
# Text of values

Every value has a plain text, used where an identifier or a title is not a string, and
a displayed text, used inside lists and mappings. The two differ for strings, dates and
timestamps.
-/

namespace Crosslink

/-- A number with zeros at the front up to a width. -/
def padNumber (width n : Nat) : String :=
  let ds := Nat.toDigits 10 n
  String.ofList (List.replicate (width - ds.length) '0' ++ ds)

/-- Year, month and day with dashes. -/
def Date.text (d : Date) : String :=
  padNumber 4 d.year ++ "-" ++ padNumber 2 d.month ++ "-" ++ padNumber 2 d.day

/-- The distance from universal time as a sign, hours and minutes. -/
def offsetText (minutes : Int) : String :=
  (if minutes < 0 then "-" else "+") ++ padNumber 2 (minutes.natAbs / 60) ++ ":"
    ++ padNumber 2 (minutes.natAbs % 60)

/-- Date and time with a separator between them; a fraction only if there is one. -/
def Timestamp.textWith (separator : String) (t : Timestamp) : String :=
  t.date.text ++ separator ++ padNumber 2 t.hour ++ ":" ++ padNumber 2 t.minute ++ ":"
    ++ padNumber 2 t.second
    ++ (if t.microsecond = 0 then "" else "." ++ padNumber 6 t.microsecond)
    ++ (match t.offset with
      | some o => offsetText o
      | none => "")

/-- The displayed form of a day. -/
def Date.display (d : Date) : String :=
  "datetime.date(" ++ String.intercalate ", " ([d.year, d.month, d.day].map toString) ++ ")"

/-- The displayed form of a distance from universal time. -/
def offsetDisplay (minutes : Int) : String :=
  if minutes = 0 then "datetime.timezone.utc"
  else
    let seconds := toString ((minutes % 1440) * 60)
    let inner := if minutes < 0 then "days=-1, seconds=" ++ seconds else "seconds=" ++ seconds
    "datetime.timezone(datetime.timedelta(" ++ inner ++ "))"

/-- The displayed form of a timestamp; seconds and fraction only as far as they count. -/
def Timestamp.display (t : Timestamp) : String :=
  let tail :=
    if t.microsecond ≠ 0 then [t.second, t.microsecond]
    else if t.second ≠ 0 then [t.second] else []
  let numbers := [t.date.year, t.date.month, t.date.day, t.hour, t.minute] ++ tail
  let zone := match t.offset with
    | some o => ", tzinfo=" ++ offsetDisplay o
    | none => ""
  "datetime.datetime(" ++ String.intercalate ", " (numbers.map toString) ++ zone ++ ")"

/-- One byte of a displayed byte string that is closed by `quote`. -/
def byteText (quote : Char) (b : UInt8) : String :=
  let c := Char.ofNat b.toNat
  if c == quote || c == '\\' then String.ofList ['\\', c]
  else if c == '\t' then "\\t"
  else if c == '\n' then "\\n"
  else if c == '\r' then "\\r"
  else if 32 ≤ b && b < 127 then String.ofList [c]
  else "\\x" ++ Text.hexDigits 2 b.toNat

/-- The displayed form of bytes. -/
def bytesText (bs : List UInt8) : String :=
  let q := Text.chooseQuote (bs.map fun b => Char.ofNat b.toNat)
  "b" ++ String.ofList [q] ++ String.join (bs.map (byteText q)) ++ String.ofList [q]

namespace Value

/-- The text of a truth value. -/
def boolText (b : Bool) : String := if b then "True" else "False"

mutual

/-- The form of a value inside a list or a mapping. -/
def display : Value → String
  | .null => "None"
  | .bool b => boolText b
  | .int n => toString n
  | .float x => x.text
  | .text s => Text.quoted s
  | .date d => d.display
  | .timestamp t => t.display
  | .bytes bs => bytesText bs
  | .list items => "[" ++ String.intercalate ", " (displayAll items) ++ "]"
  | .map entries =>
    String.ofList ['\x7b'] ++ String.intercalate ", " (displayEntries entries)
      ++ String.ofList ['\x7d']
  | .set [] => "set()"
  | .set items =>
    String.ofList ['\x7b'] ++ String.intercalate ", " (displayAll items) ++ String.ofList ['\x7d']
  | .tuple [item] => "(" ++ display item ++ ",)"
  | .tuple items => "(" ++ String.intercalate ", " (displayAll items) ++ ")"
  | .enclosing false => "[...]"
  | .enclosing true => String.ofList ['\x7b', '.', '.', '.', '\x7d']

/-- The forms of the members of a list. -/
def displayAll : List Value → List String
  | [] => []
  | v :: rest => display v :: displayAll rest

/-- The forms of the entries of a mapping. -/
def displayEntries : List (Value × Value) → List String
  | [] => []
  | (k, v) :: rest => (display k ++ ": " ++ display v) :: displayEntries rest

end

/-- Does a value hold a whole number with more digits than are ever written? -/
def hasLongNumber (v : Value) : Bool := v.holds fun
  | .int n => Nat.pow 10 Number.digitLimit ≤ n.natAbs
  | _ => false

/-- The greatest depth of a value that is displayed. -/
def displayDepth : Nat := 980

/-- The plain text of a value. -/
def plainText : Value → String
  | .text s => s
  | .date d => d.text
  | .timestamp t => t.textWith " "
  | v => v.display

end Value

end Crosslink
