import Crosslink.Number.Decimal
import Crosslink.Settings.Checked
import Crosslink.Text.Blank
import Crosslink.Text.Utf8
import Crosslink.Value

/-!
# Scalars of settings

How values of documents are taken as strings, truth values and whole numbers. Truth values
and numbers may be written as text; strings are not made from anything but text and bytes.
-/

namespace Crosslink.Settings

/-- A string, or bytes that spell one. -/
def readString : Value → Except Rule String
  | .text s => .ok s
  | .bytes bs =>
    match Text.Utf8.decode bs with
    | .ok cs => .ok (String.ofList cs)
    | .error _ => .error .stringUnicode
  | _ => .error .stringType

/-- The words for truth values, in lower case. -/
def truthWords : List (String × Bool) :=
  [("0", false), ("off", false), ("f", false), ("false", false), ("n", false), ("no", false),
    ("1", true), ("on", true), ("t", true), ("true", true), ("y", true), ("yes", true)]

/-- The truth value that a word spells in any case. -/
def truthOfText (s : String) : Except Rule Bool :=
  let word := String.ofList (Number.lowerAscii s.toList)
  match truthWords.find? fun w => w.1 == word with
  | some w => .ok w.2
  | none => .error .boolParsing

/-- Does a number fit a signed word of sixty-four bits? -/
def fitsWord (n : Int) : Bool := -9223372036854775808 ≤ n && n ≤ 9223372036854775807

/-- The truth value of the numbers zero and one. -/
def truthOfInt (n : Int) : Except Rule Bool :=
  if n = 0 then .ok false
  else if n = 1 then .ok true
  else if fitsWord n then .error .boolParsing
  else .error .boolType

/-- Is a whole number from a floating-point value inside the word, its ends left out? -/
def fitsInside (n : Int) : Bool := -9223372036854775808 < n && n < 9223372036854775807

/-- A truth value. -/
def readTruth : Value → Except Rule Bool
  | .bool b => .ok b
  | .int n => truthOfInt n
  | .float x =>
    match x.whole? with
    | some n => if fitsInside n then truthOfInt n else .error .boolType
    | none => .error .boolType
  | .text s => truthOfText s
  | .bytes bs =>
    match Text.Utf8.decode bs with
    | .ok cs => truthOfText (String.ofList cs)
    | .error _ => .error .boolParsing
  | _ => .error .boolType

/-- A value that may be left empty. -/
def readOptional {α : Type} (read : Value → Except Rule α) : Value → Except Rule (Option α)
  | .null => .ok none
  | v => (read v).map some

/-- Most characters of a plain numeral, its sign included. -/
def numeralLimit : Nat := 4300

/-- The whole number of a plain numeral, which has no superfluous zeros; nothing for other
text. A run of digits that does not start with zero must not be too long, whatever follows
it. -/
def plainInt (cs : List Char) : Except Rule (Option Int) :=
  let (negative, digits) := match cs with
    | '-' :: rest => (true, rest)
    | _ => (false, cs)
  match digits with
  | ['0'] => .ok (some 0)
  | '0' :: _ => .ok none
  | _ =>
    let run := digits.takeWhile Number.isDigit
    if numeralLimit < run.length + (if negative then 1 else 0) then .error .intParsingSize
    else .ok ((Number.natOfDigits? 10 digits).map fun n => if negative then -(n : Int) else n)

/-- Text without zeros at the front of a number; underscores among them are dropped too. -/
def dropLeadingZeros? (cs : List Char) : Option (List Char) :=
  let starts (c : Char) : Bool := Number.isDigit c || c == '-'
  match cs with
  | '0' :: rest =>
    let zeros := cs.takeWhile fun c => c == '0' || c == '_'
    match rest.dropWhile fun c => c == '0' || c == '_' with
    | [] => some [zeros.getLast?.getD '0']
    | c :: tail =>
      if c == '.' then some (zeros.getLast?.getD '0' :: c :: tail)
      else if starts c then some (c :: tail)
      else none
  | c :: _ => if starts c then some cs else none
  | [] => none

/-- Text without a fraction of one or more zeros. -/
def dropZeroFraction (cs : List Char) : List Char :=
  match cs.dropWhile (· != '.') with
  | '.' :: '0' :: zeros => if zeros.all (· == '0') then cs.takeWhile (· != '.') else cs
  | _ => cs

/-- Does an underscore stand at an end or next to another one? -/
def hasLooseUnderscore : List Char → Bool
  | [] => false
  | '_' :: _ => true
  | _ :: rest => ends rest
where
  /-- The same after a character that is no underscore. -/
  ends : List Char → Bool
    | [] => false
    | ['_'] => true
    | '_' :: '_' :: _ => true
    | _ :: rest => ends rest

/-- Text without underscores, each of which must stand between two other characters. -/
def dropUnderscores? (cs : List Char) : Option (List Char) :=
  if hasLooseUnderscore cs then none else some (cs.filter (· != '_'))

/-- The plain numeral of a number without a sign. -/
def plainNumeral? (cs : List Char) : Option (List Char) := do
  dropUnderscores? (dropZeroFraction (← dropLeadingZeros? cs))

/-- The plain numeral of a number with blanks taken off: without a plus, which no minus may
follow, and with a minus in front of what is cleared by itself. -/
def clearedNumeral? (cs : List Char) : Option (List Char) :=
  match cs with
  | '+' :: '-' :: _ => none
  | '+' :: rest => plainNumeral? rest
  | '-' :: rest => (plainNumeral? rest).map ('-' :: ·)
  | _ => plainNumeral? cs

/-- White space that may surround a number; the information separators may not. -/
def isNumberSpace (c : Char) : Bool := Text.isBlank c && !(28 ≤ c.toNat && c.toNat ≤ 31)

/-- The whole number that text spells. -/
def intOfText (s : String) : Except Rule Int := do
  let cs := Text.dropEndWhile isNumberSpace (s.toList.dropWhile isNumberSpace)
  match ← plainInt cs with
  | some n => return n
  | none =>
    match clearedNumeral? cs with
    | none => throw .intParsing
    | some digits =>
      match ← plainInt digits with
      | some n => return n
      | none => throw .intParsing

/-- A whole number. -/
def readInt : Value → Except Rule Int
  | .int n => .ok n
  | .bool b => .ok (if b then 1 else 0)
  | .float x =>
    match x with
    | .nan | .infinite _ => .error .finiteNumber
    | _ =>
      match x.whole? with
      | some n => if fitsInside n then .ok n else .error .intParsingSize
      | none => .error .intFromFloat
  | .text s => intOfText s
  | .bytes bs =>
    match Text.Utf8.decode bs with
    | .ok cs => intOfText (String.ofList cs)
    | .error _ => .error .intParsing
  | _ => .error .intType

/-- The items of a sequence. -/
def readItems : Value → Except Rule (List Value)
  | .list items | .tuple items | .set items => .ok items
  | _ => .error .listType

end Crosslink.Settings
