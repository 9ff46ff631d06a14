import Crosslink.Number.Decimal
import Crosslink.Value

/-!
# Types of scalars

Text whose type is open, as that of unquoted scalars is, is a truth value, a number, null, a
timestamp, a merge or default mark, or else a string. Each form is recognised by its own test;
the tests are disjoint.
-/

namespace Crosslink.Yaml

/-- The tags with a meaning of their own. -/
inductive Tag where
  | null
  | bool
  | int
  | float
  | binary
  | timestamp
  | text
  | sequence
  | mapping
  | set
  | orderedMap
  | pairs
  | merge
  | default
  | unknown (uri : String)
  deriving DecidableEq, Repr

/-- What the tags of the standard types begin with. -/
def standardTags : String := "tag:yaml.org,2002:"

/-- The tag that a full name denotes. -/
def Tag.ofUri (uri : String) : Tag :=
  let known : List (String × Tag) :=
    [("null", .null), ("bool", .bool), ("int", .int), ("float", .float), ("binary", .binary),
      ("timestamp", .timestamp), ("str", .text), ("seq", .sequence), ("map", .mapping),
      ("set", .set), ("omap", .orderedMap), ("pairs", .pairs), ("merge", .merge),
      ("value", .default)]
  match known.find? fun k => standardTags ++ k.1 == uri with
  | some k => k.2
  | none => .unknown uri

/-- Words for truth values, each in lower case, capitalised and upper case. -/
def truthWords : List (String × Bool) :=
  [("yes", true), ("Yes", true), ("YES", true), ("no", false), ("No", false), ("NO", false),
    ("true", true), ("True", true), ("TRUE", true), ("false", false), ("False", false),
    ("FALSE", false), ("on", true), ("On", true), ("ON", true), ("off", false),
    ("Off", false), ("OFF", false)]

/-- Drop a sign at the front. -/
def unsigned : List Char → List Char
  | '-' :: cs => cs
  | '+' :: cs => cs
  | cs => cs

/-- Is every character a digit of the base or an underscore, with at least one of them? -/
def isGrouped (base : Nat) (cs : List Char) : Bool :=
  !cs.isEmpty && cs.all fun c => c == '_' || (Number.digit? base c).isSome

/-- Is the text a colon and a number below sixty, once or more? -/
def isSexagesimalTail (fields : List (List Char)) : Bool :=
  !fields.isEmpty && fields.all fun f => match f with
    | [d] => Number.isDigit d
    | [t, d] => '0' ≤ t && t ≤ '5' && Number.isDigit d
    | _ => false

/-- Does the text start with a digit from one to nine and go on with digits? -/
def isCounting (cs : List Char) : Bool :=
  match cs with
  | c :: rest => '1' ≤ c && c ≤ '9' && rest.all fun d => d == '_' || Number.isDigit d
  | [] => false

/-- The form of an integer: binary, octal, decimal, hexadecimal or base sixty. -/
def isIntForm (cs : List Char) : Bool :=
  match unsigned cs with
  | ['0'] => true
  | '0' :: 'b' :: rest => isGrouped 2 rest
  | '0' :: 'x' :: rest => isGrouped 16 rest
  | '0' :: rest => isGrouped 8 rest
  | body =>
    match body.splitOn ':' with
    | [whole] => isCounting whole
    | whole :: fields => isCounting whole && isSexagesimalTail fields
    | [] => false

/-- The form of a signed exponent, or nothing. -/
def isPowerForm (cs : List Char) : Bool :=
  match cs with
  | [] => true
  | e :: s :: digits =>
    (e == 'e' || e == 'E') && (s == '-' || s == '+') && !digits.isEmpty
      && digits.all Number.isDigit
  | _ => false

/-- Digits and underscores that start with a digit. -/
def isDigitRun (cs : List Char) : Bool :=
  match cs with
  | c :: rest => Number.isDigit c && rest.all fun d => d == '_' || Number.isDigit d
  | [] => false

/-- The form of a floating-point number. -/
def isFloatForm (cs : List Char) : Bool :=
  let body := unsigned cs
  let isSigned := body.length != cs.length
  let infinite := [".inf", ".Inf", ".INF"].any fun w => body == w.toList
  let noNumber := [".nan", ".NaN", ".NAN"].any fun w => cs == w.toList
  let grouped (c : Char) : Bool := c == '_' || Number.isDigit c
  let whole := body.takeWhile (· != '.')
  match body.dropWhile (· != '.') with
  | '.' :: after =>
    let fraction := after.takeWhile grouped
    let power := after.dropWhile grouped
    infinite || noNumber
      || (isDigitRun whole && isPowerForm power)
      || (!isSigned && whole.isEmpty && isDigitRun fraction && isPowerForm power)
      || (match whole.splitOn ':' with
        | first :: fields => isDigitRun first && isSexagesimalTail fields && power.isEmpty
        | [] => false)
  | _ => false

/-- One or two digits at the front. -/
def takeOneOrTwo : List Char → Option (Nat × List Char)
  | a :: b :: rest =>
    if !Number.isDigit a then none
    else if Number.isDigit b then (Number.natOfDigits? 10 [a, b]).map (·, rest)
    else (Number.natOfDigits? 10 [a]).map (·, b :: rest)
  | [a] => (Number.natOfDigits? 10 [a]).map (·, [])
  | [] => none

/-- Exactly `n` digits at the front. -/
def takeDigits (n : Nat) (cs : List Char) : Option (Nat × List Char) :=
  if n ≤ cs.length then (Number.natOfDigits? 10 (cs.take n)).map (·, cs.drop n) else none

/-- Drop a given character from the front. -/
def dropChar (c : Char) : List Char → Option (List Char)
  | d :: rest => if c == d then some rest else none
  | [] => none

/-- A dash-separated date at the front; is it of the short form with two digits each? -/
def takeDate (cs : List Char) : Option (Date × Bool × List Char) := do
  let (year, rest) ← takeDigits 4 cs
  let rest ← dropChar '-' rest
  let (month, rest₁) ← takeOneOrTwo rest
  let rest₂ ← dropChar '-' rest₁
  let (day, rest₃) ← takeOneOrTwo rest₂
  let full := rest.length - rest₁.length == 2 && rest₂.length - rest₃.length == 2
  return (⟨year, month, day⟩, full, rest₃)

/-- The blanks or the letter between a date and a time. -/
def dropTimeMark (cs : List Char) : Option (List Char) :=
  match cs with
  | 'T' :: rest => some rest
  | 't' :: rest => some rest
  | c :: _ =>
    if c == ' ' || c == '\t' then some (cs.dropWhile fun d => d == ' ' || d == '\t') else none
  | [] => none

/-- The first six digits of a fraction as microseconds. -/
def microseconds (ds : List Char) : Nat :=
  let six := ds.take 6
  ((Number.natOfDigits? 10 (six ++ List.replicate (6 - six.length) '0')).getD 0)

/-- A distance from universal time, in minutes, that takes all of the text. -/
def readZone? (cs : List Char) : Option (Option Int) :=
  match cs.dropWhile fun d => d == ' ' || d == '\t' with
  | [] => if cs.isEmpty then some none else none
  | ['Z'] => some (some 0)
  | sign :: rest =>
    if sign != '-' && sign != '+' then none
    else do
      let (hours, rest) ← takeOneOrTwo rest
      let minutes ← match rest with
        | [] => some 0
        | ':' :: ds => if ds.length == 2 then Number.natOfDigits? 10 ds else none
        | _ => none
      let total : Int := hours * 60 + minutes
      return some (if sign == '-' then -total else total)

/-- A date alone or a date with a time, not yet checked to exist. -/
inductive Moment where
  | day (d : Date)
  | time (t : Timestamp)

/-- Read a timestamp and say whether a date alone has two digits for month and day. -/
def readMoment? (cs : List Char) : Option (Moment × Bool) := do
  let (date, full, rest) ← takeDate cs
  if rest.isEmpty then return (.day date, full)
  let rest ← dropTimeMark rest
  let (hour, rest) ← takeOneOrTwo rest
  let rest ← dropChar ':' rest
  let (minute, rest) ← takeDigits 2 rest
  let rest ← dropChar ':' rest
  let (second, rest) ← takeDigits 2 rest
  let (fraction, rest) := match rest with
    | '.' :: tail => (tail.takeWhile Number.isDigit, tail.dropWhile Number.isDigit)
    | _ => ([], rest)
  let offset ← readZone? rest
  return (.time ⟨date, hour, minute, second, microseconds fraction, offset⟩, true)

/-- The type of a form that text has as a whole. -/
def formTag (cs : List Char) : Tag :=
  let isOneOf (words : List String) : Bool := words.any fun w => w.toList == cs
  if isOneOf (truthWords.map (·.1)) then .bool
  else if isFloatForm cs then .float
  else if isIntForm cs then .int
  else if isOneOf ["<<"] then .merge
  else if isOneOf ["~", "null", "Null", "NULL"] then .null
  else if (readMoment? cs).any fun m => m.2 then .timestamp
  else if isOneOf ["="] then .default
  else if isOneOf ["!", "&", "*"] then .unknown (standardTags ++ "yaml")
  else .text

/-- The text that a form is looked for in: one line feed at the end does not count. -/
def dropFinalBreak (cs : List Char) : List Char :=
  if cs.getLast? == some '\n' then cs.dropLast else cs

/-- The type of text whose type is open. -/
def openTag (s : String) : Tag := if s == "" then .null else formTag (dropFinalBreak s.toList)

end Crosslink.Yaml
