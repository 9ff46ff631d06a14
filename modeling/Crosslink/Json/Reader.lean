import Crosslink.Value
import Crosslink.Number.Spelling

/-!
# Reading JSON

One value with blanks around it and nothing after. Strings hold no raw control
characters, a name that is repeated keeps its place and takes the last value, and the
three words for numbers that are not finite are accepted.
-/

namespace Crosslink.Json

/-- Why a text is not read. -/
inductive Fault where
  | malformed
  /-- A whole number with more digits than are ever read. -/
  | longNumber
  /-- Arrays and objects that nest too deeply. -/
  | tooDeep
  deriving DecidableEq, Repr

/-- The greatest depth of arrays and objects. -/
def depthLimit : Nat := 980

/-- What a reader found, which must be there. -/
def found {α : Type} : Option α → Except Fault α
  | some a => .ok a
  | none => .error .malformed

/-- The four blanks of the format. -/
def isSpace (c : Char) : Bool := c == ' ' || c == '\t' || c == '\n' || c == '\r'

/-- Drop blanks at the front. -/
def skipSpace (cs : List Char) : List Char := cs.dropWhile isSpace

/-- The value of four hexadecimal digits at the front. -/
def hex4? : List Char → Option (Nat × List Char)
  | a :: b :: c :: d :: rest => (Number.natOfDigits? 16 [a, b, c, d]).map (·, rest)
  | _ => none

/-- The character of an escape that stands for one character. -/
def simpleEscape? : Char → Option Char
  | '"' => some '"'
  | '\\' => some '\\'
  | '/' => some '/'
  | 'b' => some '\x08'
  | 'f' => some '\x0c'
  | 'n' => some '\n'
  | 'r' => some '\r'
  | 't' => some '\t'
  | _ => none

/-- The character of a numeric escape: two halves of a pair are joined, a half that
stands alone becomes the replacement character. -/
def numericEscape? (cs : List Char) : Option (Char × List Char) := do
  let (high, rest) ← hex4? cs
  let alone := if 0xD800 ≤ high ∧ high < 0xE000 then '\ufffd' else Char.ofNat high
  if 0xD800 ≤ high ∧ high < 0xDC00 then
    match rest with
    | '\\' :: 'u' :: tail =>
      match hex4? tail with
      | some (low, after) =>
        if 0xDC00 ≤ low ∧ low < 0xE000 then
          return (Char.ofNat (0x10000 + (high - 0xD800) * 0x400 + (low - 0xDC00)), after)
        else return (alone, rest)
      | none => return (alone, rest)
    | _ => return (alone, rest)
  else return (alone, rest)

/-- The rest of a string after its opening quote. -/
def stringBody? : (fuel : Nat) → List Char → Option (List Char × List Char)
  | 0, _ => none
  | _ + 1, [] => none
  | fuel + 1, c :: cs =>
    if c == '"' then some ([], cs)
    else if c == '\\' then
      match cs with
      | 'u' :: cs => do
        let (d, rest) ← numericEscape? cs
        let (ds, rest) ← stringBody? fuel rest
        return (d :: ds, rest)
      | e :: cs => do
        let d ← simpleEscape? e
        let (ds, rest) ← stringBody? fuel cs
        return (d :: ds, rest)
      | [] => none
    else if c.toNat < 0x20 then none
    else do
      let (ds, rest) ← stringBody? fuel cs
      return (c :: ds, rest)

/-- Drop a word from the front. -/
def dropWord? (word : String) (cs : List Char) : Option (List Char) :=
  if word.toList.isPrefixOf cs then some (cs.drop word.length) else none

/-- The digits of a whole number: a zero alone or digits that start with no zero. -/
def wholeDigits? : List Char → Option (List Char × List Char)
  | '0' :: cs => some (['0'], cs)
  | cs =>
    let ds := cs.takeWhile Number.isDigit
    if ds.isEmpty then none else some (ds, cs.dropWhile Number.isDigit)

/-- A fraction at the front, empty if a point with digits is not there. -/
def fractionDigits (cs : List Char) : List Char × List Char :=
  match cs with
  | '.' :: rest =>
    let ds := rest.takeWhile Number.isDigit
    if ds.isEmpty then ([], cs) else ('.' :: ds, rest.dropWhile Number.isDigit)
  | _ => ([], cs)

/-- An exponent at the front, empty if a mark with digits is not there. -/
def exponentDigits (cs : List Char) : List Char × List Char :=
  match cs with
  | e :: rest =>
    if e == 'e' || e == 'E' then
      let (sign, rest) := match rest with
        | '+' :: r => (['+'], r)
        | '-' :: r => (['-'], r)
        | r => ([], r)
      let ds := rest.takeWhile Number.isDigit
      if ds.isEmpty then ([], cs) else (e :: sign ++ ds, rest.dropWhile Number.isDigit)
    else ([], cs)
  | [] => ([], cs)

/-- A number at the front: an integer, or a floating-point value if a fraction or an
exponent follows. -/
def number (cs : List Char) : Except Fault (Value × List Char) := do
  let (sign, body) := match cs with
    | '-' :: rest => (['-'], rest)
    | _ => ([], cs)
  let (whole, rest) ← found (wholeDigits? body)
  let (fraction, rest) := fractionDigits rest
  let (power, rest) := exponentDigits rest
  if fraction.isEmpty && power.isEmpty then
    if Number.digitLimit < whole.length then throw .longNumber
    let n ← found (Number.intOfDigits? (sign ++ whole))
    return (.int n, rest)
  else
    let n ← found (Number.readNumeral? (sign ++ whole ++ fraction ++ power))
    return (.float n.toBinary64, rest)

/-- A word or a number at the front. -/
def atom (cs : List Char) : Except Fault (Value × List Char) :=
  let words : List (String × Value) :=
    [("null", .null), ("true", .bool true), ("false", .bool false),
      ("NaN", .float .nan), ("Infinity", .float (.infinite false)),
      ("-Infinity", .float (.infinite true))]
  match words.findSome? fun w => (dropWord? w.1 cs).map (w.2, ·) with
  | some word => .ok word
  | none => number cs

mutual

/-- A value at the front, without blanks before it, inside `room` more arrays and objects at
most. -/
def value : (fuel room : Nat) → List Char → Except Fault (Value × List Char)
  | 0, _, _ => .error .malformed
  | fuel + 1, room, cs =>
    match cs with
    | '"' :: rest => do
      let (s, rest) ← found (stringBody? (rest.length + 1) rest)
      return (.text (String.ofList s), rest)
    | '[' :: rest => do
      if room = 0 then throw .tooDeep
      match skipSpace rest with
      | ']' :: after => return (.list [], after)
      | inner =>
        let (vs, rest) ← items fuel (room - 1) inner
        return (.list vs, rest)
    | '\x7b' :: rest => do
      if room = 0 then throw .tooDeep
      match skipSpace rest with
      | '\x7d' :: after => return (.map [], after)
      | inner =>
        let (es, rest) ← members fuel (room - 1) inner
        return (.map (Value.collectEntries es), rest)
    | _ => atom cs

/-- Members of an array up to its closing bracket. -/
def items : (fuel room : Nat) → List Char → Except Fault (List Value × List Char)
  | 0, _, _ => .error .malformed
  | fuel + 1, room, cs => do
    let (v, rest) ← value fuel room cs
    match skipSpace rest with
    | ']' :: after => return ([v], after)
    | ',' :: after =>
      let (vs, rest) ← items fuel room (skipSpace after)
      return (v :: vs, rest)
    | _ => throw .malformed

/-- Members of an object up to its closing brace. -/
def members : (fuel room : Nat) → List Char → Except Fault (List (Value × Value) × List Char)
  | 0, _, _ => .error .malformed
  | fuel + 1, room, cs => do
    match cs with
    | '"' :: rest =>
      let (key, rest) ← found (stringBody? (rest.length + 1) rest)
      match skipSpace rest with
      | ':' :: rest =>
        let (v, rest) ← value fuel room (skipSpace rest)
        let entry := (Value.text (String.ofList key), v)
        match skipSpace rest with
        | '\x7d' :: after => return ([entry], after)
        | ',' :: after =>
          let (es, rest) ← members fuel room (skipSpace after)
          return (entry :: es, rest)
        | _ => throw .malformed
      | _ => throw .malformed
    | _ => throw .malformed

end

/-- The value that a text spells. -/
def read (cs : List Char) : Except Fault Value := do
  let (v, rest) ← value (2 * cs.length + 2) depthLimit (skipSpace cs)
  if (skipSpace rest).isEmpty then return v else throw .malformed

end Crosslink.Json
