import Crosslink.Number.Spelling
import Crosslink.Text.Base64
import Crosslink.Yaml.Fault
import Crosslink.Yaml.Scalar

/-!
# Values of scalars

What text stands for under the tag of a type. Text written under an explicit tag need not have
a form of that type, so each type says how it can fail.
-/

namespace Crosslink.Yaml

/-- A spelled number, or the fault that it does not exist. -/
def existing {α : Type} : Option α → Except Fault α
  | some a => .ok a
  | none => .error .impossible

/-- Fold numbers written in base sixty, the last one counting units. -/
def sexagesimal (fields : List Int) : Int := fields.foldl (fun acc f => acc * 60 + f) 0

/-- The whole number without a sign that text spells in binary, octal, decimal, hexadecimal or
base sixty. -/
def readMagnitude (body : List Char) : Except Fault Int :=
  match body with
  | [] => .error .emptyNumber
  | ['0'] => .ok 0
  | '0' :: 'b' :: ds => existing (Number.readWhole? 2 ds)
  | '0' :: 'x' :: ds => existing (Number.readWhole? 16 ds)
  | '0' :: _ => existing (Number.readWhole? 8 body)
  | _ =>
    if body.contains ':' then
      existing ((body.splitOn ':').mapM (Number.readWhole? 10)) |>.map sexagesimal
    else existing (Number.readWhole? 10 body)

/-- The whole number that text spells. -/
def readInt (s : String) : Except Fault Int :=
  match s.toList.filter (· != '_') with
  | [] => .error .emptyNumber
  | cs =>
    let (negative, body) := Number.splitSign cs
    (readMagnitude body).map fun n => if negative then -n else n

/-- The sum of fields in base sixty, added from the last field on. The weight of a field must
be in the range of the type. -/
def sexagesimalSum (fields : List Number.Binary64) : Except Fault Number.Binary64 := do
  let (total, _) ← fields.reverse.foldlM
    (fun (acc : Number.Binary64 × Nat) f =>
      match Number.Binary64.ofNat acc.2 with
      | .finite s m e => .ok (acc.1.add (f.mul (.finite s m e)), acc.2 * 60)
      | _ => .error .overflow)
    (.zero false, 1)
  return total

/-- The text of a floating-point number that counts: in lower case, without underscores. -/
def floatText (s : String) : List Char := Number.lowerAscii (s.toList.filter (· != '_'))

/-- The floating-point value that text spells. -/
def readFloat (s : String) : Except Fault Number.Binary64 :=
  match floatText s with
  | [] => .error .emptyNumber
  | cs =>
    let (negative, body) := Number.splitSign cs
    let signed (x : Number.Binary64) : Number.Binary64 := if negative then x.negate else x
    if body == ".inf".toList then .ok (.infinite negative)
    else if body == ".nan".toList then .ok .nan
    else if body.contains ':' then do
      let fields ← existing ((body.splitOn ':').mapM Number.readReal?)
      return signed (← sexagesimalSum fields)
    else (existing (Number.readReal? body)).map signed

/-- Is the text the one spelling of no number whose occurrences are all one key? -/
def isSharedNan (s : String) : Bool := (Number.splitSign (floatText s)).2 == ".nan".toList

/-- The truth value of a word in any case. -/
def readTruth (s : String) : Except Fault Bool :=
  let word := String.ofList (Number.lowerAscii s.toList)
  match truthWords.find? fun w => w.1 == word with
  | some w => .ok w.2
  | none => .error .noTruth

/-- The date or timestamp that text spells, if it exists. -/
def readTimestamp (s : String) : Except Fault Value :=
  match readMoment? (dropFinalBreak s.toList) with
  | some (.day d, _) => if d.isValid then .ok (.date d) else .error .impossible
  | some (.time t, _) => if t.isValid then .ok (.timestamp t) else .error .impossible
  | none => .error .noTimestamp

/-- The bytes that ASCII text spells in base 64. -/
def readBytes (s : String) : Except Fault (List UInt8) :=
  if s.toList.all fun c => c.toNat < 128 then
    match Text.Base64.decode? s.toList with
    | some bs => .ok bs
    | none => .error .malformed
  else .error .malformed

/-- The value of text under a tag. -/
def scalarValue (tag : Tag) (s : String) : Except Fault Value :=
  match tag with
  | .null => .ok .null
  | .bool => .bool <$> readTruth s
  | .int => .int <$> readInt s
  | .float => .float <$> readFloat s
  | .timestamp => readTimestamp s
  | .text => .ok (.text s)
  | .binary => .bytes <$> readBytes s
  | _ => .error .malformed

end Crosslink.Yaml
