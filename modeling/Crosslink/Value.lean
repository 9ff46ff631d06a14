import Crosslink.Number.Binary64

/-!
# Values of data documents

Front matter, settings files and environment variables carry values of one dynamic
type. Mappings keep the order in which keys were first written; writing a key again
changes its value only.
-/

namespace Crosslink

/-- A day of the calendar. -/
structure Date where
  year : Nat
  month : Nat
  day : Nat
  deriving DecidableEq, Repr

/-- Days of a month, leap years included. -/
def daysInMonth (year month : Nat) : Nat :=
  if month == 2 then
    if year % 4 == 0 && (year % 100 != 0 || year % 400 == 0) then 29 else 28
  else if month == 4 || month == 6 || month == 9 || month == 11 then 30
  else 31

/-- Does the day exist, in a year from 1 to 9999? -/
def Date.isValid (d : Date) : Bool :=
  1 ≤ d.year && d.year ≤ 9999 && 1 ≤ d.month && d.month ≤ 12
    && 1 ≤ d.day && d.day ≤ daysInMonth d.year d.month

/-- The number of days up to a day from the beginning of the first year. -/
def Date.ordinal (d : Date) : Nat :=
  let before := d.year - 1
  let months := (List.range (d.month - 1)).foldl (fun n m => n + daysInMonth d.year (m + 1)) 0
  365 * before + before / 4 - before / 100 + before / 400 + months + d.day

/-- A time of day on a date, with its distance from universal time in minutes if known. -/
structure Timestamp where
  date : Date
  hour : Nat
  minute : Nat
  second : Nat
  microsecond : Nat
  offset : Option Int
  deriving DecidableEq, Repr

/-- Does the time exist, and is its distance from universal time less than a day? -/
def Timestamp.isValid (t : Timestamp) : Bool :=
  t.date.isValid && t.hour < 24 && t.minute < 60 && t.second < 60
    && (match t.offset with
      | some o => o.natAbs < 24 * 60
      | none => true)

/-- The microseconds of a time as it is written, from the beginning of the first year. -/
def Timestamp.written (t : Timestamp) : Nat :=
  (((t.date.ordinal * 24 + t.hour) * 60 + t.minute) * 60 + t.second) * 1000000 + t.microsecond

/-- The same moment: times whose distance from universal time is known are compared there, and
never with others. -/
def Timestamp.sameMoment (t u : Timestamp) : Bool :=
  match t.offset, u.offset with
  | some o, some p =>
    (t.written : Int) - o * 60000000 == (u.written : Int) - p * 60000000
  | none, none => t == u
  | _, _ => false

/-- A value of a data document. -/
inductive Value where
  | null
  | bool (b : Bool)
  | int (n : Int)
  | float (x : Number.Binary64)
  | text (s : String)
  | date (d : Date)
  | timestamp (t : Timestamp)
  | bytes (bs : List UInt8)
  | list (items : List Value)
  | map (entries : List (Value × Value))
  | set (items : List Value)
  | tuple (items : List Value)
  /-- A list or a mapping that encloses this place. -/
  | enclosing (mapping : Bool)
  deriving Repr, Inhabited

namespace Value

/-- The whole number that a truth value, an integer or a floating-point value equals. -/
def whole? : Value → Option Int
  | .bool b => some (if b then 1 else 0)
  | .int n => some n
  | .float x => x.whole?
  | _ => none

/-- Do two values name the same key of a mapping? Numbers are compared by value. -/
def sameKey (a b : Value) : Bool :=
  match a.whole?, b.whole? with
  | some m, some n => m == n
  | none, none =>
    match a, b with
    | .null, .null => true
    | .float x, .float y => x.sameNumber y
    | .text s, .text t => s == t
    | .date d, .date e => d == e
    | .timestamp t, .timestamp u => t.sameMoment u
    | .bytes x, .bytes y => x == y
    | _, _ => false
  | _, _ => false

/-- Write a key of a mapping: in place if it is there, at the end if not. -/
def putEntry (key value : Value) : List (Value × Value) → List (Value × Value)
  | [] => [(key, value)]
  | (k, v) :: rest =>
    if k.sameKey key then (k, value) :: rest else (k, v) :: putEntry key value rest

/-- The mapping that results from writing entries one after the other. -/
def collectEntries (entries : List (Value × Value)) : List (Value × Value) :=
  entries.foldl (fun acc e => putEntry e.1 e.2 acc) []

/-- Is the value null, false, a zero, or without content? -/
def isVoid : Value → Bool
  | .null => true
  | .bool b => !b
  | .int n => n == 0
  | .float x => x.isZero
  | .text s => s == ""
  | .bytes bs => bs.isEmpty
  | .list items | .set items | .tuple items => items.isEmpty
  | .map entries => entries.isEmpty
  | .date _ | .timestamp _ | .enclosing _ => false

mutual

/-- Does a value, or one inside it, satisfy a test? -/
def holds (p : Value → Bool) (v : Value) : Bool :=
  p v || match v with
    | .list items | .set items | .tuple items => anyHolds p items
    | .map entries => entryHolds p entries
    | _ => false

/-- Does one of the values, or one inside them, satisfy a test? -/
def anyHolds (p : Value → Bool) : List Value → Bool
  | [] => false
  | v :: rest => holds p v || anyHolds p rest

/-- Does a key or a value of the entries, or one inside them, satisfy a test? -/
def entryHolds (p : Value → Bool) : List (Value × Value) → Bool
  | [] => false
  | (k, v) :: rest => holds p k || holds p v || entryHolds p rest

end

mutual

/-- How deep lists and mappings nest. -/
def depth : Value → Nat
  | .list items | .set items | .tuple items => depthOfAll items + 1
  | .map entries => depthOfEntries entries + 1
  | _ => 0

/-- The greatest depth among values. -/
def depthOfAll : List Value → Nat
  | [] => 0
  | v :: rest => max (depth v) (depthOfAll rest)

/-- The greatest depth among entries. -/
def depthOfEntries : List (Value × Value) → Nat
  | [] => 0
  | (k, v) :: rest => max (max (depth k) (depth v)) (depthOfEntries rest)

end

/-- Does the value lie inside itself? -/
def isEndless (v : Value) : Bool := v.holds fun
  | .enclosing _ => true
  | _ => false

/-- The value stored under a text key. -/
def lookup? (key : String) (entries : List (Value × Value)) : Option Value :=
  (entries.find? fun e => match e.1 with
    | .text s => s == key
    | _ => false).map (·.2)

end Value

/-- Named values in the order of their names' first appearance. -/
abbrev Fields := List (String × Value)

namespace Fields

/-- The value of a name. -/
def get? (name : String) (fields : Fields) : Option Value :=
  (fields.find? fun f => f.1 == name).map (·.2)

/-- Is the name present? -/
def has (name : String) (fields : Fields) : Bool := fields.any fun f => f.1 == name

/-- Write a name: in place if it is there, at the end if not. -/
def put (name : String) (value : Value) : Fields → Fields
  | [] => [(name, value)]
  | (n, v) :: rest =>
    if n == name then (n, value) :: rest else (n, v) :: put name value rest

@[simp] theorem get?_nil (name : String) : get? name [] = none := rfl

/-- A name that was just written holds what was written. -/
theorem get?_put_self (name : String) (value : Value) (fields : Fields) :
    get? name (put name value fields) = some value := by
  induction fields with
  | nil => simp [put, get?]
  | cons f rest ih =>
    obtain ⟨n, v⟩ := f
    by_cases h : n == name
    · simp [put, get?, h]
    · simpa [put, get?, h] using ih

/-- Writing one name leaves every other name alone. -/
theorem get?_put_of_ne {name other : String} (h : other ≠ name) (value : Value)
    (fields : Fields) : get? other (put name value fields) = get? other fields := by
  induction fields with
  | nil =>
    have hn : (name == other) = false := by simpa using fun e => h e.symm
    simp [put, get?, hn]
  | cons f rest ih =>
    obtain ⟨n, v⟩ := f
    by_cases hk : n == name
    · have he : n = name := by simpa using hk
      have hn : (n == other) = false := by simpa [he] using fun e => h e.symm
      simp [put, get?, hk, hn]
    · by_cases ho : n == other
      · simp [put, get?, hk, ho]
      · simpa [put, get?, hk, ho] using ih

end Fields

end Crosslink
