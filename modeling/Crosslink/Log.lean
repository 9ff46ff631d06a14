/-!
# Log

Messages with a level, and the threshold below which the console stays silent. The console
never shows less than warnings are worth unless everything is asked for.
-/

namespace Crosslink

/-- The levels of messages. -/
inductive Level where
  | debug
  | info
  | warning
  | error
  | critical
  deriving DecidableEq, Repr

namespace Level

/-- The weight of a level. -/
def number : Level → Nat
  | .debug => 10
  | .info => 20
  | .warning => 30
  | .error => 40
  | .critical => 50

/-- The name of a level. -/
def text : Level → String
  | .debug => "DEBUG"
  | .info => "INFO"
  | .warning => "WARNING"
  | .error => "ERROR"
  | .critical => "CRITICAL"

/-- All levels, lightest first. -/
def all : List Level := [.debug, .info, .warning, .error, .critical]

/-- The weights that names stand for, other names of levels included. -/
def numbers : List (String × Nat) :=
  all.map (fun l => (l.text, l.number)) ++ [("WARN", 30), ("FATAL", 50), ("NOTSET", 0)]

/-- A character in upper case, as far as upper-case letters of ASCII can result. -/
def upperChar (c : Char) : Char :=
  if c == 'ı' then 'I' else if c == 'ſ' then 'S' else c.toUpper

/-- A name in upper case, for comparison with names of levels. -/
def upperName (s : String) : String := String.ofList (s.toList.map upperChar)

/-- The level with a given name in any case. -/
def ofText? (s : String) : Option Level := all.find? fun l => l.text == upperName s

end Level

/-- A message with its level. -/
structure Message where
  level : Level
  text : String
  deriving DecidableEq, Repr

/-- Level and text in one line. -/
def Message.line (m : Message) : String := m.level.text ++ ": " ++ m.text

/-- The least weight that the console shows: that of a named level, but at least that of a
warning, unless everything is to be shown. -/
def consoleThreshold (verbose : Bool) (level : Option String) : Nat :=
  if verbose then Level.debug.number
  else
    let name := match level with
      | some s => if s == "" then "WARNING" else s
      | none => "WARNING"
    let asked := ((Level.numbers.find? fun n => n.1 == Level.upperName name).map (·.2)).getD
      Level.warning.number
    max asked Level.warning.number

/-- Without asking for everything, nothing below a warning is shown. -/
theorem warning_le_consoleThreshold (level : Option String) :
    Level.warning.number ≤ consoleThreshold false level := by
  simp only [consoleThreshold, Bool.false_eq_true, if_false]
  exact Nat.le_max_right _ _

end Crosslink
