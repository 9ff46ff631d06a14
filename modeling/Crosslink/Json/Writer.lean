import Crosslink.Text.Quoted

/-!
# Writing JSON

Reports are written with two spaces of indentation, one member a line, and members in
the order given. Characters beyond ASCII are escaped or kept, as the reader needs.
-/

namespace Crosslink

/-- A document to be written. -/
inductive Json where
  | null
  | bool (b : Bool)
  | int (n : Int)
  | string (s : String)
  | array (items : List Json)
  | object (members : List (String × Json))
  deriving Repr, Inhabited

namespace Json

/-- A string, or null where there is none. -/
def ofString? : Option String → Json
  | some s => .string s
  | none => .null

/-- An integer, or null where there is none. -/
def ofInt? : Option Int → Json
  | some n => .int n
  | none => .null

/-- The numeric escape of a code unit. -/
def unitEscape (n : Nat) : String := "\\u" ++ Text.hexDigits 4 n

/-- The escape of a character as one or two code units. -/
def escapeChar (c : Char) : String :=
  let n := c.toNat
  if n < 0x10000 then unitEscape n
  else unitEscape (0xD800 + (n - 0x10000) / 0x400) ++ unitEscape (0xDC00 + (n - 0x10000) % 0x400)

/-- One character of a string. -/
def writeChar (ascii : Bool) (c : Char) : String :=
  if c == '"' then "\\\""
  else if c == '\\' then "\\\\"
  else if c == '\n' then "\\n"
  else if c == '\r' then "\\r"
  else if c == '\t' then "\\t"
  else if c == '\x0c' then "\\f"
  else if c == '\x08' then "\\b"
  else if c.toNat < 0x20 || (ascii && 0x7F ≤ c.toNat) then escapeChar c
  else String.ofList [c]

/-- A string with its quotes. -/
def writeString (ascii : Bool) (s : String) : String :=
  "\"" ++ String.join (s.toList.map (writeChar ascii)) ++ "\""

/-- A new line at a depth. -/
def newline (depth : Nat) : String := "\n" ++ String.ofList (List.replicate (2 * depth) ' ')

mutual

/-- A document at a depth. -/
def write (ascii : Bool) (depth : Nat) : Json → String
  | .null => "null"
  | .bool b => if b then "true" else "false"
  | .int n => toString n
  | .string s => writeString ascii s
  | .array [] => "[]"
  | .array items =>
    "[" ++ newline (depth + 1)
      ++ String.intercalate ("," ++ newline (depth + 1)) (writeItems ascii (depth + 1) items)
      ++ newline depth ++ "]"
  | .object [] => "\x7b\x7d"
  | .object members =>
    "\x7b" ++ newline (depth + 1)
      ++ String.intercalate ("," ++ newline (depth + 1)) (writeMembers ascii (depth + 1) members)
      ++ newline depth ++ "\x7d"

/-- The members of an array. -/
def writeItems (ascii : Bool) (depth : Nat) : List Json → List String
  | [] => []
  | item :: rest => write ascii depth item :: writeItems ascii depth rest

/-- The members of an object. -/
def writeMembers (ascii : Bool) (depth : Nat) : List (String × Json) → List String
  | [] => []
  | (name, item) :: rest =>
    (writeString ascii name ++ ": " ++ write ascii depth item) :: writeMembers ascii depth rest

end

/-- A document as text. -/
def render (ascii : Bool) (j : Json) : String := j.write ascii 0

end Json

end Crosslink
