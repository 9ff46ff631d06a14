import Crosslink.Environment
import Crosslink.Text.Blank
import Crosslink.Text.LowerCase

/-!
# Files of variables

Statements `NAME=value`, one to a line unless a quoted value spans several, with optional
`export` and comments. A statement that cannot be read is skipped with the rest of its
line. Values may refer to variables that are set or that stand earlier in the file.
-/

namespace Crosslink.Settings.Dotenv

/-- A blank that does not end the line. -/
def isInlineBlank (c : Char) : Bool := Text.isBlank c && c != '\n' && c != '\r'

/-- Does the character end a line? -/
def isLineEnd (c : Char) : Bool := c == '\n' || c == '\r'

/-- What a statement says. -/
inductive Statement where
  /-- A variable, which need not have a value. -/
  | binding (name : String) (value : Option String)
  | comment
  | malformed
  deriving DecidableEq, Repr

/-- Drop the word `export` and the blanks after it. -/
def dropExport (cs : List Char) : List Char :=
  match cs with
  | 'e' :: 'x' :: 'p' :: 'o' :: 'r' :: 't' :: c :: rest =>
    if isInlineBlank c then rest.dropWhile isInlineBlank else cs
  | _ => cs

/-- A name that may be in quotes, and what follows it. -/
def name? (cs : List Char) : Option (List Char × List Char) :=
  match cs with
  | '\'' :: inner =>
    let name := inner.takeWhile (· != '\'')
    match inner.dropWhile (· != '\'') with
    | _ :: rest => if name.isEmpty then none else some (name, rest)
    | [] => none
  | _ =>
    let stop (c : Char) : Bool := c == '=' || c == '#' || Text.isBlank c
    let name := cs.takeWhile (!stop ·)
    if name.isEmpty then none else some (name, cs.dropWhile (!stop ·))

/-- Text up to its closing quote, and what follows it. A backslash protects the character after
it, whichever it is. -/
def quoted? (quote : Char) : List Char → Option (List Char × List Char)
  | [] => none
  | ['\\'] => none
  | '\\' :: c :: cs => (quoted? quote cs).map fun (text, rest) => ('\\' :: c :: text, rest)
  | c :: cs =>
    if c == quote then some ([], cs)
    else (quoted? quote cs).map fun (text, rest) => (c :: text, rest)

/-- The character that an escape stands for inside a kind of quotes. -/
def escape? (quote c : Char) : Option Char :=
  if c == '\\' || c == '\'' then some c
  else if quote == '\'' then none
  else match c with
    | '"' => some '"'
    | 'a' => some '\x07'
    | 'b' => some '\x08'
    | 'f' => some '\x0c'
    | 'n' => some '\n'
    | 'r' => some '\r'
    | 't' => some '\t'
    | 'v' => some '\x0b'
    | _ => none

/-- Replace escapes by what they stand for; other backslashes stay. -/
def unescape (quote : Char) : List Char → List Char
  | [] => []
  | '\\' :: c :: cs =>
    match escape? quote c with
    | some d => d :: unescape quote cs
    | none => '\\' :: unescape quote (c :: cs)
  | c :: cs => c :: unescape quote cs

/-- Drop a comment that follows blanks. -/
def dropComment : List Char → List Char
  | [] => []
  | c :: cs =>
    if Text.isBlank c && (cs.dropWhile Text.isBlank).head? == some '#' then []
    else c :: dropComment cs

/-- A value that begins here, and what follows it. -/
def valueHere? (cs : List Char) : Option (List Char × List Char) :=
  match cs with
  | [] => some ([], [])
  | c :: inner =>
    if c == '\'' || c == '"' then
      (quoted? c inner).map fun (text, rest) => (unescape c text, rest)
    else
      let line := cs.takeWhile (!isLineEnd ·)
      some (Text.trimEnd (dropComment line), cs.dropWhile (!isLineEnd ·))

/-- A value after its equals sign, and what follows it; where reading stops, what is left is
given back. A comment after blanks leaves the value empty. -/
def value (cs : List Char) : Except (List Char) (List Char × List Char) :=
  let rest := cs.dropWhile isInlineBlank
  if rest.length < cs.length && rest.head? == some '#' then .ok ([], rest)
  else match valueHere? rest with
    | some found => .ok found
    | none => .error rest

/-- What follows the line that `cs` is in. -/
def dropLine (cs : List Char) : List Char := (cs.dropWhile (!isLineEnd ·)).drop 1

/-- What follows the end of a statement: blanks, a comment and the end of the line. -/
def dropEnd? (cs : List Char) : Option (List Char) :=
  match cs.dropWhile isInlineBlank with
  | [] => some []
  | '#' :: rest => some (dropLine rest)
  | c :: rest => if isLineEnd c then some rest else none

/-- A variable with its value, if it has one, and what follows. Where reading stops, what
is left is given back. -/
def binding (cs : List Char) : Except (List Char) (Statement × List Char) :=
  match name? cs with
  | none => .error cs
  | some (name, rest) =>
    match rest.dropWhile isInlineBlank with
    | '=' :: rest => do
      let (text, rest) ← value rest
      return (.binding (String.ofList name) (some (String.ofList text)), rest)
    | rest => .ok (.binding (String.ofList name) none, rest)

/-- The first statement of a text without blanks before it, and what follows it. -/
def statement (cs : List Char) : Statement × List Char :=
  let cs := dropExport cs
  let read : Except (List Char) (Statement × List Char) := match cs with
    | '#' :: _ => .ok (.comment, cs)
    | _ => binding cs
  match read with
  | .error rest => (.malformed, dropLine rest)
  | .ok (s, rest) =>
    match dropEnd? rest with
    | some rest => (s, rest)
    | none => (.malformed, dropLine rest)

/-- The statements of a text, the first `fuel` of them. Each takes at least one character, so
the length of the text is enough. -/
def statementsFrom : (fuel : Nat) → List Char → List Statement
  | 0, _ => []
  | fuel + 1, cs =>
    match cs.dropWhile Text.isBlank with
    | [] => []
    | body =>
      let (s, rest) := statement body
      s :: statementsFrom fuel rest

/-- A text without a byte-order mark at its front. -/
def dropMark (cs : List Char) : List Char :=
  match cs with
  | '\ufeff' :: rest => rest
  | _ => cs

/-- The statements of a file. -/
def statements (text : List Char) : List Statement := statementsFrom text.length (dropMark text)

/-- A reference to a variable after a dollar sign: its name, its default, and the number of
characters it takes. -/
def reference? (cs : List Char) : Option (String × String × Nat) :=
  match cs with
  | '\x7b' :: inner =>
    let name := inner.takeWhile fun c => c != '\x7d' && c != ':'
    let named (fallback : List Char) (size : Nat) : Option (String × String × Nat) :=
      some (String.ofList name, String.ofList fallback, size)
    match inner.dropWhile fun c => c != '\x7d' && c != ':' with
    | '\x7d' :: _ => named [] (name.length + 2)
    | ':' :: '-' :: rest =>
      let fallback := rest.takeWhile (· != '\x7d')
      if fallback.length < rest.length then named fallback (name.length + fallback.length + 4)
      else none
    | _ => none
  | _ => none

/-- Text with every reference replaced. The first `skip` characters belong to a reference. -/
def expand (lookup : String → String → String) : (skip : Nat) → List Char → List Char
  | _, [] => []
  | skip + 1, _ :: cs => expand lookup skip cs
  | 0, c :: cs =>
    match if c == '$' then reference? cs else none with
    | some (name, fallback, size) =>
      (lookup name fallback).toList ++ expand lookup size cs
    | none => c :: expand lookup 0 cs

/-- Where references look first. -/
inductive Order where
  | environmentFirst
  | fileFirst
  deriving DecidableEq, Repr

/-- The value that a reference stands for: from the environment or from earlier in the file, or
else the default. -/
def lookup (order : Order) (env : Environment) (earlier : List (String × Option String))
    (name fallback : String) : String :=
  let inEnvironment := env.get? name
  let inFile := (earlier.find? fun v => v.1 == name).map fun v => v.2.getD ""
  let found := match order with
    | .environmentFirst => inEnvironment.orElse fun _ => inFile
    | .fileFirst => inFile.orElse fun _ => inEnvironment
  found.getD fallback

/-- Set a variable of the file: in place if it is there, at the end if not. -/
def put (name : String) (value : Option String) :
    List (String × Option String) → List (String × Option String)
  | [] => [(name, value)]
  | v :: rest => if v.1 == name then (name, value) :: rest else v :: put name value rest

/-- The variables of a file, with references replaced. -/
def bindings (order : Order) (env : Environment) (ss : List Statement) :
    List (String × Option String) :=
  ss.foldl (fun earlier s =>
    match s with
    | .binding name value =>
      put name
        (value.map fun v => String.ofList (expand (lookup order env earlier) 0 v.toList)) earlier
    | _ => earlier) []

/-- The variables of a file that have values. -/
def pairs (order : Order) (env : Environment) (text : List Char) : List (String × String) :=
  (bindings order env (statements text)).filterMap fun v => v.2.map (v.1, ·)

/-- Can an environment hold a variable? Its name holds no equals sign, and neither name nor
text a NUL. -/
def isHoldable (v : String × String) : Bool :=
  !v.1.toList.contains '=' && !v.1.toList.contains '\x00' && !v.2.toList.contains '\x00'

/-- The variables of a file that the environment lacks and can hold, which must be all that it
lacks. -/
def assigned? (env : Environment) (text : List Char) : Option (List (String × String)) :=
  let missing := (pairs .environmentFirst env text).filter fun v => !env.has v.1
  if missing.all isHoldable then some missing else none

/-- The variable of the environment that switches off files of variables. -/
def switch : String := "PYTHON_DOTENV_DISABLED"

/-- Are files of variables switched off? The long s of old prints counts as an s. -/
def isSwitchedOff (env : Environment) : Bool :=
  let word := (Text.lowerString ((env.get? switch).getD "")).map fun c =>
    if c == '\u017f' then 's' else c
  ["1", "true", "t", "yes", "y"].contains word

end Crosslink.Settings.Dotenv
