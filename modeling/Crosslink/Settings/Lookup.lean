import Crosslink.Settings.Dotenv
import Crosslink.Settings.Home
import Crosslink.Settings.TextFile
import Crosslink.Text.LowerCase

/-!
# Looking up single settings

A single setting comes from a variable of the environment, else from a file of variables, else
from a file of its own in a directory of secrets. A part of the settings may say, beside its
members, how its single settings are named, compared and found.
-/

namespace Crosslink.Settings

/-- How single settings are looked up. -/
structure Lookup where
  /-- What the names of variables begin with. -/
  leading : String
  /-- Are names compared as they are written, or without regard to case? -/
  exact : Bool
  /-- Do variables without text count as missing? -/
  skipsEmpty : Bool
  /-- The text that stands for null, if there is one. -/
  nullText : Option String
  /-- Files of variables, later ones weighing more. -/
  files : List Path
  /-- Directories of secrets, later ones weighing more. -/
  directories : List Path
  deriving DecidableEq, Repr

namespace Lookup

/-- The lookup that nobody has changed. -/
def plain (leading : String) : Lookup := ⟨leading, false, false, none, [], []⟩

/-- A name as it is compared. -/
def key (l : Lookup) (name : String) : String := if l.exact then name else Text.lowerString name

/-- The value of a variable's text. -/
def valueOf (l : Lookup) (text : String) : Value :=
  if l.nullText == some text then .null else .text text

/-- The value of a variable; of several with the same name, the last one. -/
def inVariables? (l : Lookup) (vars : List (String × String)) (name : String) : Option Value :=
  let present := vars.filter fun v => !(l.skipsEmpty && v.2 == "")
  (present.reverse.find? fun v => l.key v.1 == l.key name).map fun v => l.valueOf v.2

/-- The text of a secret in a directory. -/
def inDirectory? (l : Lookup) (tree : FileTree) (name : String) (directory : Path) :
    Option Value := do
  let names ← (tree.locate directory).toOption
  let (_, bytes) ← (tree.filesBelow names).find? fun f =>
    match f.1 with
    | [file] => l.key file == l.key name
    | _ => false
  match Text.Utf8.decode bytes with
  | .ok cs => some (.text (String.ofList (Text.trim (Text.unifyBreaks cs))))
  | .error _ => none

/-- The variables of the files. -/
def fileVariables (l : Lookup) (env : Environment) (tree : FileTree) :
    Except Fault (List (String × String)) := do
  let groups ← l.files.mapM fun file => do
    let file ← expandHome env file
    return Dotenv.pairs .fileFirst env (← variablesText tree file)
  return groups.flatten

/-- All single settings by the names of their variables. -/
def settings (l : Lookup) (env : Environment) (tree : FileTree) :
    Except Fault (String → Option Value) := do
  let fromFiles ← l.fileVariables env tree
  let directories ← l.directories.mapM (expandHome env)
  return fun name =>
    ((l.inVariables? env.entries name).orElse fun _ => l.inVariables? fromFiles name).orElse
      fun _ => directories.reverse.findSome? (l.inDirectory? tree name)

/-- A path or several of them. -/
def pathsOf : Value → Except Fault (List Path)
  | .text s => .ok [Path.ofString s]
  | .list items => items.mapM fun v =>
    match v with
    | .text s => .ok (Path.ofString s)
    | _ => .error .wrongKind
  | _ => .error .wrongKind

/-- What a member says, unless it is missing or null. -/
def option? (entries : List (Value × Value)) (name : String) : Option Value :=
  match Value.lookup? name entries with
  | some .null => none
  | v => v

/-- Is a member there that counts as true? -/
def isChosen (entries : List (Value × Value)) (name : String) : Bool :=
  (option? entries name).any fun v => !v.isVoid

/-- The lookup that the members of a part ask for. -/
def ofMembers (leading : String) (entries : List (Value × Value)) : Except Fault Lookup := do
  let leading ← match option? entries "_env_prefix" with
    | none => pure leading
    | some (.text s) => pure s
    | some _ => throw .wrongKind
  let paths (name : String) : Except Fault (List Path) :=
    match option? entries name with
    | none => .ok []
    | some v => pathsOf v
  return {
    leading
    exact := isChosen entries "_case_sensitive"
    skipsEmpty := isChosen entries "_env_ignore_empty"
    nullText := match option? entries "_env_parse_none_str" with
      | some (.text s) => some s
      | _ => none
    files := ← paths "_env_file"
    directories := ← paths "_secrets_dir" }

end Lookup

end Crosslink.Settings
