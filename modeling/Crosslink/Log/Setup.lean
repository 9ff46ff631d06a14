import Crosslink.Log
import Crosslink.Settings.Home

/-!
# Where messages go

Messages at or above the threshold go to the console. A log file, if one is wanted, takes
messages of every level; it is kept in a directory of the user's unless the settings name
another place.
-/

namespace Crosslink.Log

/-- A place that messages go to. -/
inductive Sink where
  /-- The console with columns for level and text. -/
  | console
  /-- The console with plain lines. -/
  | plainConsole
  | file
  deriving DecidableEq, Repr

/-- The least weight of messages that are made at all, and of those that each sink takes. -/
structure Setup where
  threshold : Nat
  sinks : List (Sink × Nat)
  deriving DecidableEq, Repr

/-- Open a log file: it is made, with its directory, if it does not exist. -/
def openFile (tree : FileTree) (file : Path) : FileTree × Except TreeFault Unit :=
  match tree.makeDirectory file.parent with
  | (tree, .error f) => (tree, .error f)
  | (tree, .ok ()) =>
    match tree.entry? file with
    | some (.file _) => (tree, .ok ())
    | some .directory => (tree, .error .isDirectory)
    | none =>
      match tree.write file [] with
      | .ok tree => (tree, .ok ())
      | .error f => (tree, .error f)

/-- Where messages go for a threshold of the console and an optional log file. -/
def setup (threshold : Nat) (styled : Bool) (hasFile : Bool) : Setup :=
  let console := (if styled then Sink.console else .plainConsole, threshold)
  if hasFile then ⟨Level.debug.number, [console, (.file, Level.debug.number)]⟩
  else ⟨threshold, [console]⟩

/-- A directory below another one. -/
def below (base name : String) : String :=
  if base.endsWith "/" then base ++ name else base ++ "/" ++ name

/-- The directory of log files: the one that a variable names, or one among the user's
state files, whose place a variable may give as an absolute path. -/
def directory (env : Environment) : Except Fault Path :=
  let named := (env.get? "DOCREF_LOG_DIR").getD ""
  if named != "" then Settings.expandHome env (Path.ofString named)
  else
    let state := (env.get? "XDG_STATE_HOME").getD ""
    let base := if state.startsWith "/" then state else Settings.home env ++ "/.local/state"
    .ok (Path.ofString (below base "docref/log"))

/-- The directory of log files, made if it does not exist. -/
def ensureDirectory (env : Environment) (tree : FileTree) : FileTree × Except Fault Path :=
  match directory env with
  | .error f => (tree, .error f)
  | .ok dir =>
    match tree.makeDirectory dir with
    | (tree, .ok ()) => (tree, .ok dir)
    | (tree, .error f) => (tree, .error (.files f))

/-- The log file in a directory. -/
def defaultFile (dir : Path) : Path := dir.join ⟨.relative, ["docref.log"]⟩

end Crosslink.Log
