import Crosslink.Settings.Basic
import Crosslink.Settings.Dotenv

/-!
# Loading settings

Before settings are made, a file of variables beside the configuration file fills in what
the environment lacks. What it sets stays set, whatever becomes of the settings.
-/

namespace Crosslink.Settings

/-- The configuration file of a caller who names none. -/
def defaultFile : Path := ⟨.relative, ["docref.yaml"]⟩

/-- The file of variables that goes with a configuration file. -/
def variablesFile (configFile : Path) : Path := configFile.parent.join ⟨.relative, [".env"]⟩

/-- The environment with what a file of variables adds to it. -/
def extendFrom (tree : FileTree) (file : Path) (env : Environment) : Except Fault Environment := do
  let _ ← (tree.look file).mapError .files
  if Dotenv.isSwitchedOff env then return env
  match Dotenv.assigned? env (← variablesText tree file) with
  | some more => return env.extend more
  | none => throw .unholdableVariable

/-- Load settings, and say what the environment has become. -/
def load (env : Environment) (tree : FileTree) (configFile : Path) (envFile : Option Path)
    (wishes : Fields) : Environment × Except Failure Settings :=
  match extendFrom tree (envFile.getD (variablesFile configFile)) env with
  | .error f => (env, .error (.fault f))
  | .ok extended => (extended, ofEnvironment extended tree configFile wishes)

end Crosslink.Settings
