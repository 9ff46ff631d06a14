import Crosslink.Environment
import Crosslink.Error
import Crosslink.Text.Blank

/-!
# Home directories

A path whose first name is a tilde lies in the home directory, and one whose first name is a
tilde with the name of the superuser lies in that user's. Homes of other users are not known, nor
is a home that is itself given with a tilde.
-/

namespace Crosslink.Settings

/-- The home directory of the superuser, who is the user unless the environment says more. -/
def superuserHome : String := "/root"

/-- The home directory, without slashes at its end. -/
def home (env : Environment) : String :=
  Text.stripEnd '/' ((env.get? "HOME").getD superuserHome)

/-- A path with the home directory in place of a tilde. -/
def expandHome (env : Environment) (p : Path) : Except Fault Path :=
  if p.isAbsolute then .ok p
  else
    match p.segments with
    | "~" :: rest =>
      let base := home env
      if base.startsWith "~" then .error .unknownHome
      else .ok ((Path.ofString (if base == "" then "/" else base)).join ⟨.relative, rest⟩)
    | "~root" :: rest => .ok ((Path.ofString superuserHome).join ⟨.relative, rest⟩)
    | name :: _ => if name.startsWith "~" then .error .unknownHome else .ok p
    | [] => .ok p

/-- A path without a tilde is left as it is. -/
theorem expandHome_of_absolute {p : Path} (h : p.isAbsolute = true) (env : Environment) :
    expandHome env p = .ok p := by simp [expandHome, h]

end Crosslink.Settings
