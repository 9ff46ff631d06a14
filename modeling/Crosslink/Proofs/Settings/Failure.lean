import Crosslink.Proofs.Except
import Crosslink.Settings.Load

/-!
# Errors of settings

Loading settings fails with a fault or with an error of the settings, and with no other error.
-/

namespace Crosslink.Settings

/-- No part of reading entries fails with an error of another kind. -/
theorem category_of_readEntries {tree : FileTree} {file : Path} {e : Error}
    (h : readEntries tree file = .error (.error e)) : e.category = .configuration := by
  rw [readEntries] at h
  split at h
  · cases h
  · cases h
  rcases bind_eq_error_iff.mp h with htext | ⟨text, -, h⟩
  · rcases hr : readText tree file with f | text <;> rw [hr] at htext <;> cases htext
  rcases bind_eq_error_iff.mp h with hvalue | ⟨value, -, h⟩
  · rcases hv : Yaml.load .settings text with f | value <;> rw [hv] at hvalue
    · cases f <;> cases hvalue
      rfl
    · cases hvalue
  · unfold mappingOf at h
    split at h
    · cases h
    · split at h <;> cases h
      rfl

/-- Errors of loading settings are of the category of settings. -/
theorem category_of_load {env : Environment} {tree : FileTree} {file : Path}
    {envFile : Option Path} {wishes : Fields} {e : Error}
    (h : (load env tree file envFile wishes).2 = .error (.error e)) :
    e.category = .configuration := by
  rw [load] at h
  rcases hx : extendFrom tree (envFile.getD (variablesFile file)) env with f | extended <;>
    rw [hx] at h
  · cases h
  rcases bind_eq_error_iff.mp h with hvars | ⟨vars, -, h⟩
  · rcases hv : Variables.ofEnvironment extended tree with f | vars <;> rw [hv] at hvars
    · cases f <;> cases hvars
      rfl
    · cases hvars
  rcases bind_eq_error_iff.mp h with hentries | ⟨entries, -, h⟩
  · exact category_of_readEntries hentries
  split at h
  · cases h
    rfl
  · rename_i c _
    rcases hc : ofConfiguration extended tree vars.build file c with f | s <;> rw [hc] at h <;>
      cases h

end Crosslink.Settings
