import Crosslink.Proofs.Settings.Fields
import Crosslink.Settings.Load

/-!
# Extending an environment

The names that a file of variables gives values to do not depend on the environment that its
references look into. An environment that was extended from a file lacks none of them, so that
extending it again changes nothing.
-/

namespace Crosslink

theorem Environment.has_setMissing (env : Environment) (name other value : String) :
    (env.setMissing other value).has name = (env.has name || other == name) := by
  rw [setMissing]
  split
  · rename_i hother
    by_cases h : other = name
    · subst h
      simp [hother]
    · simp [h]
  · simp [has]

/-- An extended environment has the variables that it had and those that were missing. -/
theorem Environment.has_extend (env : Environment) (more : List (String × String))
    (name : String) : (env.extend more).has name = (env.has name || more.any (·.1 == name)) := by
  induction more generalizing env with
  | nil => simp [extend]
  | cons v rest ih =>
    have hrest := ih (env.setMissing v.1 v.2)
    rw [extend] at hrest
    rw [extend, List.foldl_cons, hrest, has_setMissing, List.any_cons, Bool.or_assoc]

namespace Settings

namespace Dotenv

/-- The names of variables, each with whether it has a value. -/
def outline (vs : List (String × Option String)) : List (String × Bool) :=
  vs.map fun v => (v.1, v.2.isSome)

theorem outline_put {name : String} {value value' : Option String}
    {vs vs' : List (String × Option String)} (hvalue : value.isSome = value'.isSome)
    (hvs : outline vs = outline vs') :
    outline (put name value vs) = outline (put name value' vs') := by
  induction vs generalizing vs' with
  | nil =>
    obtain rfl : vs' = [] := List.map_eq_nil_iff.mp hvs.symm
    simp [put, outline, hvalue]
  | cons v rest ih =>
    obtain - | ⟨v', rest'⟩ := vs'
    · simp [outline] at hvs
    · obtain ⟨⟨hname, hsome⟩, hrest⟩ : (v.1 = v'.1 ∧ v.2.isSome = v'.2.isSome) ∧
          outline rest = outline rest' := by simpa [outline] using hvs
      have htail := ih hrest
      rw [put, put, hname]
      split
      · simpa [outline, hvalue] using hrest
      · simpa [outline, hname, hsome] using htail

/-- Which variables a file has does not depend on the environment. -/
theorem outline_bindings (order : Order) (env env' : Environment) (ss : List Statement) :
    outline (bindings order env ss) = outline (bindings order env' ss) := by
  refine List.foldl_rel (r := fun vs vs' => outline vs = outline vs') rfl fun st _ vs vs' hvs => ?_
  cases st with
  | binding name value =>
    refine outline_put ?_ hvs
    cases value <;> rfl
  | comment => exact hvs
  | malformed => exact hvs

theorem names_pairs (order : Order) (env env' : Environment) (text : List Char) :
    (pairs order env text).map (·.1) = (pairs order env' text).map (·.1) := by
  have hnames : ∀ vs : List (String × Option String),
      (vs.filterMap fun v => v.2.map (v.1, ·)).map (·.1) =
        (outline vs).filterMap fun v => if v.2 then some v.1 else none := by
    intro vs
    rw [outline, List.map_filterMap, List.filterMap_map]
    congr 1
    funext v
    rcases v with ⟨name, - | value⟩ <;> rfl
  rw [pairs, pairs, hnames, hnames, outline_bindings order env env']

/-- An environment that was extended by what it lacks of a file lacks nothing of it. -/
theorem assigned?_extend {env : Environment} {text : List Char} {more : List (String × String)}
    (h : assigned? env text = some more) : assigned? (env.extend more) text = some [] := by
  have hmore : more = (pairs .environmentFirst env text).filter fun v => !env.has v.1 := by
    rw [assigned?] at h
    split at h
    · exact (Option.some.inj h).symm
    · cases h
  have hhas : ∀ v ∈ pairs .environmentFirst (env.extend more) text,
      (env.extend more).has v.1 = true := by
    intro v hv
    have hname := List.mem_map_of_mem (f := (·.1)) hv
    rw [names_pairs _ _ env] at hname
    obtain ⟨w, hw, hwv⟩ := List.mem_map.mp hname
    rw [Environment.has_extend, ← hwv, Bool.or_eq_true]
    by_cases hset : env.has w.1 = true
    · exact .inl hset
    · refine .inr (List.any_eq_true.mpr ⟨w, ?_, by simp⟩)
      rw [hmore, List.mem_filter]
      exact ⟨hw, by simpa using hset⟩
  have hnone : (pairs .environmentFirst (env.extend more) text).filter
      (fun v => !(env.extend more).has v.1) = [] :=
    List.filter_eq_nil_iff.mpr fun v hv => by simp [hhas v hv]
  simp [assigned?, hnone]

end Dotenv

/-- Extending an environment again changes nothing. -/
theorem extendFrom_extended {tree : FileTree} {file : Path} {env extended : Environment}
    (h : extendFrom tree file env = .ok extended) :
    extendFrom tree file extended = .ok extended := by
  obtain ⟨found, hlook, h⟩ := bind_eq_ok_iff.mp h
  refine bind_eq_ok_iff.mpr ⟨found, hlook, ?_⟩
  split at h
  · rename_i hoff
    obtain rfl : env = extended := by simpa [pure, Except.pure] using h
    simp [hoff, pure, Except.pure]
  · obtain ⟨text, htext, h⟩ := bind_eq_ok_iff.mp h
    split at h
    · rename_i more hmore
      obtain rfl : env.extend more = extended := by simpa [pure, Except.pure] using h
      split
      · rfl
      · refine bind_eq_ok_iff.mpr ⟨text, htext, ?_⟩
        rw [Dotenv.assigned?_extend hmore]
        rfl
    · cases h

end Settings

end Crosslink
