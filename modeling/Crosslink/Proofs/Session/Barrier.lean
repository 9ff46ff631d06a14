import Crosslink.Proofs.Session.Consistency
import Crosslink.Proofs.Session.InPlace

/-!
# The barrier between the phases

What one operation can do to the registry, said once for each kind of operation, and what follows
from it for whole histories: records are written only while the registry is open and identifiers
looked up only while it is frozen, and an operation that comes too early or too late is refused
before it has changed anything.
-/

namespace Crosslink

/-- An open registry changed in its records. -/
abbrev Registry.withRecords (r : Registry) (records : List Record) : Registry := { r with records }

/-- What ends a strict build does not come in the wrong phase. -/
theorem Session.category_of_verdict {strict : Bool} {is : List Issue} {e : Error}
    (h : verdict strict is = .error (.error e)) : e.category ≠ .phaseOrder := by
  obtain ⟨-, i, -, he⟩ := verdict_eq_error_iff.mp h
  obtain rfl := Failure.error.inj he
  intro hcategory
  cases hcategory

/-- No page fails to be registered because of the phase. -/
theorem Registered.category_ofPage {policy : Policy} {metadata : Fields} {location : Path}
    {r : Registry} {e : Error}
    (h : (ofPage policy metadata location r).outcome = .error (.error e)) :
    e.category ≠ .phaseOrder := by
  rw [ofPage] at h
  cases hpath : Location.canonical policy.contentRoot location with
  | error e' =>
    simp only [hpath] at h
    obtain rfl : e' = e := by simpa using h
    rw [Location.of_canonical_error hpath]
    intro hcategory
    cases hcategory
  | ok path =>
    simp only [hpath] at h
    cases hid : declaredIdentifier metadata with
    | error f => simp [hid] at h
    | ok identifier? =>
      simp only [hid] at h
      cases identifier? with
      | none => exact Session.category_of_verdict h
      | some identifier =>
        cases htitle : declaredTitle metadata with
        | error f => simp [htitle] at h
        | ok title =>
          simp only [htitle, declared] at h
          split at h
          · rename_i f hv
            cases h
            exact Session.category_of_verdict hv
          · cases h

namespace Session

/-- The operations that write records and do nothing else. -/
inductive Step.Writes : Step → Prop
  | put (record : Record) : Writes (.put record)
  | removePath (path : String) (keep : Option String) : Writes (.removePath path keep)
  | prune : Writes .prune

/-- Is the operation the beginning of a generation? -/
def Step.isBegin : Step → Bool
  | .begin => true
  | _ => false

/-- How an operation on a registry can end, and the registry that it leaves. -/
inductive Effect (r : Registry) : Step → Except Failure Answer → Registry → Prop
  | begin : Effect r .begin (.ok (.generation r.begin.generation)) r.begin
  | freeze : Effect r .freeze (.ok .nothing) r.freeze
  | written {st : Step} (hopen : r.frozen = false) (hst : st.Writes) (a : Answer)
      (records : List Record) : Effect r st (.ok a) (r.withRecords records)
  | refused {st : Step} (hfrozen : r.frozen = true) (hst : st.Writes) :
      Effect r st (.error (.error .registryFrozen)) r
  | registered {metadata : Fields} {location : Path} (hopen : r.frozen = false)
      {outcome : Except Failure Answer}
      (h : ∀ e, outcome = .error (.error e) → e.category ≠ .phaseOrder) (records : List Record) :
      Effect r (.register metadata location) outcome (r.withRecords records)
  | unregistered {metadata : Fields} {location : Path} (hfrozen : r.frozen = true) (f : Failure) :
      Effect r (.register metadata location) (.error f) r
  /-- All other operations leave the registry alone. -/
  | other {st : Step} (hbegin : st.isBegin = false) (hst : ¬ st.Writes)
      (hregister : ∀ metadata location, st ≠ .register metadata location)
      (outcome : Except Failure Answer) : Effect r st outcome r

/-- The outcome of what comes in the wrong phase. -/
def OutOfPhase {α : Type} (outcome : Except Failure α) : Prop :=
  ∃ e : Error, outcome = .error (.error e) ∧ e.category = .phaseOrder

namespace Effect

variable {r r' : Registry} {st : Step} {outcome : Except Failure Answer}

/-- No operation changes the records of a frozen registry. -/
theorem records_eq (h : Effect r st outcome r') (hfrozen : r.frozen = true) :
    r'.records = r.records := by
  cases h with
  | written hopen => simp [hopen] at hfrozen
  | registered hopen => simp [hopen] at hfrozen
  | _ => rfl

/-- A frozen registry stays as it is until a generation begins. -/
theorem eq_of_frozen (h : Effect r st outcome r') (hfrozen : r.frozen = true)
    (hbegin : st.isBegin = false) : r' = r := by
  cases h with
  | begin => cases hbegin
  | freeze => rw [Registry.freeze, ← hfrozen]
  | written hopen => simp [hopen] at hfrozen
  | registered hopen => simp [hopen] at hfrozen
  | _ => rfl

/-- The generation counts the operations that begin one. -/
theorem generation_eq (h : Effect r st outcome r') :
    r'.generation = r.generation + if st.isBegin then 1 else 0 := by
  cases h with
  | written hopen hst => cases hst <;> rfl
  | refused hfrozen hst => cases hst <;> rfl
  | other hbegin => simp [hbegin]
  | _ => rfl

/-- A frozen registry refuses every write. -/
theorem outOfPhase (h : Effect r st outcome r') (hfrozen : r.frozen = true)
    (hst : st.Writes) : OutOfPhase outcome := by
  cases h with
  | begin => cases hst
  | freeze => cases hst
  | written hopen => simp [hopen] at hfrozen
  | refused => exact ⟨_, rfl, rfl⟩
  | registered => cases hst
  | unregistered => cases hst
  | other _ hwrites => exact absurd hst hwrites

/-- No page is registered in a frozen registry. -/
theorem register_fails {metadata : Fields} {location : Path}
    (h : Effect r (.register metadata location) outcome r') (hfrozen : r.frozen = true) :
    ∃ f, outcome = .error f := by
  cases h with
  | written _ hst => cases hst
  | refused _ hst => cases hst
  | registered hopen => simp [hopen] at hfrozen
  | unregistered _ f => exact ⟨f, rfl⟩
  | other _ _ hregister => exact absurd rfl (hregister metadata location)

/-- What comes in the wrong phase leaves the registry exactly as it was. -/
theorem eq_of_outOfPhase (h : Effect r st outcome r') (houtcome : OutOfPhase outcome) :
    r' = r := by
  obtain ⟨e, rfl, he⟩ := houtcome
  cases h with
  | registered _ hphase => exact absurd he (hphase e rfl)
  | _ => rfl

end Effect

/-- Resolving several links leaves the registry alone. -/
theorem registry_resolveLinks (policy : Policy) (file : Path) (links : List Link) (s : Session) :
    (s.perform (resolveLinks policy file links)).2.registry = s.registry := by
  induction links generalizing s with
  | nil => rfl
  | cons l rest ih =>
    have hfirst := registry_resolveTarget policy s (.ofString l.url) file l
    rw [resolveLinks, perform_bind]
    rcases hl : s.perform (resolveTarget policy (.ofString l.url) file l) with ⟨f | outcome, s'⟩ <;>
      rw [hl] at hfirst
    · exact hfirst
    · have hrest := ih s'
      simp only [perform_bind]
      rcases hr : s'.perform (resolveLinks policy file rest) with ⟨f | x, s''⟩ <;>
        rw [hr] at hrest <;> exact hrest.trans hfirst

/-- A write has its effect in an open registry and is refused by a frozen one. -/
theorem effect_write {st : Step} {α : Type} {f : Registry → Except Error (α × Registry)}
    {answer : Registry → α} {records : Registry → List Record} {g : α → Answer}
    (hst : st.Writes) (hf : ∀ r : Registry, f r = r.change (answer r) (records r)) (s : Session) :
    Effect s.registry st ((s.perform (changeRegistry f)).1.map g)
      (s.perform (changeRegistry f)).2.registry := by
  rw [perform_changeRegistry, hf]
  cases hfrozen : s.registry.frozen with
  | true =>
    rw [Registry.change_of_frozen hfrozen]
    exact .refused hfrozen hst
  | false =>
    rw [Registry.change, if_neg (by simp [hfrozen])]
    exact .written hfrozen hst (g (answer s.registry)) (records s.registry)

/-- Pruning is a write, also where it is told to the log. -/
theorem effect_prune (s : Session) :
    Effect s.registry .prune ((s.perform prune).1.map .identifiers)
      (s.perform prune).2.registry := by
  cases hfrozen : s.registry.frozen with
  | true =>
    have hp : s.perform prune = (.error (.error .registryFrozen), s) := by
      rw [prune, perform_bind, perform_changeRegistry, Registry.prune, Registry.removeWhere,
        Registry.change_of_frozen hfrozen]
    rw [hp]
    exact .refused hfrozen .prune
  | false =>
    obtain ⟨names, log, hp⟩ := gives_prune hfrozen
    rw [hp]
    exact .written hfrozen .prune (.identifiers names) s.registry.pruned.records

/-- A page is registered in an open registry alone. -/
theorem effect_register (policy : Policy) (metadata : Fields) (location : Path) (s : Session) :
    Effect s.registry (.register metadata location)
      ((s.perform (register policy metadata location)).1.map fun _ => .metadata metadata)
      (s.perform (register policy metadata location)).2.registry := by
  cases hfrozen : s.registry.frozen with
  | true =>
    obtain ⟨f, issues, log, hr⟩ := gives_register_of_frozen policy hfrozen metadata location
    rw [hr]
    exact .unregistered hfrozen f
  | false =>
    obtain ⟨log, hr⟩ := gives_register policy hfrozen metadata location
    rw [hr]
    have hrecords : (Registered.ofPage policy metadata location s.registry).registry =
        s.registry.withRecords
          (Registered.ofPage policy metadata location s.registry).registry.records := by
      have hf := Registered.frozen_ofPage policy metadata location s.registry
      have hg := Registered.generation_ofPage policy metadata location s.registry
      cases hregistry : (Registered.ofPage policy metadata location s.registry).registry
      rw [hregistry] at hf hg
      simp_all [Registry.withRecords]
    rw [hrecords]
    refine .registered hfrozen (fun e he => ?_) _
    cases ho : (Registered.ofPage policy metadata location s.registry).outcome with
    | ok _ => simp [ho, Except.map] at he
    | error f =>
      simp only [ho, Except.map, Except.error.injEq] at he
      exact Registered.category_ofPage (ho.trans (congrArg _ he))

/-- What an operation does to the registry, and how it can end. -/
theorem effect_step (policy : Policy) (s : Session) (st : Step) :
    Effect s.registry st (step policy s st).1 (step policy s st).2.registry := by
  -- an operation that only reads leaves the registry alone, whatever its outcome
  have hother : ∀ {st : Step}, st.isBegin = false → ¬ st.Writes →
      (∀ metadata location, st ≠ .register metadata location) →
      (step policy s st).2.registry = s.registry →
      Effect s.registry st (step policy s st).1 (step policy s st).2.registry := by
    intro st hbegin hwrites hregister hsame
    rw [hsame]
    exact .other hbegin hwrites hregister _
  cases st with
  | begin => exact .begin
  | freeze => exact .freeze
  | prune =>
    rw [step, Step.action, perform_map]
    exact effect_prune { s with log := [] }
  | register metadata location =>
    rw [step, Step.action, ← map_eq_pure_bind, perform_map]
    exact effect_register policy metadata location { s with log := [] }
  | put record =>
    rw [step, Step.action, perform_map]
    exact effect_write (.put record) (fun _ => rfl) { s with log := [] }
  | removePath path keep =>
    rw [step, Step.action, perform_map]
    exact effect_write (.removePath path keep) (fun _ => rfl) { s with log := [] }
  | lookup identifier =>
    refine hother rfl (by rintro ⟨⟩) (by rintro _ _ ⟨⟩) ?_
    rw [step, Step.action, perform_bind, perform_get]
    simp only [perform_bind, perform_require]
    rcases s.registry.lookup identifier with e | record <;> rfl
  | resolve target file l =>
    refine hother rfl (by rintro ⟨⟩) (by rintro _ _ ⟨⟩) ?_
    rw [step, Step.action, ← map_eq_pure_bind, perform_map]
    exact registry_resolveTarget policy { s with log := [] } target file l
  | resolveLinks file links =>
    refine hother rfl (by rintro ⟨⟩) (by rintro _ _ ⟨⟩) ?_
    have hlinks := registry_resolveLinks policy file links { s with log := [] }
    rw [step, Step.action, ← map_eq_pure_bind, perform_map, resolvePage, perform_bind]
    rcases hr : perform { s with log := [] } (resolveLinks policy file links) with ⟨f | x, t⟩ <;>
      rw [hr] at hlinks <;> exact hlinks
  | report issue =>
    refine hother rfl (by rintro ⟨⟩) (by rintro _ _ ⟨⟩) ?_
    rw [step, Step.action, perform_bind]
    cases policy.strict <;> rfl
  | _ => exact hother rfl (by rintro ⟨⟩) (by rintro _ _ ⟨⟩) rfl

/-- An identifier cannot be looked up in an open registry, and nothing changes. -/
theorem step_lookup_of_open {s : Session} (hopen : s.registry.frozen = false) (policy : Policy)
    (identifier : String) :
    step policy s (.lookup identifier) =
      (.error (.error (.registryOpen identifier)), { s with log := [] }) := by
  rw [step, Step.action, perform_bind, perform_get]
  simp [perform_map, perform_require, Registry.lookup, hopen, Except.mapError, Except.map]

/-- A link to an identifier cannot be resolved in an open registry, and nothing changes. -/
theorem perform_resolveTarget_of_open {s : Session} (hopen : s.registry.frozen = false)
    (policy : Policy) (identifier : String) (anchor : Option String) (file : Path) (l : Link) :
    s.perform (resolveTarget policy (.reference identifier anchor) file l) =
      (.error (.error (.registryOpen identifier)), s) := by
  rw [resolveTarget]
  simp [perform_bind, perform_require, Resolution.ofTarget, Registry.lookup, hopen, Except.map,
    Except.mapError]

/-- Nor can it be resolved in place: the link stays as it is, too. -/
theorem perform_resolve_of_open {s : Session} (hopen : s.registry.frozen = false)
    (policy : Policy) (identifier : String) (anchor : Option String) (file : Path) (l : Link) :
    LinkAction.perform (s, l) (.resolve policy (.reference identifier anchor) file) =
      (.error (.error (.registryOpen identifier)), s, l) := by
  rw [LinkAction.perform_resolve, perform_resolveTarget_of_open hopen]
  simp [Resolution.ofTarget, Registry.lookup, hopen, Except.map, Except.toOption]

/-- The first link to an identifier ends the resolution of a page in an open registry; what the
links before it have done stays. -/
theorem perform_resolveLinks_of_open {s t : Session} (hopen : s.registry.frozen = false)
    (policy : Policy) {file : Path} {settled rest : List Link} {l : Link} {identifier : String}
    {anchor : Option String} (htarget : Target.ofString l.url = .reference identifier anchor)
    {x : List Link × Nat} (hsettled : s.perform (resolveLinks policy file settled) = (.ok x, t)) :
    s.perform (resolveLinks policy file (settled ++ l :: rest)) =
      (.error (.error (.registryOpen identifier)), t) := by
  induction settled generalizing s x with
  | nil =>
    obtain ⟨-, rfl⟩ := Prod.mk.inj hsettled
    rw [List.nil_append, resolveLinks, perform_bind, htarget,
      perform_resolveTarget_of_open hopen]
  | cons m settled ih =>
    have hregistry := registry_resolveTarget policy s (.ofString m.url) file m
    rw [resolveLinks, perform_bind] at hsettled
    rw [List.cons_append, resolveLinks, perform_bind]
    rcases hm : s.perform (resolveTarget policy (.ofString m.url) file m) with ⟨f | o, s'⟩
    · simp [hm] at hsettled
    · rw [hm] at hregistry
      simp only [hm, perform_bind] at hsettled ⊢
      rcases hr : s'.perform (resolveLinks policy file settled) with ⟨f | y, t'⟩
      · simp [hr] at hsettled
      · simp only [hr, perform_pure, Prod.mk.injEq] at hsettled
        rw [ih (hregistry.symm ▸ hopen) (hsettled.2 ▸ hr)]

/-- A frozen registry outlasts every history in which no generation begins. -/
theorem registry_runEach_of_frozen {s : Session} (hfrozen : s.registry.frozen = true)
    {history : List (Policy × Step)} (hbegin : ∀ e ∈ history, e.2.isBegin = false) :
    (runEach s history).registry = s.registry := by
  induction history generalizing s with
  | nil => rfl
  | cons e rest ih =>
    have hstep := (effect_step e.1 s e.2).eq_of_frozen hfrozen (hbegin e List.mem_cons_self)
    rw [runEach, ih (hstep.symm ▸ hfrozen) fun e he => hbegin e (List.mem_cons_of_mem _ he), hstep]

/-- The generation after a history counts the generations begun in it. -/
theorem generation_runEach (s : Session) (history : List (Policy × Step)) :
    (runEach s history).registry.generation =
      s.registry.generation + history.countP fun e => e.2.isBegin := by
  induction history generalizing s with
  | nil => rfl
  | cons e rest ih =>
    have hstep := (effect_step e.1 s e.2).generation_eq
    rw [runEach, ih, hstep, List.countP_cons]
    omega

/-- The barrier between the phases, after every history of a session. While the registry is
frozen its records stay: writes come in the wrong phase, pages are not registered, and all of it
stays until a generation begins. While it is open, a look-up and a link to an identifier come in
the wrong phase and change neither session nor link, also within a page. Beginning a generation
opens the registry and counts; nothing else counts. What comes in the wrong phase leaves the
registry as it was. -/
theorem freeze_barrier (s : Session) (history : List (Policy × Step)) (policy : Policy) :
    let t := runEach s history
    (t.registry.frozen = true →
      (∀ st, (step policy t st).2.registry.records = t.registry.records) ∧
      (∀ st, st.Writes → OutOfPhase (step policy t st).1) ∧
      (∀ metadata location, ∃ f, (step policy t (.register metadata location)).1 = .error f) ∧
      ∀ later, (∀ e ∈ later, e.2.isBegin = false) →
        (runEach t later).registry = t.registry) ∧
    (t.registry.frozen = false → ∀ identifier,
      OutOfPhase (step policy t (.lookup identifier)).1 ∧
      (step policy t (.lookup identifier)).2 = { t with log := [] } ∧
      ∀ anchor file l,
        OutOfPhase (step policy t (.resolve (.reference identifier anchor) file l)).1 ∧
        (step policy t (.resolve (.reference identifier anchor) file l)).2 = { t with log := [] } ∧
        LinkAction.perform (t, l) (.resolve policy (.reference identifier anchor) file) =
          (.error (.error (.registryOpen identifier)), t, l) ∧
        (Target.ofString l.url = .reference identifier anchor → ∀ settled rest x u,
          t.perform (resolveLinks policy file settled) = (.ok x, u) →
          t.perform (resolveLinks policy file (settled ++ l :: rest)) =
            (.error (.error (.registryOpen identifier)), u))) ∧
    (step policy t .begin).2.registry =
      { t.registry with frozen := false, generation := t.registry.generation + 1 } ∧
    (∀ st, st.isBegin = false →
      (step policy t st).2.registry.generation = t.registry.generation) ∧
    t.registry.generation = s.registry.generation + history.countP (fun e => e.2.isBegin) ∧
    ∀ st, OutOfPhase (step policy t st).1 → (step policy t st).2.registry = t.registry := by
  intro t
  have heffect := effect_step policy t
  refine ⟨fun hfrozen => ?frozen, fun hopen identifier => ?opened, rfl,
    fun st hbegin => ?generation, generation_runEach s history, fun st => (heffect st).eq_of_outOfPhase⟩
  case frozen =>
    exact ⟨fun st => (heffect st).records_eq hfrozen,
      fun st hst => (heffect st).outOfPhase hfrozen hst,
      fun metadata location => (heffect _).register_fails hfrozen,
      fun later hbegin => registry_runEach_of_frozen hfrozen hbegin⟩
  case opened =>
    have hlookup := step_lookup_of_open hopen policy identifier
    refine ⟨⟨_, congrArg Prod.fst hlookup, rfl⟩, congrArg Prod.snd hlookup, fun anchor file l => ?_⟩
    have hresolve : step policy t (.resolve (.reference identifier anchor) file l) =
        (.error (.error (.registryOpen identifier)), { t with log := [] }) := by
      rw [step, Step.action, perform_bind,
        perform_resolveTarget_of_open (s := { t with log := [] }) hopen]
    exact ⟨⟨_, congrArg Prod.fst hresolve, rfl⟩, congrArg Prod.snd hresolve,
      perform_resolve_of_open hopen policy identifier anchor file l,
      fun htarget settled rest x u hsettled =>
        perform_resolveLinks_of_open hopen policy htarget hsettled⟩
  case generation => simpa [hbegin] using (heffect st).generation_eq

/-- The site of the sample is frozen after eight operations: a page that comes then is not
registered, and pruning comes in the wrong phase. -/
theorem freeze_barrier_sample :
    (runEach .empty (Sample.history.take 8)).registry.frozen = true ∧
    (∃ f, (step (Sample.policy true) (runEach .empty (Sample.history.take 8))
      (Sample.page "late" "e.md")).1 = .error f) ∧
    OutOfPhase (step (Sample.policy false) (runEach .empty (Sample.history.take 8)) .prune).1 := by
  have hfrozen : (runEach .empty (Sample.history.take 8)).registry.frozen = true := by
    decide +kernel
  have hstrict := (freeze_barrier .empty (Sample.history.take 8) (Sample.policy true)).1 hfrozen
  have hlenient := (freeze_barrier .empty (Sample.history.take 8) (Sample.policy false)).1 hfrozen
  exact ⟨hfrozen, hstrict.2.2.1 _ _, hlenient.2.1 .prune .prune⟩

end Session

end Crosslink
