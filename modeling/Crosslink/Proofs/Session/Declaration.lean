import Mathlib.Data.List.Forall2
import Crosslink.Proofs.Session.Agreement

/-!
# Declarations

What registration reads of a page, and what a permissive first phase comes to for a list of
declarations in the order of registration. A record stands as long as no later declaration has
its identifier or its path, whatever earlier generations have left behind. A declaration is
reported when the record that its identifier still has belongs to another path.
-/

namespace Crosslink

/-- What registration reads of a page. -/
structure Declaration where
  file : Path
  /-- The canonical path of the page. -/
  path : String
  /-- The identifier that the page declares, if it declares one. -/
  identifier : Option String
  /-- The title that goes with an identifier. -/
  title : Option String
  deriving DecidableEq, Repr

namespace Declaration

/-- Read a page. The title of a page without an identifier is not looked at. -/
def ofPage (policy : Policy) (page : Page) : Except Failure Declaration := do
  let path ← (Location.canonical policy.contentRoot page.sourceFile).mapError .error
  match ← (declaredIdentifier page.metadata).mapError .fault with
  | none => return ⟨page.sourceFile, path, none, none⟩
  | some identifier =>
    let title ← (declaredTitle page.metadata).mapError .fault
    return ⟨page.sourceFile, path, some identifier, title⟩

/-- Read pages in the order in which they are registered. -/
def ofPages (policy : Policy) (pages : List Page) : Except Failure (List Declaration) :=
  (Build.registrationOrder pages).mapM (ofPage policy)

/-- The record of a declaration, if it declares an identifier. -/
def record? (d : Declaration) (generation : Nat) : Option Record :=
  d.identifier.map fun identifier => ⟨identifier, d.path, d.file, d.title, generation⟩

/-- No later declaration has the identifier or the path. -/
def Endures (d : Declaration) (later : List Declaration) : Prop :=
  ∀ e ∈ later, e.identifier ≠ d.identifier ∧ e.path ≠ d.path

/-- The record is that of one of the declarations, which endures the later ones. -/
def Stands (generation : Nat) (ds : List Declaration) (x : Record) : Prop :=
  ∃ earlier d later, ds = earlier ++ d :: later ∧ d.Endures later ∧
    d.record? generation = some x

/-- An earlier declaration has the same identifier at another path, and has endured so far. -/
def Clashes (before : List Declaration) (d g : Declaration) : Prop :=
  g.identifier = d.identifier ∧ g.path ≠ d.path ∧
    ∃ earlier between, before = earlier ++ g :: between ∧ g.Endures between

/-- The issues that a declaration causes after some others. -/
inductive Reports (policy : Policy) (before : List Declaration) (d : Declaration) :
    List Issue → Prop
  | missing (hd : d.identifier = none) (hp : policy.missingIdentifier = .error) :
      Reports policy before d
        [Issue.ofPage .missingIdentifier "File declares no globalReference" d.file]
  | tolerated (hd : d.identifier = none) (hp : policy.missingIdentifier ≠ .error) :
      Reports policy before d []
  | duplicate {identifier : String} {g : Declaration} (hd : d.identifier = some identifier)
      (hg : Clashes before d g) :
      Reports policy before d [{
        kind := .duplicateIdentifier
        message := "Identifier " ++ Text.quoted identifier ++ " is already declared by "
          ++ g.file.toString ++ " (" ++ g.path ++ ")"
        sourceFile := d.file
        line := none
        column := none
        target := some identifier
        relatedFile := some g.file }]
  | unopposed {identifier : String} (hd : d.identifier = some identifier)
      (hg : ∀ g, ¬ Clashes before d g) : Reports policy before d []

/-- The issues that declarations cause one after the other. -/
inductive AllReport (policy : Policy) :
    (before ds : List Declaration) → List Issue → Prop
  | nil {before : List Declaration} : AllReport policy before [] []
  | cons {before rest : List Declaration} {d : Declaration} {is js : List Issue}
      (h : d.Reports policy before is) (hrest : AllReport policy (before ++ [d]) rest js) :
      AllReport policy before (d :: rest) (is ++ js)

variable {policy : Policy} {before ds : List Declaration} {d : Declaration} {generation : Nat}

theorem record?_eq_some {x : Record} : d.record? generation = some x ↔
    d.identifier = some x.identifier ∧ d.path = x.canonicalPath ∧ d.file = x.sourceFile ∧
      d.title = x.title ∧ generation = x.generation := by
  rw [record?, Option.map_eq_some_iff]
  constructor
  · rintro ⟨identifier, hd, rfl⟩
    exact ⟨hd, rfl, rfl, rfl, rfl⟩
  · rintro ⟨hd, hpath, hfile, htitle, rfl⟩
    exact ⟨x.identifier, hd, by rw [hpath, hfile, htitle]⟩

/-- A declaration that was read has the file of the page, its path and its identifier. -/
theorem of_ofPage_ok {page : Page} (h : ofPage policy page = .ok d) :
    d.file = page.sourceFile ∧
      Location.canonical policy.contentRoot page.sourceFile = .ok d.path ∧
      declaredIdentifier page.metadata = .ok d.identifier := by
  rw [ofPage] at h
  cases hpath : Location.canonical policy.contentRoot page.sourceFile with
  | error e =>
    rw [hpath] at h
    cases h
  | ok path =>
    cases hid : declaredIdentifier page.metadata with
    | error f =>
      rw [hpath, hid] at h
      cases h
    | ok identifier? =>
      rw [hpath, hid] at h
      cases identifier? with
      | none =>
        obtain rfl := Except.ok.inj h
        exact ⟨rfl, rfl, rfl⟩
      | some identifier =>
        cases htitle : declaredTitle page.metadata with
        | error f =>
          simp only [htitle] at h
          cases h
        | ok title =>
          simp only [htitle] at h
          obtain rfl := Except.ok.inj h
          exact ⟨rfl, rfl, rfl⟩

/-- Declarations that were read belong to the pages in turn. -/
theorem forall₂_ofPage {pages : List Page} (h : pages.mapM (ofPage policy) = .ok ds) :
    List.Forall₂ (fun d p => ofPage policy p = .ok d) ds pages := by
  induction pages generalizing ds with
  | nil =>
    obtain rfl : [] = ds := Except.ok.inj h
    exact .nil
  | cons page rest ih =>
    rw [List.mapM_cons] at h
    cases hd : ofPage policy page with
    | error f =>
      rw [hd] at h
      cases h
    | ok d =>
      cases hrest : rest.mapM (ofPage policy) with
      | error f =>
        rw [hd, hrest] at h
        cases h
      | ok later =>
        rw [hd, hrest] at h
        obtain rfl : d :: later = ds := Except.ok.inj h
        exact .cons hd (ih hrest)

/-- Declarations have the files of their pages. -/
theorem files_of_forall₂ {pages : List Page}
    (h : List.Forall₂ (fun d p => ofPage policy p = .ok d) ds pages) :
    ds.map (·.file) = pages.map (·.sourceFile) := by
  induction h with
  | nil => rfl
  | cons hd _ ih => rw [List.map_cons, List.map_cons, ih, (of_ofPage_ok hd).1]

/-- Declarations have the canonical paths of their pages. -/
theorem paths_of_forall₂ {pages : List Page}
    (h : List.Forall₂ (fun d p => ofPage policy p = .ok d) ds pages) (path : String) :
    (∃ d ∈ ds, d.path = path) ↔
      ∃ p ∈ pages, Location.canonical policy.contentRoot p.sourceFile = .ok path := by
  induction h with
  | nil => simp
  | cons hd _ ih =>
    rw [List.exists_mem_cons_iff, List.exists_mem_cons_iff, ih, (of_ofPage_ok hd).2.1,
      Except.ok.injEq]

theorem not_stands_nil (x : Record) : ¬ Stands generation [] x := by
  rintro ⟨earlier, d, later, h, -⟩
  simp at h

/-- One more declaration brings its own record and ends those with its identifier or path. -/
theorem stands_concat {x : Record} : Stands generation (ds ++ [d]) x ↔
    d.record? generation = some x ∨
      Stands generation ds x ∧ d.identifier ≠ some x.identifier ∧ d.path ≠ x.canonicalPath := by
  constructor
  · rintro ⟨earlier, e, later, hds, hlater, hx⟩
    rcases List.eq_nil_or_concat' later with rfl | ⟨later, l, rfl⟩
    · obtain ⟨-, hde⟩ := List.append_inj' hds rfl
      cases hde
      exact .inl hx
    · rw [← List.cons_append, ← List.append_assoc] at hds
      obtain ⟨rfl, hdl⟩ := List.append_inj' hds rfl
      cases hdl
      have hd := hlater d (by simp)
      obtain ⟨hid, hpath, -⟩ := record?_eq_some.mp hx
      rw [hid, hpath] at hd
      exact .inr ⟨⟨earlier, e, later, rfl, fun f hf => hlater f (by simp [hf]), hx⟩, hd⟩
  · rintro (hx | ⟨⟨earlier, e, later, rfl, hlater, hx⟩, hd⟩)
    · exact ⟨ds, d, [], rfl, by simp [Endures], hx⟩
    · refine ⟨earlier, e, later ++ [d], by simp, fun f hf => ?_, hx⟩
      obtain ⟨hid, hpath, -⟩ := record?_eq_some.mp hx
      rcases List.mem_append.mp hf with hf | hf
      · exact hlater f hf
      · rw [List.mem_singleton.mp hf, hid, hpath]
        exact hd

end Declaration

namespace Registry

/-- The records of the present generation are those that stand of the declarations. -/
structure Reflects (r : Registry) (ds : List Declaration) : Prop where
  sound : r.Sound
  current : ∀ x, r.current x.identifier = some x ↔ Declaration.Stands 0 ds x

/-- A record of the present generation is found under its identifier. -/
theorem identifier_of_current {r : Registry} {identifier : String} {x : Record}
    (h : r.current identifier = some x) : x.identifier = identifier := by
  rw [current, Option.map_eq_some_iff] at h
  obtain ⟨y, hy, rfl⟩ := h
  rw [Option.filter_eq_some_iff] at hy
  have hfind := List.find?_some hy.1
  exact eq_of_beq hfind

namespace Reflects

variable {r : Registry} {ds : List Declaration} {d : Declaration}

/-- A new generation reflects no declarations. -/
theorem begin (h : r.Sound) : r.begin.Reflects [] :=
  ⟨h.begin, fun x => by simp [current_begin h, Declaration.not_stands_nil]⟩

/-- A page without an identifier ends the records of its path. -/
theorem without (h : r.Reflects ds) (hd : d.identifier = none) :
    (r.without d.path none).Reflects (ds ++ [d]) := by
  refine ⟨h.sound.without _ _, fun x => ?_⟩
  rw [current_without h.sound, Option.filter_eq_some_iff, h.current, Declaration.stands_concat,
    Declaration.record?_eq_some]
  simp [hd, Ne, @eq_comm _ d.path]

/-- A page with an identifier ends the records of its path and its identifier, and has its own. -/
theorem written (h : r.Reflects ds) {x : Record} (hx : d.record? 0 = some x) :
    ((r.without d.path (some x.identifier)).written x).Reflects (ds ++ [d]) := by
  obtain ⟨hid, hpath, -, -, hgen⟩ := Declaration.record?_eq_some.mp hx
  have hundated : x.undated = x := by rw [Record.undated, hgen]
  refine ⟨(h.sound.without _ _).written x, fun y => ?_⟩
  rw [current_written, Declaration.stands_concat, hx, hundated]
  by_cases hy : y.identifier = x.identifier
  · rw [if_pos hy]
    simp [hid, hy]
  · have hne : x ≠ y := fun e => hy (by rw [e])
    rw [if_neg hy, current_without h.sound, Option.filter_eq_some_iff, h.current, hid]
    simp [hy, hne, Ne.symm hy, Ne, @eq_comm _ d.path]

/-- The declaration that one clashes with has the present record of the identifier. -/
theorem current_of_clashes (h : r.Reflects ds) {identifier : String}
    (hd : d.identifier = some identifier) {g : Declaration} (hg : Declaration.Clashes ds d g) :
    r.current identifier = some ⟨identifier, g.path, g.file, g.title, 0⟩ := by
  obtain ⟨hid, -, earlier, between, hds, hbetween⟩ := hg
  refine (h.current ⟨identifier, g.path, g.file, g.title, 0⟩).mpr
    ⟨earlier, g, between, hds, hbetween, ?_⟩
  exact Declaration.record?_eq_some.mpr ⟨hid.trans hd, rfl, rfl, rfl, rfl⟩

/-- A second declaration is reported exactly when it clashes with an earlier one. -/
theorem reports_duplicates (h : r.Reflects ds) (policy : Policy) {identifier : String}
    (hd : d.identifier = some identifier) :
    d.Reports policy ds (Registered.duplicates r identifier d.path d.file) := by
  rw [Registered.duplicates]
  cases hx : r.current identifier with
  | none =>
    refine .unopposed hd fun g hg => ?_
    rw [h.current_of_clashes hd hg] at hx
    cases hx
  | some x =>
    obtain rfl := identifier_of_current hx
    by_cases hpath : x.canonicalPath = d.path
    · simp only [hpath, beq_self_eq_true, if_true]
      refine .unopposed hd fun g hg => hg.2.1 ?_
      rw [h.current_of_clashes hd hg] at hx
      rw [← hpath, ← Option.some.inj hx]
    · obtain ⟨earlier, g, between, hds, hbetween, hg⟩ := (h.current x).mp hx
      obtain ⟨hid, hgpath, hgfile, -⟩ := Declaration.record?_eq_some.mp hg
      have hclash : Declaration.Clashes ds d g :=
        ⟨hid.trans hd.symm, hgpath ▸ hpath, earlier, between, hds, hbetween⟩
      have hother : (g.path == d.path) = false := by simpa [hgpath] using hpath
      simp only [Session.duplicateIssue, ← hgpath, ← hgfile, hother]
      exact .duplicate hd hclash

end Reflects

end Registry

namespace Registered

open Declaration

variable {policy : Policy}

/-- The registration of a declaration. -/
def ofDeclaration (policy : Policy) (d : Declaration) (r : Registry) : Registered :=
  match d.identifier with
  | none => undeclared policy d.file d.path r
  | some identifier => declared policy identifier d.path d.file d.title r

/-- A page is registered by its declaration, if it has one. -/
theorem ofPage_eq (policy : Policy) (page : Page) (r : Registry) :
    ofPage policy page.metadata page.sourceFile r =
      match Declaration.ofPage policy page with
      | .error f => ⟨.error f, [], r⟩
      | .ok d => ofDeclaration policy d r := by
  rw [ofPage, Declaration.ofPage]
  cases Location.canonical policy.contentRoot page.sourceFile with
  | error e => rfl
  | ok path =>
    cases declaredIdentifier page.metadata with
    | error f => rfl
    | ok identifier? =>
      cases identifier? with
      | none => rfl
      | some identifier => cases declaredTitle page.metadata <;> rfl

/-- A permissive registration of a declaration does not fail. -/
theorem outcome_ofDeclaration (hs : policy.strict = false) (d : Declaration) (r : Registry) :
    (ofDeclaration policy d r).outcome = .ok () := by
  cases hd : d.identifier <;>
    simp only [ofDeclaration, hd, undeclared, declared, hs, Session.verdict_permissive]

/-- A declaration causes its issues and is reflected by the registry after it. -/
theorem reflects_ofDeclaration (hs : policy.strict = false) {r : Registry}
    {before : List Declaration} (h : r.Reflects before) (d : Declaration) :
    d.Reports policy before (ofDeclaration policy d r).issues ∧
      (ofDeclaration policy d r).registry.Reflects (before ++ [d]) := by
  cases hd : d.identifier with
  | none =>
    simp only [ofDeclaration, hd, undeclared]
    refine ⟨?_, h.without hd⟩
    cases hp : policy.missingIdentifier with
    | error => simpa only [missing, hp] using .missing hd hp
    | ignore => simpa only [missing, hp] using .tolerated hd (by simp [hp])
    | warn => simpa only [missing, hp] using .tolerated hd (by simp [hp])
  | some identifier =>
    simp only [ofDeclaration, hd, declared, hs, Session.verdict_permissive]
    refine ⟨h.reports_duplicates policy hd, ?_⟩
    exact h.written (x := ⟨identifier, d.path, d.file, d.title, 0⟩)
      (record?_eq_some.mpr ⟨hd, rfl, rfl, rfl, rfl⟩)

/-- Pages cause the issues of their declarations, and the registry reflects them all. -/
theorem reflects_ofPages (hs : policy.strict = false) {pages : List Page}
    {before ds : List Declaration} {r : Registry} (h : r.Reflects before)
    (hds : List.Forall₂ (fun d p => Declaration.ofPage policy p = .ok d) ds pages) :
    AllReport policy before ds (ofPages policy pages r).issues ∧
      (ofPages policy pages r).registry.Reflects (before ++ ds) := by
  induction hds generalizing before r with
  | nil =>
    rw [List.append_nil]
    exact ⟨.nil, h⟩
  | @cons d page ds pages hd hds ih =>
    obtain ⟨hissues, hregistry⟩ := reflects_ofDeclaration hs h d
    obtain ⟨hissues', hregistry'⟩ := ih hregistry
    rw [List.append_assoc, List.singleton_append] at hregistry'
    rw [ofPages, ofPage_eq, hd]
    simp only [outcome_ofDeclaration hs]
    exact ⟨.cons hissues hissues', hregistry'⟩

/-- A permissive phase fails exactly when a declaration cannot be read, and with that failure. -/
theorem outcome_ofPages (hs : policy.strict = false) (pages : List Page) (r : Registry) :
    (ofPages policy pages r).outcome =
      (pages.mapM (Declaration.ofPage policy)).map fun _ => () := by
  induction pages generalizing r with
  | nil => rfl
  | cons page rest ih =>
    rw [ofPages, ofPage_eq, List.mapM_cons]
    cases Declaration.ofPage policy page with
    | error f => rfl
    | ok d =>
      simp only [outcome_ofDeclaration hs, ih]
      cases rest.mapM (Declaration.ofPage policy) <;> rfl

end Registered

end Crosslink
