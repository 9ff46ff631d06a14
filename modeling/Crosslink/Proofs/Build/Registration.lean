import Crosslink.Proofs.Build.Plan
import Crosslink.Proofs.Session.Declaration
import Crosslink.Proofs.Session.Strictness

/-!
# The first phase as a whole

A permissive first phase leaves exactly the records of the declarations that endure all later
ones, and reports exactly the clashes. A phase without issues keeps the record of every
declaration whose path no later page has; where pages share a path, the last one takes it.
-/

namespace Crosslink

namespace Registry

/-- A pruned registry holds the records that its generation has written. -/
theorem mem_pruned_iff {r : Registry} (h : r.Sound) {x : Record} :
    x ∈ r.pruned.records ↔
      x.generation = r.generation ∧ r.current x.identifier = some x.undated := by
  have hold : x ∈ r.pruned.records ↔ x ∈ r.records ∧ r.generation ≤ x.generation := by
    simp [pruned]
  have hfind : x ∈ r.records ↔ r.get? x.identifier = some x := by
    simp [get?_eq_some_iff h]
  rw [hold, current]
  constructor
  · rintro ⟨hx, hle⟩
    have hgen : x.generation = r.generation := Nat.le_antisymm (h.dated x hx) hle
    rw [hfind.mp hx]
    exact ⟨hgen, by simp [Option.filter_some, hgen]⟩
  · rintro ⟨hgen, hx⟩
    obtain ⟨y, hy, hyx⟩ := Option.map_eq_some_iff.mp hx
    obtain ⟨hy, hygen⟩ := Option.filter_eq_some_iff.mp hy
    have hsame : y = x := by
      have hdate : y.generation = x.generation := (eq_of_beq hygen).trans hgen.symm
      cases x
      cases y
      simp_all [Record.undated]
    exact ⟨hfind.mpr (hsame ▸ hy), hgen.ge⟩

end Registry

namespace Declaration

variable {policy : Policy} {before ds : List Declaration}

/-- Whether a record stands does not depend on its generation. -/
theorem stands_undated {x : Record} {generation : Nat} :
    x.generation = generation ∧ Stands 0 ds x.undated ↔ Stands generation ds x := by
  constructor
  · rintro ⟨rfl, earlier, d, later, hds, hlater, hx⟩
    obtain ⟨hid, hpath, hfile, htitle, -⟩ := record?_eq_some.mp hx
    exact ⟨earlier, d, later, hds, hlater,
      record?_eq_some.mpr ⟨hid, hpath, hfile, htitle, rfl⟩⟩
  · rintro ⟨earlier, d, later, hds, hlater, hx⟩
    obtain ⟨hid, hpath, hfile, htitle, hgen⟩ := record?_eq_some.mp hx
    exact ⟨hgen.symm, earlier, d, later, hds, hlater,
      record?_eq_some.mpr ⟨hid, hpath, hfile, htitle, rfl⟩⟩

/-- Where nothing is reported, no declaration clashes with an earlier one. -/
theorem AllReport.silent (h : AllReport policy before ds []) {earlier later : List Declaration}
    {d : Declaration} (hds : ds = earlier ++ d :: later) :
    d.Reports policy (before ++ earlier) [] := by
  generalize his : ([] : List Issue) = is at h
  induction h generalizing earlier with
  | nil => simp at hds
  | @cons before rest e is js he hrest ih =>
    obtain ⟨rfl, rfl⟩ := List.append_eq_nil_iff.mp his.symm
    cases earlier with
    | nil =>
      obtain ⟨rfl, -⟩ := List.cons.inj hds
      rwa [List.append_nil]
    | cons f earlier =>
      obtain ⟨rfl, hrest⟩ := List.cons.inj hds
      simpa using ih hrest rfl

/-- Where nothing is reported, an identifier is declared again only once the path of its first
declaration has been taken. -/
theorem AllReport.taken (h : AllReport policy [] ds []) {earlier between after : List Declaration}
    {d e : Declaration} (hds : ds = earlier ++ d :: (between ++ e :: after))
    (hd : d.identifier ≠ none) (he : e.identifier = d.identifier) :
    ∃ f ∈ between ++ [e], f.path = d.path := by
  by_contra hfree
  have hpath : ∀ f ∈ between ++ [e], f.path ≠ d.path := fun f hf hp => hfree ⟨f, hf, hp⟩
  -- the first declaration of the identifier after `d` would have been reported
  obtain ⟨e', he'⟩ : ∃ e', (between ++ [e]).find? (fun f => f.identifier == d.identifier) =
      some e' := Option.isSome_iff_exists.mp (List.find?_isSome.mpr ⟨e, by simp, by simpa using he⟩)
  obtain ⟨hid, front, rest, hsplit, hfirst⟩ := List.find?_eq_some_iff_append.mp he'
  have hid : e'.identifier = d.identifier := eq_of_beq hid
  have hds : ds = (earlier ++ d :: front) ++ e' :: (rest ++ after) := by
    rw [hds, List.append_cons between, hsplit]
    simp
  have hsilent : e'.Reports policy (earlier ++ d :: front) [] := h.silent hds
  have hclash : Clashes (earlier ++ d :: front) e' d := by
    refine ⟨hid.symm, (hpath e' (by simp [hsplit])).symm, earlier, front, rfl, fun f hf => ⟨?_, ?_⟩⟩
    · simpa using hfirst f hf
    · exact hpath f (by simp [hsplit, hf])
  cases hsilent with
  | tolerated hnone _ => exact hd (hid.symm.trans hnone)
  | unopposed _ hnot => exact hnot d hclash

/-- Where nothing is reported, a declared identifier is lost only to a later page of the path. -/
theorem AllReport.endures (h : AllReport policy [] ds []) {earlier later : List Declaration}
    {d : Declaration} (hds : ds = earlier ++ d :: later) (hd : d.identifier ≠ none)
    (hpath : ∀ e ∈ later, e.path ≠ d.path) : d.Endures later := by
  refine fun e he => ⟨fun hid => ?_, hpath e he⟩
  obtain ⟨between, after, rfl⟩ := List.append_of_mem he
  obtain ⟨f, hf, htaken⟩ := h.taken hds hd hid
  rw [List.append_cons] at hpath
  exact hpath f (List.mem_append_left after hf) htaken

/-- Where every declaration has a file of its own, the record of a declaration stands exactly when
the declaration endures the later ones. -/
theorem stands_iff_endures (generation : Nat) (hfiles : (ds.map (·.file)).Nodup)
    {earlier later : List Declaration} {d : Declaration} (hds : ds = earlier ++ d :: later)
    {identifier : String} (hd : d.identifier = some identifier) :
    (∃ x, Stands generation ds x ∧ x.identifier = identifier ∧ x.sourceFile = d.file) ↔
      d.Endures later := by
  constructor
  · rintro ⟨x, ⟨earlier', d', later', hds', hlater, hx⟩, -, hfile⟩
    have hsame : d' = d := List.inj_on_of_nodup_map hfiles (by simp [hds']) (by simp [hds])
      ((record?_eq_some.mp hx).2.2.1.trans hfile)
    subst hsame
    subst hds
    obtain ⟨-, hrest, hapart⟩ := List.nodup_append.mp hfiles.of_map
    have hearlier : d' ∉ earlier := fun hmem => hapart _ hmem _ List.mem_cons_self rfl
    obtain ⟨-, -, rfl⟩ := (List.append_cons_inj_of_notMem hearlier
      (List.nodup_cons.mp hrest).1).mp hds'
    exact hlater
  · intro hlater
    exact ⟨⟨identifier, d.path, d.file, d.title, generation⟩,
      ⟨earlier, d, later, hds, hlater, record?_eq_some.mpr ⟨hd, rfl, rfl, rfl, rfl⟩⟩, rfl, rfl⟩

end Declaration

/-- A log that reporting leaves as it is was told nothing. -/
theorem IssueLog.eq_nil_of_addAll {log : IssueLog} {is : List Issue} (h : log.addAll is = log) :
    is = [] := by
  rw [List.eq_nil_iff_forall_not_mem]
  intro i hi
  have hfile := log.forFile_addAll is i.sourceFile
  rw [h, List.self_eq_append_right, List.filter_eq_nil_iff] at hfile
  exact hfile i hi (by simp)

namespace Registered

variable {policy : Policy} {pages : List Page} {ds : List Declaration} {r : Registry}

/-- The first phase is permissive in effect if it is completed. -/
theorem all_eq_permissive (h : (all policy pages r).outcome = .ok ()) :
    all policy pages r = all (policy.withStrict false) pages r := by
  cases hs : policy.strict with
  | false =>
    have hpolicy : policy.withStrict false = policy := by rw [← hs]
    rw [hpolicy]
  | true =>
    have hpolicy : policy.withStrict true = policy := by rw [← hs]
    have henforce := enforces_all policy pages r
    rw [hpolicy] at henforce
    exact (henforce.of_ok h).2

/-- A permissive first phase fails exactly when a declaration cannot be read. -/
theorem outcome_all (hs : policy.strict = false) (pages : List Page) (r : Registry) :
    (all policy pages r).outcome = (Declaration.ofPages policy pages).map fun _ => () := by
  have hpages := outcome_ofPages hs (Build.registrationOrder pages) r.begin
  rw [all]
  cases ho : (ofPages policy (Build.registrationOrder pages) r.begin).outcome <;>
    exact ho.symm.trans hpages

/-- A permissive first phase that is completed has read all declarations. -/
theorem exists_declarations (hs : policy.strict = false)
    (h : (all policy pages r).outcome = .ok ()) :
    ∃ ds, Declaration.ofPages policy pages = .ok ds := by
  rw [outcome_all hs] at h
  cases hds : Declaration.ofPages policy pages with
  | error f =>
    rw [hds] at h
    cases h
  | ok ds => exact ⟨ds, rfl⟩

/-- A permissive first phase leaves the records of the declarations that endure, and reports the
clashes. -/
theorem stands_all (hs : policy.strict = false) (hr : r.Sound)
    (hds : Declaration.ofPages policy pages = .ok ds) :
    Declaration.AllReport policy [] ds (all policy pages r).issues ∧
      (all policy pages r).registry.generation = r.generation + 1 ∧
      ∀ x, x ∈ (all policy pages r).registry.records ↔
        Declaration.Stands (r.generation + 1) ds x := by
  have houtcome : (ofPages policy (Build.registrationOrder pages) r.begin).outcome = .ok () := by
    rw [outcome_ofPages hs]
    change (Declaration.ofPages policy pages).map _ = _
    rw [hds]
    rfl
  obtain ⟨hissues, hreflects⟩ := reflects_ofPages hs (.begin hr) (Declaration.forall₂_ofPage hds)
  rw [all]
  simp only [houtcome]
  have hgen : (ofPages policy (Build.registrationOrder pages) r.begin).registry.generation =
      r.generation + 1 := generation_ofPages _ _ _
  refine ⟨hissues, hgen, fun x => ?_⟩
  have hcurrent := hreflects.current x.undated
  exact (Registry.mem_pruned_iff hreflects.sound).trans
    ((and_congr (by rw [hgen]) hcurrent).trans Declaration.stands_undated)

/-- The canonical paths that a completed permissive phase leaves are paths of the site. -/
theorem exists_sitePath (hs : policy.strict = false) (hr : r.Sound)
    (h : (all policy pages r).outcome = .ok ()) {x : Record}
    (hx : x ∈ (all policy pages r).registry.records) :
    ∃ segments, x.canonicalPath = Location.sitePath segments := by
  obtain ⟨ds, hds⟩ := exists_declarations hs h
  obtain ⟨-, -, hrecords⟩ := stands_all hs hr hds
  obtain ⟨earlier, d, later, rfl, -, hd⟩ := (hrecords x).mp hx
  obtain ⟨p, -, hp⟩ := (Declaration.paths_of_forall₂ (Declaration.forall₂_ofPage hds) d.path).mp
    ⟨d, by simp, rfl⟩
  rw [Location.canonical] at hp
  rcases hbelow : Location.relative policy.contentRoot p.sourceFile with e | below <;>
    rw [hbelow] at hp
  · cases hp
  · have hpath : Location.sitePath (Location.siteSegments below) = d.path := Except.ok.inj hp
    exact ⟨_, (Declaration.record?_eq_some.mp hd).2.1.symm.trans hpath.symm⟩

/-- The canonical paths that a completed permissive phase leaves begin at the root of the site. -/
theorem head?_canonicalPath (hs : policy.strict = false) (hr : r.Sound)
    (h : (all policy pages r).outcome = .ok ()) {x : Record}
    (hx : x ∈ (all policy pages r).registry.records) :
    x.canonicalPath.toList.head? = some '/' := by
  obtain ⟨segments, hpath⟩ := exists_sitePath hs hr h hx
  rw [hpath, Location.sitePath, String.toList_append]
  rfl

end Registered

namespace Build

/-- Pages that come in the order of the text of their paths are registered as they come. -/
theorem registrationOrder_of_pairwise {pages : List Page}
    (h : pages.Pairwise fun p q => p.sourceFile.textLe q.sourceFile = true) :
    registrationOrder pages = pages := List.mergeSort_of_pairwise h

namespace Sample

/-- A page of the site that declares an identifier, if one is given. -/
def page (name : String) (identifier : Option String) : Page where
  sourceFile := ⟨.relative, ["content", name]⟩
  relativePath := ⟨.relative, [name]⟩
  metadata := (identifier.map fun text => (identifierField, .text text)).toList
  text := []
  bodyOffset := 0
  links := []

/-- The first two pages have one path, the last two declare one identifier. -/
def pages : List Page :=
  [page "a.md" (some "start"), page "a.mdx" (some "begin"), page "b.md" none,
    page "c.md" (some "tour"), page "d.md" (some "tour")]

/-- What the pages declare. -/
def declarations : List Declaration :=
  [⟨⟨.relative, ["content", "a.md"]⟩, "/a", some "start", none⟩,
    ⟨⟨.relative, ["content", "a.mdx"]⟩, "/a", some "begin", none⟩,
    ⟨⟨.relative, ["content", "b.md"]⟩, "/b", none, none⟩,
    ⟨⟨.relative, ["content", "c.md"]⟩, "/c", some "tour", none⟩,
    ⟨⟨.relative, ["content", "d.md"]⟩, "/d", some "tour", none⟩]

/-- What an earlier generation has left: an identifier that has moved since then, and one that
its page no longer declares. -/
def earlier : Registry :=
  ((Registry.empty.begin.written ⟨"tour", "/old", ⟨.relative, ["content", "old.md"]⟩, none, 0⟩)
    |>.written ⟨"gone", "/b", ⟨.relative, ["content", "b.md"]⟩, none, 0⟩).freeze

/-- Two pages that declare one identifier at one path. -/
def twins : List Page := [page "a.md" (some "start"), page "a.mdx" (some "start")]

/-- Pages of which the first loses its path to the second. -/
def neighbours : List Page :=
  [page "a.md" (some "start"), page "a.mdx" (some "begin"), page "b.md" (some "tour")]

end Sample

variable {policy : Policy} {s : Session}

/-- The first phase in closed form, from every reachable registry. A permissive phase fails
exactly when a declaration cannot be read. Otherwise it leaves a frozen registry of a new
generation with one record for each declaration that endures the later ones and no other record,
and reports the clashes, the pages without identifiers if the policy says so, and nothing else. -/
theorem registerAll_stands (hs : policy.strict = false) (hr : s.registry.Reachable)
    (pages : List Page) :
    let after := s.perform (registerAll policy pages)
    after.1 = (Declaration.ofPages policy pages).map (fun _ => ()) ∧
      ∀ ds, Declaration.ofPages policy pages = .ok ds →
        after.2.registry.frozen = true ∧
        after.2.registry.generation = s.registry.generation + 1 ∧
        (after.2.registry.records.map (·.identifier)).Nodup ∧
        (∀ x, x ∈ after.2.registry.records ↔
          Declaration.Stands (s.registry.generation + 1) ds x) ∧
        ∃ issues, after.2.issues = s.issues.addAll issues ∧
          Declaration.AllReport policy [] ds issues := by
  intro after
  obtain ⟨log, hregister⟩ := Session.gives_registerAll policy pages s
  have hafter : after = _ := hregister
  rw [hafter]
  refine ⟨Registered.outcome_all hs pages s.registry, fun ds hds => ?_⟩
  obtain ⟨hissues, hgen, hrecords⟩ := Registered.stands_all hs hr.sound hds
  have houtcome : (Registered.all policy pages s.registry).outcome = .ok () := by
    rw [Registered.outcome_all hs, hds]
    rfl
  exact ⟨Registered.frozen_all houtcome, hgen, (Registered.sound_all _ _ hr.sound).distinct,
    hrecords, _, rfl, hissues⟩

theorem registerAll_stands_sample :
    let after := Session.perform ⟨Sample.earlier, .empty, []⟩
      (registerAll Sample.settings.policy Sample.pages)
    after.1 = .ok () ∧ after.2.registry.frozen = true ∧ after.2.registry.generation = 2 ∧
      (∀ x, x ∈ after.2.registry.records ↔ Declaration.Stands 2 Sample.declarations x) ∧
      ∃ issues, after.2.issues = IssueLog.empty.addAll issues ∧
        Declaration.AllReport Sample.settings.policy [] Sample.declarations issues := by
  have hs : Sample.settings.policy.strict = false := rfl
  have hreach : Sample.earlier.Reachable :=
    .freeze (.put (.put (.begin .empty) (Registry.put_of_open rfl _)) (Registry.put_of_open rfl _))
  have hds : Declaration.ofPages Sample.settings.policy Sample.pages =
      .ok Sample.declarations := by
    rw [Declaration.ofPages, registrationOrder_of_pairwise (by decide +kernel)]
    decide +kernel
  obtain ⟨houtcome, hstands⟩ :=
    registerAll_stands (s := ⟨Sample.earlier, .empty, []⟩) hs hreach Sample.pages
  obtain ⟨hfrozen, hgen, -, hrecords, hissues⟩ := hstands _ hds
  rw [hds] at houtcome
  exact ⟨houtcome, hfrozen, hgen, hrecords, hissues⟩

/-- A first phase of distinct files that is completed and reports nothing leaves a page its
record exactly when no page that is registered later has its canonical path. Two pages declare one
identifier only when the path of the first one is taken before, or by, the second one. -/
theorem registerAll_keeps (hr : s.registry.Reachable) {pages before later : List Page} {p : Page}
    (hfiles : (pages.map (·.sourceFile)).Nodup)
    (hok : (s.perform (registerAll policy pages)).1 = .ok ())
    (hsilent : (s.perform (registerAll policy pages)).2.issues = s.issues)
    (horder : registrationOrder pages = before ++ p :: later)
    {identifier : String} (hid : declaredIdentifier p.metadata = .ok (some identifier)) :
    ((∃ x, (s.perform (registerAll policy pages)).2.registry.get? identifier = some x ∧
        x.sourceFile = p.sourceFile) ↔
      ∀ q ∈ later, Location.canonical policy.contentRoot q.sourceFile ≠
        Location.canonical policy.contentRoot p.sourceFile) ∧
    ∀ between q after, later = between ++ q :: after →
      declaredIdentifier q.metadata = .ok (some identifier) →
      ∃ q' ∈ between ++ [q], Location.canonical policy.contentRoot q'.sourceFile =
        Location.canonical policy.contentRoot p.sourceFile := by
  obtain ⟨log, hregister⟩ := Session.gives_registerAll policy pages s
  rw [hregister] at hok hsilent ⊢
  have hpermissive := Registered.all_eq_permissive hok
  simp only [hpermissive] at hok hsilent ⊢
  -- what the pages declare, in the order of registration
  obtain ⟨ds, hds⟩ := Registered.exists_declarations rfl hok
  obtain ⟨hreport, -, hrecords⟩ := Registered.stands_all rfl hr.sound hds
  rw [IssueLog.eq_nil_of_addAll hsilent] at hreport
  have hpages := Declaration.forall₂_ofPage hds
  have hdistinct : (ds.map (·.file)).Nodup := by
    rw [Declaration.files_of_forall₂ hpages]
    exact ((List.mergeSort_perm _ _).map _).nodup_iff.mpr hfiles
  rw [horder] at hpages
  obtain ⟨earlier, d, rest, hsplit, -, hp, hrest⟩ := Pool.forall₂_append_cons hpages
  obtain ⟨hfile, hpath, hdeclared⟩ := Declaration.of_ofPage_ok hp
  have hd : d.identifier = some identifier := Except.ok.inj (hdeclared.symm.trans hid)
  change Location.canonical policy.contentRoot p.sourceFile = _ at hpath
  rw [hpath, ← hfile]
  refine ⟨?_, fun between q after hlater hq => ?_⟩
  · have hfree : (∀ e ∈ rest, e.path ≠ d.path) ↔
        ∀ q ∈ later, Location.canonical policy.contentRoot q.sourceFile ≠ .ok d.path := by
      have h := not_congr (Declaration.paths_of_forall₂ hrest d.path)
      push Not at h
      exact h
    have hendures : d.Endures rest ↔ ∀ e ∈ rest, e.path ≠ d.path :=
      ⟨fun h e he => (h e he).2, hreport.endures hsplit (by simp [hd])⟩
    rw [← hfree, ← hendures,
      ← Declaration.stands_iff_endures (s.registry.generation + 1) hdistinct hsplit hd]
    simp only [Registry.get?_eq_some_iff (Registered.sound_all _ _ hr.sound), hrecords, and_assoc]
  · obtain ⟨front, e, back, rfl, hfront, he, -⟩ := Pool.forall₂_append_cons (hlater ▸ hrest)
    have hid : e.identifier = d.identifier :=
      (Except.ok.inj ((Declaration.of_ofPage_ok he).2.2.symm.trans hq)).trans hd.symm
    exact (Declaration.paths_of_forall₂ (List.rel_append hfront (.cons he .nil)) d.path).mp
      (hreport.taken hsplit (by simp [hd]) hid)

theorem registerAll_keeps_sample :
    (Session.perform .empty (registerAll Sample.settings.policy Sample.neighbours)).1 = .ok () ∧
      ∃ x, (Session.perform .empty
          (registerAll Sample.settings.policy Sample.neighbours)).2.registry.get? "begin" = some x ∧
        x.sourceFile = ⟨.relative, ["content", "a.mdx"]⟩ := by
  have hfiles : (Sample.neighbours.map (·.sourceFile)).Nodup := by decide
  have horder : registrationOrder Sample.neighbours = [Sample.page "a.md" (some "start")] ++
      Sample.page "a.mdx" (some "begin") :: [Sample.page "b.md" (some "tour")] :=
    registrationOrder_of_pairwise (by decide +kernel)
  have hok : (Session.perform .empty
      (registerAll Sample.settings.policy Sample.neighbours)).1 = .ok () := by
    rw [registerAll, horder]
    decide +kernel
  have hsilent : (Session.perform .empty
      (registerAll Sample.settings.policy Sample.neighbours)).2.issues = .empty := by
    rw [registerAll, horder]
    decide +kernel
  have hid : declaredIdentifier (Sample.page "a.mdx" (some "begin")).metadata =
      .ok (some "begin") := by
    decide +kernel
  exact ⟨hok, (registerAll_keeps .empty hfiles hok hsilent horder hid).1.mpr (by decide +kernel)⟩

/-- A page may lose its identifier without an issue: to a page of its path, which may even
declare the same identifier. -/
theorem registerAll_drops_declared :
    let after := Session.perform .empty (registerAll Sample.settings.policy Sample.twins)
    (Sample.twins.map (·.sourceFile)).Nodup ∧ after.1 = .ok () ∧ after.2.issues = .empty ∧
      (∀ p ∈ Sample.twins, declaredIdentifier p.metadata = .ok (some "start")) ∧
      ∃ p ∈ Sample.twins, ¬ ∃ x, after.2.registry.get? "start" = some x ∧
        x.sourceFile = p.sourceFile := by
  have horder : registrationOrder Sample.twins = Sample.twins :=
    registrationOrder_of_pairwise (by decide +kernel)
  have hafter : Session.perform .empty (registerAll Sample.settings.policy Sample.twins) =
      (.ok (), {
        registry := ⟨[⟨"start", "/a", ⟨.relative, ["content", "a.mdx"]⟩, none, 1⟩], true, 1⟩
        issues := .empty
        log := [⟨.info, "Registered 1 global identifier(s)"⟩] }) := by
    rw [registerAll, horder]
    decide +kernel
  rw [hafter]
  refine ⟨by decide, rfl, rfl, by decide +kernel, Sample.page "a.md" (some "start"),
    List.mem_cons_self, ?_⟩
  rintro ⟨x, hx, hfile⟩
  cases Option.some.inj hx
  exact absurd hfile (by decide)

end Build

end Crosslink
