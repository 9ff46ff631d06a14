import Crosslink.Proofs.Build.Accounting
import Crosslink.Proofs.Build.Registration
import Crosslink.Proofs.Page.Rendering
import Crosslink.Proofs.Text.Strip

/-!
# Tokens after a build

Every destination that a build writes is plain. Still a rendered page may hold tokens: in links
that were part of another link before, or that begin only because of what was written after them.
Pages in which this cannot happen are clean, and a second build of the rendered text of a clean
page has nothing to do.
-/

namespace Crosslink

open Text (Span)

/-- Tokens begin with a mark, maybe after blanks or an angle bracket. -/
theorem Target.ofString_of_head? {raw : String} {c : Char} (h : raw.toList.head? = some c)
    (hblank : Text.isBlank c = false) (hangle : c ≠ '<') (hmark : c ≠ 'r') :
    ofString raw = .plain raw := by
  obtain ⟨cs, hcs⟩ : ∃ cs, raw.toList = c :: cs := by
    rcases hraw : raw.toList with _ | ⟨d, cs⟩ <;> rw [hraw] at h <;> cases h
    exact ⟨cs, rfl⟩
  obtain ⟨rest, hrest⟩ := Text.exists_dropEndWhile_cons Text.isBlank hblank cs
  have htrim : Text.trim raw.toList = c :: rest := by
    rw [hcs, Text.trim, Text.trimStart, List.dropWhile_cons_of_neg (by simp [hblank])]
    exact hrest
  have hunwrap : unwrap raw.toList = c :: rest := by
    rw [unwrap, htrim]
    split
    · rename_i he
      cases he
      exact absurd rfl hangle
    · rfl
  have htoken : token? (c :: rest) = none := by
    rw [token?]
    simp [referenceMark, repositoryMark, Ne.symm hmark]
  rw [ofString, hunwrap, htoken]
  rfl

/-- The address of a place in the repository begins as that of the repository. -/
theorem Policy.head?_urlFor {policy : Policy} {c : Char} (hc : c ≠ '/')
    (h : policy.repoBaseUrl.toList.head? = some c) (path : Option String) :
    (policy.urlFor path).toList.head? = some c := by
  obtain ⟨cs, hcs⟩ : ∃ cs, policy.repoBaseUrl.toList = c :: cs := by
    rcases hurl : policy.repoBaseUrl.toList with _ | ⟨d, cs⟩ <;> rw [hurl] at h <;> cases h
    exact ⟨cs, rfl⟩
  obtain ⟨rest, hrest⟩ := Text.exists_dropEndWhile_cons (· == '/') (by simpa using hc) cs
  cases path <;>
    simp [urlFor, Text.stripEnd, hcs, hrest, String.toList_append]

namespace Resolution

variable {policy : Policy} {r : Registry} {file : Path}

/-- A reference is replaced by the path of the record, with an anchor or not. -/
theorem head?_withAnchor {path : String} {c : Char} (h : path.toList.head? = some c)
    (anchor : Option String) : (withAnchor path anchor).toList.head? = some c := by
  unfold withAnchor
  split <;> simp [String.toList_append, h]

@[simp] theorem origin_fate (policy : Policy) (r : Registry) (file : Path) (l : Link) :
    ((fate policy r file l).link l).origin = l.origin := by
  simp only [fate, ofRepository, ofRecord, refuse]
  repeat' split
  all_goals rfl

/-- A link that is not made plain text has a plain target when it has met its fate, if the
addresses of pages and of the repository are plain. -/
theorem isToken_fate (hbase : policy.repoBaseUrl.toList.head? = some 'h')
    (hr : ∀ x ∈ r.records, x.canonicalPath.toList.head? = some '/') {l : Link}
    (hinert : ((fate policy r file l).link l).inert = false) :
    ((fate policy r file l).link l).isToken = false := by
  have hplain : ∀ {m : Link} {c : Char}, m.url.toList.head? = some c → c = 'h' ∨ c = '/' →
      m.isToken = false := by
    rintro m c hm (rfl | rfl) <;>
      rw [Link.isToken, Target.ofString_of_head? hm (by decide) (by decide) (by decide)]
  rw [fate] at hinert ⊢
  cases ht : Target.ofString l.url with
  | plain url =>
    change l.isToken = false
    rw [Link.isToken, ht]
  | repository path =>
    simp only [ht, ofRepository] at hinert ⊢
    split at hinert
    · cases hinert
    · rename_i hpath
      rw [if_neg hpath]
      exact hplain (Policy.head?_urlFor (by decide) hbase path) (.inl rfl)
  | reference identifier anchor =>
    simp only [ht] at hinert ⊢
    rcases hx : r.get? identifier with _ | x
    · rw [hx] at hinert
      cases hinert
    · simp only [hx, ofRecord] at hinert ⊢
      split at hinert
      · cases hinert
      · rename_i hfile
        rw [if_neg hfile]
        exact hplain (head?_withAnchor (hr x (List.mem_of_find?_eq_some hx)) anchor) (.inr rfl)

end Resolution

/-- The destination is no token. -/
def Link.Destination.IsPlain (d : Link.Destination) : Prop :=
  ∃ url, Target.ofString (String.ofList d.url) = .plain url

instance : DecidablePred Link.Destination.IsPlain := fun d =>
  match h : Target.ofString (String.ofList d.url) with
  | .plain url => isTrue ⟨url, h⟩
  | .reference _ _ | .repository _ => isFalse fun ⟨_, hurl⟩ => by cases h.symm.trans hurl

theorem Link.isToken_eq_false_iff {l : Link} :
    l.isToken = false ↔ ∃ url, Target.ofString l.url = .plain url := by
  rw [isToken]
  cases Target.ofString l.url <;> simp

/-- The destination is read back as it is when it has been written. -/
def Link.Readable (l : Link) : Prop :=
  Link.Writable l.url.toList ∧ ∀ t ∈ l.title, '\n' ∉ t.toList

instance (l : Link) : Decidable l.Readable :=
  inferInstanceAs (Decidable (_ ∧ _))

namespace Link.Settles

variable {P : Destination → Prop}

/-- A link that is made plain text and holds no other bracket is no link any more. -/
theorem escaped (x : Inline) (offset : Nat) (hno : '[' ∉ x.label ++ '(' :: x.tail) :
    Settles P (x.occurrence offset) (some (escapeDestination ('(' :: x.tail))) := by
  refine .ended (by simp [escapeDestination, List.getLast?_cons]) fun before => ?_
  refine Barren.of_escaped x.label_reads fun hbracket => hno ?_
  have hbracket : '[' ∈ x.label ++ '(' :: (x.tail.dropLast ++ ['\\', ')']) := hbracket
  obtain h | h : '[' ∈ x.label ∨ '[' ∈ x.tail.dropLast := by simpa using hbracket
  · exact List.mem_append_left _ h
  · exact List.mem_append_right _ (List.mem_cons_of_mem _ ((List.dropLast_sublist _).subset h))

/-- A link with another destination that is written and can be read back is a link to it. -/
theorem written {l : Link} (hl : l.Readable) (hplain : l.isToken = false) (o : Occurrence) :
    Settles Destination.IsPlain o
      (some (writeDestination l.url.toList (l.title.map String.toList))) := by
  have htitle : ∀ t, l.title.map String.toList = some t → '\n' ∉ t := by
    intro t ht
    obtain ⟨s, hs, rfl⟩ := Option.map_eq_some_iff.mp ht
    exact hl.2 s hs
  obtain ⟨tail, hwritten, hread⟩ := reads_writeDestination hl.1 _ htitle
  rw [hwritten]
  refine .moved hread ?_
  rw [Destination.IsPlain, String.ofList_toList]
  exact isToken_eq_false_iff.mp hplain

/-- What takes the place of a destination leaves no token. -/
theorem replacement {l : Link} (x : Inline) (offset : Nat)
    (hinert : l.inert = true → '[' ∉ x.label ++ '(' :: x.tail)
    (hlive : l.inert = false → l.Readable ∧ l.isToken = false) :
    Settles Destination.IsPlain (x.occurrence offset) (some (l.replacement ('(' :: x.tail))) := by
  rw [Link.replacement]
  cases h : l.inert with
  | true => exact escaped x offset (hinert h)
  | false => exact written (hlive h).1 (hlive h).2 _

end Link.Settles

namespace Page

/-- The links of a page can be told from its text, and what becomes of them cannot change that:
no link begins between them whatever follows, no token stands in code, links that are made plain
text hold no other bracket, and new destinations can be read back. -/
structure Clean (p : Page) : Prop where
  laid : Link.Laid (fun _ => True) p.before p.body
  code : ∀ o ∈ Link.occurrences p.text p.bodyOffset,
    Span.anyContains (Link.codeRegions p.text p.bodyOffset) o.start = true → o.destination.IsPlain
  refused : ∀ l ∈ p.links, l.inert = true → ∀ span ∈ l.origin.span,
    '[' ∉ l.origin.text.toList ++ span.slice p.text
  rewritten : ∀ l ∈ p.links, l.inert = false → l.changed = true → l.Readable

variable {policy : Policy} {r : Registry} {p : Page}

/-- The links of a clean page settle as plain links or as plain text. -/
theorem settles_of_clean (hbase : policy.repoBaseUrl.toList.head? = some 'h')
    (hr : ∀ x ∈ r.records, x.canonicalPath.toList.head? = some '/')
    (hp : p.links = Link.find p.text p.bodyOffset) (hoffset : p.bodyOffset ≤ p.text.length)
    (hclean : (p.resolved policy r).Clean) {o : Link.Occurrence}
    (ho : o ∈ Link.occurrences p.text p.bodyOffset) :
    Link.Settles Link.Destination.IsPlain o
      (p.newText? (fun l => (Resolution.fate policy r p.sourceFile l).link l) o) := by
  rw [newText?]
  cases hcode : Span.anyContains (Link.codeRegions p.text p.bodyOffset) o.start with
  | true => exact .kept (hclean.code o ho hcode)
  | false =>
    have hfound : Link.ofOccurrence p.text o ∈ p.links :=
      hp ▸ List.mem_map_of_mem (List.mem_filter.mpr ⟨ho, by simp [hcode]⟩)
    generalize hl : (Resolution.fate policy r p.sourceFile (Link.ofOccurrence p.text o)).link
      (Link.ofOccurrence p.text o) = l
    have hmem : l ∈ (p.resolved policy r).links := hl ▸ List.mem_map_of_mem hfound
    have horigin : l.origin = (Link.ofOccurrence p.text o).origin :=
      hl ▸ Resolution.origin_fate _ _ _ _
    have hplain : l.inert = false → l.isToken = false := fun h =>
      hl ▸ Resolution.isToken_fate hbase hr (hl ▸ h)
    by_cases hchanged : l.changed = true
    · obtain ⟨pre, x, rest, htext, rfl, -⟩ :=
        Link.exists_inline_of_mem_occurrences hoffset ho
      have hslice : (x.occurrence pre.length).span.slice p.text = '(' :: x.tail := by
        rw [htext, x.slice_span]
      have hedit : edit? p.text l =
          some ((x.occurrence pre.length).span, l.replacement ('(' :: x.tail)) := by
        rw [edit?, if_pos hchanged, horigin, ← hslice]
        rfl
      simp only [Bool.false_eq_true, if_false, hedit, Option.map_some]
      refine .replacement x pre.length (fun hinert => ?_)
        fun hinert => ⟨hclean.rewritten l hmem hinert hchanged, hplain hinert⟩
      have hno := hclean.refused l hmem hinert (x.occurrence pre.length).span
        (by rw [horigin]; rfl)
      change '[' ∉ _ ++ Span.slice _ p.text at hno
      have hlabel : l.origin.text.toList = x.label := by
        rw [horigin]
        exact String.toList_ofList
      rwa [hlabel, hslice] at hno
    · have hedit : edit? p.text l = none := if_neg hchanged
      simp only [Bool.false_eq_true, if_false, hedit, Option.map_none]
      refine .kept ?_
      obtain ⟨hinert, hurl⟩ : l.inert = false ∧ l.url = l.origin.url := by
        simp only [Link.changed, Bool.or_eq_true, not_or, Bool.not_eq_true, bne_eq_false_iff_eq]
          at hchanged
        exact ⟨hchanged.1.1, hchanged.1.2⟩
      have hplain := Link.isToken_eq_false_iff.mp (hplain hinert)
      rw [hurl, horigin] at hplain
      exact hplain

/-- Only plain links are found in the rendered text of a clean page, behind its front matter. -/
theorem find_render_of_clean (hbase : policy.repoBaseUrl.toList.head? = some 'h')
    (hr : ∀ x ∈ r.records, x.canonicalPath.toList.head? = some '/')
    (hp : p.links = Link.find p.text p.bodyOffset) (hoffset : p.bodyOffset ≤ p.text.length)
    (hclean : (p.resolved policy r).Clean) :
    ∀ l ∈ Link.find (p.resolved policy r).render p.bodyOffset, l.isToken = false := by
  intro l hl
  obtain ⟨cs, hlaid, hrender⟩ := render_laid hp hoffset hclean.laid
    (fun l => Resolution.origin_fate policy r p.sourceFile l)
    fun o ho => settles_of_clean hbase hr hp hoffset hclean ho
  have hrender : (p.resolved policy r).render = p.text.take p.bodyOffset ++ cs := hrender
  rw [hrender] at hl
  obtain ⟨d, hd, hurl⟩ := of_mem_find_laid hlaid (List.length_take_of_le hoffset) hl
  rw [Link.isToken_eq_false_iff, hurl]
  exact hd

/-- A page whose links are plain is left as it is, and has no link to report. -/
theorem outcome_of_plain (h : ∀ l ∈ p.links, l.isToken = false) (policy : Policy) (r : Registry)
    (is : List Issue) : p.outcome policy r is = (p, ⟨p.sourceFile, is, 0⟩) := by
  have hfate : ∀ l ∈ p.links, Resolution.fate policy r p.sourceFile l = .kept := by
    intro l hl
    obtain ⟨url, hurl⟩ := Link.isToken_eq_false_iff.mp (h l hl)
    rw [Resolution.fate, hurl]
  have hlinks : p.linksAfter policy r p.links = p.links :=
    (List.map_congr_left fun l hl => by rw [hfate l hl]; rfl).trans (List.map_id _)
  have hissues : p.issues policy r = [] :=
    List.filterMap_eq_nil_iff.mpr fun l hl => by rw [hfate l hl]; rfl
  have hrewritten : p.rewritten policy r = 0 :=
    List.countP_eq_zero.mpr fun l hl => by rw [hfate l hl]; exact Bool.false_ne_true
  rw [outcome, resolved, hlinks, hissues, hrewritten, List.append_nil]

end Page

theorem FrontMatter.bodyOffset_le (text : List Char) : bodyOffset text ≤ text.length := by
  rw [bodyOffset]
  split
  · exact Nat.sub_le _ _
  · exact Nat.zero_le _

/-- The body of a page that is read begins inside its text. -/
theorem Page.bodyOffset_le_of_ofText {file below : Path} {text : List Char} {p : Page}
    (h : ofText file below text = .ok p) : p.bodyOffset ≤ p.text.length := by
  obtain ⟨_, -, rfl⟩ := ofText_eq_ok_iff.mp h
  exact FrontMatter.bodyOffset_le text

/-- The body of a loaded page begins inside its text. -/
theorem Page.bodyOffset_le_of_load {tree : FileTree} {root file : Path} {p : Page}
    (h : load tree root file = .ok p) : p.bodyOffset ≤ p.text.length := by
  obtain ⟨_, -, _, -, _, -, h⟩ := load_eq_ok_iff.mp h
  exact bodyOffset_le_of_ofText h

/-- A page that is read has the links of its text. -/
theorem Page.of_ofText {file below : Path} {text : List Char} {p : Page}
    (h : ofText file below text = .ok p) :
    p.text = text ∧ p.links = Link.find text p.bodyOffset := by
  obtain ⟨_, -, rfl⟩ := ofText_eq_ok_iff.mp h
  exact ⟨rfl, rfl⟩

namespace Build

variable {settings : Settings} {paths : List Path}

namespace Sample

/-- A page with a link in the text of another one; nobody declares their identifiers. -/
def nested : FileTree := ⟨[
  (["content"], .directory),
  (["content", "a.md"], .file (Text.Utf8.encode "[a [b](ref:b) c](ref:c)".toList))]⟩

end Sample

end Build

end Crosslink
