import Crosslink.Proofs.Build.Settled
import Crosslink.Proofs.Link.Place

/-!
# Where links stand in a rendered page

The links of a page lie one behind the other, so the text before a link is rendered by itself, and
what follows it is the label of the link with its destination as it stands. The link is found again
in the rendered text if its new destination can be read and the search comes by.
-/

namespace Crosslink

open Text (Span)

namespace Link

/-- What takes the place of a destination ends with a parenthesis. -/
theorem getLast?_replacement (l : Link) (written : List Char) :
    (l.replacement written).getLast? = some ')' := by
  rw [replacement]
  split
  · simp [escapeDestination, List.getLast?_cons]
  · unfold writeDestination
    split <;> simp [List.getLast?_cons]

end Link

namespace Page

/-! ## Rendering in parts -/

/-- Spans that end with the first part of a text are replaced there, and those that begin behind it
in what follows. -/
theorem splice_append (pre rest : List Char) {k : Nat} (hk : k ≤ pre.length)
    {es fs : List (Span × List Char)}
    (hes : ∀ e ∈ es, e.1.start ≤ pre.length ∧ e.1.stop ≤ pre.length)
    (hfs : ∀ e ∈ fs, pre.length ≤ e.1.start) :
    splice (pre ++ rest) k (es ++ fs) = splice pre k es ++ splice (pre ++ rest) pre.length fs := by
  induction es generalizing k with
  | nil =>
    rw [List.nil_append, splice]
    cases fs with
    | nil => rw [splice, splice, List.drop_append_of_le_length hk, List.drop_left]
    | cons e fs =>
      have hstart := hfs e List.mem_cons_self
      have hslice : Span.slice ⟨k, e.1.start⟩ (pre ++ rest) =
          pre.drop k ++ Span.slice ⟨pre.length, e.1.start⟩ (pre ++ rest) := by
        rw [Span.slice, Span.slice, List.drop_append_of_le_length hk, List.drop_left,
          List.take_append, List.length_drop,
          List.take_of_length_le (by rw [List.length_drop]; exact Nat.sub_le_sub_right hstart k)]
        congr 2
        simp only
        omega
      simp only [splice, hslice, List.append_assoc]
  | cons e es ih =>
    obtain ⟨⟨hstart, hstop⟩, hes⟩ := List.forall_mem_cons.mp hes
    have hslice : Span.slice ⟨k, e.1.start⟩ (pre ++ rest) = Span.slice ⟨k, e.1.start⟩ pre := by
      rw [Span.slice, Span.slice, List.drop_append_of_le_length hk,
        List.take_append_of_le_length
          (by rw [List.length_drop]; exact Nat.sub_le_sub_right hstart k)]
    simp only [List.cons_append, splice, hslice, ih hstop hes, List.append_assoc]

/-- What stands before the first span that is replaced is kept. -/
theorem splice_of_le (pre rest : List Char) {k : Nat} (hk : k ≤ pre.length)
    {es : List (Span × List Char)} (hes : ∀ e ∈ es, pre.length ≤ e.1.start) :
    splice (pre ++ rest) k es = pre.drop k ++ splice (pre ++ rest) pre.length es :=
  splice_append pre rest hk (List.forall_mem_nil _) hes

/-- A text does not get shorter than what stands before the first span that is replaced. -/
theorem length_splice_of_le {text : List Char} {n : Nat} (hn : n ≤ text.length)
    {es : List (Span × List Char)} (hes : ∀ e ∈ es, n ≤ e.1.start) :
    n ≤ (splice text 0 es).length := by
  have htake : (text.take n).length = n := List.length_take_of_le hn
  have h := splice_of_le (text.take n) (text.drop n) (Nat.zero_le _)
    fun e he => Nat.le_trans (Nat.le_of_eq htake) (hes e he)
  rw [List.take_append_drop, List.drop_zero] at h
  rw [h, List.length_append, htake]
  exact Nat.le_add_right _ _

/-- A link keeps its label and gets the new destination, if there is one. -/
theorem splice_link (pre : List Char) (x : Link.Inline) (rest : List Char)
    (new? : Option (List Char)) {es : List (Span × List Char)}
    (hes : ∀ e ∈ es, (pre ++ x.text).length ≤ e.1.start) :
    splice (pre ++ (x.text ++ rest)) pre.length
        ((new?.map ((x.occurrence pre.length).span, ·)).toList ++ es) =
      x.head ++ (new?.getD ('(' :: x.tail) ++
        splice (pre ++ (x.text ++ rest)) (pre ++ x.text).length es) := by
  cases new? with
  | none =>
    have hkept := splice_of_le (pre ++ x.text) rest (k := pre.length) (by simp) hes
    rw [List.drop_left, List.append_assoc pre] at hkept
    change splice _ _ es = _
    rw [hkept, x.text_eq]
    simp
  | some new =>
    have hmoved := x.splice_cons (Nat.le_refl pre.length) rest new es
    rwa [List.drop_length, List.nil_append, List.append_assoc pre] at hmoved

/-- Where a text ends without a guard, it does so after replacements that end with a parenthesis. -/
theorem guards_splice {pre : List Char} (hpre : Link.guards pre.getLast? = false)
    {es : List (Span × List Char)} (hes : ∀ e ∈ es, e.2.getLast? = some ')') (k : Nat)
    (before : Option Char) (hbefore : pre.length ≤ k → Link.guards before = false) :
    Link.guards (Link.lastOf before (splice pre k es)) = false := by
  induction es generalizing k before with
  | nil =>
    -- the text ends here, unless all of it lies before the offset: then `before` stands there
    rw [splice, Link.lastOf_eq, List.getLast?_drop]
    split
    · rename_i hk
      exact hbefore hk
    · rename_i hk
      cases hlast : pre.getLast? with
      | none =>
        rw [List.getLast?_eq_none_iff] at hlast
        subst hlast
        exact absurd (Nat.zero_le k) hk
      | some c => rwa [hlast] at hpre
  | cons e es ih =>
    obtain ⟨hlast, hes⟩ := List.forall_mem_cons.mp hes
    rw [splice, Link.lastOf_append, Link.lastOf_append, Link.lastOf_eq_of_getLast? hlast]
    exact ih hes _ _ fun _ => rfl

/-! ## Links in their places -/

/-- The changes that the links of a page ask for, in their order. -/
def edits (p : Page) : List (Span × List Char) := p.links.filterMap (edit? p.text)

/-- The changes of some links that occur in the page when `f` changes its links. -/
def changes (p : Page) (f : Link → Link) (os : List Link.Occurrence) : List (Span × List Char) :=
  os.filterMap fun o => (p.newText? f o).map (o.span, ·)

/-- The rendered form of the text before an offset. -/
def renderedBefore (p : Page) (offset : Nat) : List Char :=
  splice (p.text.take offset) 0 (p.edits.filter fun e => e.1.stop ≤ offset)

/-- Where the opening bracket of a link of the page stands in the rendered text. -/
def place? (p : Page) (l : Link) : Option Nat :=
  l.start?.map fun start => (p.renderedBefore start).length

variable {p : Page} {f : Link → Link}

/-- The changes of some links that occur stand at their destinations and end with a parenthesis. -/
theorem exists_of_mem_changes {os : List Link.Occurrence} {e : Span × List Char}
    (h : e ∈ p.changes f os) :
    (∃ o ∈ os, e.1 = o.span) ∧ e.2.getLast? = some ')' := by
  obtain ⟨o, ho, he⟩ := List.mem_filterMap.mp h
  obtain ⟨new, hnew, rfl⟩ := Option.map_eq_some_iff.mp he
  refine ⟨⟨o, ho, rfl⟩, ?_⟩
  rw [newText?] at hnew
  split at hnew
  · cases hnew
  obtain ⟨e, hedit, rfl⟩ := Option.map_eq_some_iff.mp hnew
  rw [edit?] at hedit
  split at hedit
  · obtain ⟨span, -, rfl⟩ := Option.map_eq_some_iff.mp hedit
    exact Link.getLast?_replacement _ _
  · cases hedit

/-- The changes before a link, its own one, and those after it. -/
theorem exists_edits_eq (hp : p.links = Link.find p.text p.bodyOffset)
    (hf : ∀ l, (f l).origin = l.origin) {o : Link.Occurrence}
    (ho : o ∈ Link.occurrences p.text p.bodyOffset) : ∃ es fs,
      edits { p with links := p.links.map f } =
        es ++ (((p.newText? f o).map (o.span, ·)).toList ++ fs) ∧
      (∀ e ∈ es, p.bodyOffset ≤ e.1.start ∧ e.1.start ≤ o.start ∧ e.1.stop ≤ o.start ∧
        e.2.getLast? = some ')') ∧
      (∀ e ∈ fs, o.span.stop ≤ e.1.start) ∧
      ∀ e ∈ ((p.newText? f o).map (o.span, ·)).toList ++ fs,
        o.start ≤ e.1.start ∧ o.start < e.1.stop := by
  obtain ⟨os, qs, hos⟩ := List.append_of_mem ho
  have hpairwise := Link.pairwise_occurrences p.text p.bodyOffset
  rw [hos] at hpairwise
  obtain ⟨-, hqs, hbefore⟩ := List.pairwise_append.mp hpairwise
  have hown := Link.span_of_mem ho
  have hlater : ∀ e ∈ p.changes f qs, o.span.stop ≤ e.1.start ∧ e.1.start < e.1.stop := by
    intro e he
    obtain ⟨⟨a, ha, hspan⟩, -⟩ := exists_of_mem_changes he
    have hmem : a ∈ Link.occurrences p.text p.bodyOffset :=
      hos ▸ List.mem_append_right _ (List.mem_cons_of_mem _ ha)
    have hplaces := Link.span_of_mem hmem
    have hstop := (List.pairwise_cons.mp hqs).1 a ha
    rw [hspan]
    refine ⟨?_, hplaces.2⟩
    omega
  refine ⟨p.changes f os, p.changes f qs, ?_, fun e he => ?_, fun e he => (hlater e he).1,
    fun e he => ?_⟩
  · rw [edits, edits_eq hp hf, hos, List.filterMap_append, List.filterMap_cons]
    cases p.newText? f o <;> rfl
  · obtain ⟨⟨a, ha, hspan⟩, hlast⟩ := exists_of_mem_changes he
    have hmem : a ∈ Link.occurrences p.text p.bodyOffset := hos ▸ List.mem_append_left _ ha
    have hstart := Link.le_start_of_mem hmem
    have hplaces := Link.span_of_mem hmem
    have hstop := hbefore a ha o List.mem_cons_self
    rw [hspan]
    refine ⟨?_, ?_, hstop, hlast⟩ <;> omega
  · rcases List.mem_append.mp he with he | he
    · obtain ⟨new, -, rfl⟩ := Option.map_eq_some_iff.mp (Option.mem_toList.mp he)
      simp only
      omega
    · have hplaces := hlater e he
      omega

/-- The text before a link is rendered without the changes of that link and of later ones. -/
theorem renderedBefore_eq {pre rest : List Char} (htext : p.text = pre ++ rest)
    {es fs : List (Span × List Char)} (hedits : p.edits = es ++ fs)
    (hes : ∀ e ∈ es, e.1.stop ≤ pre.length) (hfs : ∀ e ∈ fs, pre.length < e.1.stop) :
    p.renderedBefore pre.length = splice pre 0 es := by
  have hkept : es.filter (fun e => e.1.stop ≤ pre.length) = es :=
    List.filter_eq_self.mpr fun e he => decide_eq_true (hes e he)
  have hdropped : fs.filter (fun e => e.1.stop ≤ pre.length) = [] :=
    List.filter_eq_nil_iff.mpr fun e he => by simpa using hfs e he
  rw [renderedBefore, hedits, htext, List.filter_append, hkept, hdropped, List.append_nil,
    List.take_left]

/-- In the rendered text a link stands behind what the text before it becomes, with its label and
its destination as it stands. -/
theorem exists_placed (hp : p.links = Link.find p.text p.bodyOffset)
    (hoffset : p.bodyOffset ≤ p.text.length) (hf : ∀ l, (f l).origin = l.origin)
    {o : Link.Occurrence} (ho : o ∈ Link.occurrences p.text p.bodyOffset) :
    ∃ (x : Link.Inline) (pre rest after : List Char),
      p.text = pre ++ (x.text ++ rest) ∧ o = x.occurrence pre.length ∧
      Link.Placed (render { p with links := p.links.map f }) p.bodyOffset
        (renderedBefore { p with links := p.links.map f } o.start) x
        ((p.newText? f o).getD ('(' :: x.tail) ++ after) := by
  obtain ⟨pre, x, rest, htext, rfl, hguards⟩ := Link.exists_inline_of_mem_occurrences hoffset ho
  obtain ⟨es, fs, hedits, hes, hfs, hown⟩ := exists_edits_eq hp hf ho
  have hstop : (x.occurrence pre.length).span.stop = (pre ++ x.text).length := by
    rw [x.span_occurrence]
  have hfront : renderedBefore { p with links := p.links.map f } pre.length = splice pre 0 es :=
    renderedBefore_eq (p := { p with links := p.links.map f }) htext hedits
      (fun e he => (hes e he).2.2.1) fun e he => (hown e he).2
  refine ⟨x, pre, rest, splice (pre ++ (x.text ++ rest)) (pre ++ x.text).length fs, htext, rfl, ?_⟩
  change Link.Placed (splice p.text 0 (edits { p with links := p.links.map f })) _
    (renderedBefore { p with links := p.links.map f } pre.length) _ _
  rw [hfront]
  refine ⟨?_, length_splice_of_le (Link.le_start_of_mem ho) fun e he => (hes e he).1, ?_⟩
  · rw [hedits, htext, splice_append pre _ (Nat.zero_le _) (fun e he => (hes e he).2.imp id (·.1))
      fun e he => (hown e he).1, splice_link pre x rest _ fun e he => hstop ▸ hfs e he]
  · have h := guards_splice hguards (fun e he => (hes e he).2.2.2) 0 none fun _ => rfl
    rwa [Link.lastOf_eq, Option.or_none] at h

/-! ## Links found again -/

/-- A link that is not made plain text keeps its destination or gets its own one written. -/
theorem newText?_of_not_inert (hf : ∀ l, (f l).origin = l.origin) {o : Link.Occurrence}
    (hcode : Span.anyContains (Link.codeRegions p.text p.bodyOffset) o.start = false) {l : Link}
    (hl : l = f (Link.ofOccurrence p.text o)) (hinert : l.inert = false) :
    p.newText? f o = if l.changed then
      some (Link.writeDestination l.url.toList (l.title.map String.toList)) else none := by
  have horigin : l.origin.span = some o.span := by
    rw [hl, hf]
    rfl
  rw [newText?, hcode, if_neg Bool.false_ne_true, ← hl, edit?, horigin]
  split
  · rw [Option.map_some, Option.map_some, Link.replacement, hinert, if_neg Bool.false_ne_true]
  · rfl

/-- A link of a page that has a target without blanks and parentheses is found again in the rendered
text, at its place and with its target and title, exactly if the target is not empty, the title
holds no line feed, and the search comes by. -/
theorem mem_find_render_iff (hp : p.links = Link.find p.text p.bodyOffset)
    (hoffset : p.bodyOffset ≤ p.text.length) (hf : ∀ l, (f l).origin = l.origin) {q : Page}
    (hq : q = { p with links := p.links.map f }) {l : Link} (hl : l ∈ q.links)
    (hinert : l.inert = false) (hurl : l.origin.url ≠ "") (hbare : Link.Bare l.url) :
    ∃ place, q.place? l = some place ∧
      ((∃ m ∈ Link.find q.render q.bodyOffset, m.start? = some place ∧ l.Agrees m) ↔
        l.url ≠ "" ∧ (∀ t ∈ l.title, '\n' ∉ t.toList) ∧
          Link.Reached q.render q.bodyOffset place) := by
  subst hq
  obtain ⟨l₀, hl₀, rfl⟩ := List.mem_map.mp hl
  rw [hp] at hl₀
  obtain ⟨o, ho, rfl⟩ := List.mem_map.mp hl₀
  obtain ⟨ho, hcode⟩ := List.mem_filter.mp ho
  obtain ⟨x, pre, rest, after, htext, hx, hplaced⟩ := exists_placed hp hoffset hf ho
  generalize hlink : f (Link.ofOccurrence p.text o) = l at *
  have horigin : l.origin = (Link.ofOccurrence p.text o).origin := hlink ▸ hf _
  have hstart : l.start? = some o.start := by
    rw [← Link.start?_ofOccurrence ho, Link.start?, Link.start?, horigin]
  rw [newText?_of_not_inert hf (Bool.not_eq_true' _ ▸ hcode) hlink.symm hinert] at hplaced
  refine ⟨(renderedBefore { p with links := p.links.map f } o.start).length,
    by rw [place?, hstart]; rfl, ?_⟩
  by_cases hchanged : l.changed = true
  · rw [if_pos hchanged, Option.getD_some] at hplaced
    exact hplaced.written_iff hbare
  · rw [if_neg hchanged, Option.getD_none] at hplaced
    obtain ⟨hkept, htitle⟩ : l.url = l.origin.url ∧ l.title = l.origin.title := by
      simpa [Link.changed, hinert] using hchanged
    rw [← hkept] at hurl
    rw [horigin, hx] at hkept htitle
    exact hplaced.kept_iff hkept htitle hurl

end Page

end Crosslink
