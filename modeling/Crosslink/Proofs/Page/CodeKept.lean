import Crosslink.Proofs.Link.CodeSpan
import Crosslink.Proofs.Page.Place

/-!
# Code in a rendered page

A link is found if its opening bracket does not stand in code. Its destination may reach into code
all the same, but only into code that begins inside the link, behind its bracket. Code that no
changed destination reaches into is kept by rendering, character by character.
-/

namespace Crosslink

open Text (Span)

/-- Some offset lies in both spans. -/
def Text.Span.Overlaps (a b : Span) : Prop :=
  ∃ offset, a.contains offset = true ∧ b.contains offset = true

theorem Text.Span.overlaps_iff {a b : Span} :
    a.Overlaps b ↔ max a.start b.start < min a.stop b.stop := by
  simp only [Overlaps, contains_iff]
  constructor
  · rintro ⟨offset, h⟩
    omega
  · intro h
    exact ⟨max a.start b.start, by omega⟩

instance (a b : Span) : Decidable (a.Overlaps b) :=
  decidable_of_iff _ Text.Span.overlaps_iff.symm

namespace Link

variable {text : List Char} {offset : Nat}

/-! ## Where code begins -/

/-- A code span is found where it begins. -/
theorem exists_of_mem_codeSpans {skip : Nat} {cs : List Char} {s : Span}
    (h : s ∈ codeSpans skip offset cs) :
    ∃ k, s.start = offset + k ∧ spanEnd? s.start (cs.drop k) = some s.stop := by
  induction cs generalizing skip offset with
  | nil =>
    rw [codeSpans] at h
    cases h
  | cons c cs ih =>
    have hlater : ∀ {skip}, s ∈ codeSpans skip (offset + 1) cs →
        ∃ k, s.start = offset + k ∧ spanEnd? s.start ((c :: cs).drop k) = some s.stop := by
      intro skip h
      obtain ⟨k, hstart, hspan⟩ := ih h
      exact ⟨k + 1, by omega, hspan⟩
    cases skip with
    | succ skip =>
      rw [codeSpans] at h
      exact hlater h
    | zero =>
      rw [codeSpans] at h
      cases hspan : spanEnd? offset (c :: cs) with
      | none =>
        rw [hspan] at h
        exact hlater h
      | some stop =>
        rw [hspan] at h
        rcases List.mem_cons.mp h with rfl | h
        · exact ⟨0, rfl, hspan⟩
        · exact hlater h

/-- Where code may lie: it is not empty, and it begins with a backtick or where a line begins. -/
structure CodeOf (text : List Char) (r : Span) : Prop where
  nonempty : r.start < r.stop
  stop_le : r.stop ≤ text.length
  begins : isLineStart text r.start = true ∨ text[r.start]? = some '\x60'

theorem codeOf_of_mem_codeRegions {r : Span} (h : r ∈ codeRegions text offset) :
    CodeOf text r := by
  rw [codeRegions] at h
  rcases List.mem_append.mp h with h | h
  · rw [fencedFrom_eq_blocks] at h
    have hblock := blockOf_of_mem_blocks h
    exact ⟨hblock.nonempty, hblock.stop_le, .inl hblock.begins⟩
  · obtain ⟨k, hstart, hspan⟩ := exists_of_mem_codeSpans (List.mem_filter.mp h).1
    obtain ⟨hlt, hstop⟩ := lt_of_spanEnd? hspan
    rw [List.drop_drop, ← hstart] at hspan hstop
    rw [List.length_drop] at hstop
    have hsome : ∃ c, text[r.start]? = some c ∧ isTick c = true := by
      cases hcs : text.drop r.start with
      | nil => simp [hcs, spanEnd?] at hspan
      | cons c cs =>
        rw [hcs] at hspan
        refine ⟨c, by rw [← List.head?_drop, hcs, List.head?_cons], ?_⟩
        cases htick : isTick c with
        | true => rfl
        | false => simp [spanEnd?, htick] at hspan
    obtain ⟨c, hget, htick⟩ := hsome
    have hlength := (List.getElem?_eq_some_iff.mp hget).1
    exact ⟨hlt, by omega, .inr (hget.trans (congrArg some (eq_of_beq htick)))⟩

/-! ## Links that reach into code -/

/-- The place of a link that is found: its destination stands behind its bracket, which does not
stand in code. -/
theorem exists_of_mem_find {l : Link} (h : l ∈ find text offset) :
    ∃ start span, l.start? = some start ∧ l.origin.span = some span ∧ start < span.start ∧
      span.start < span.stop ∧ Span.anyContains (codeRegions text offset) start = false := by
  obtain ⟨o, ho, rfl⟩ := List.mem_map.mp h
  obtain ⟨ho, hcode⟩ := List.mem_filter.mp ho
  have hspan := span_of_mem ho
  exact ⟨o.start, o.span, start?_ofOccurrence ho, rfl, hspan.1, hspan.2,
    (Bool.not_eq_true' _).mp hcode⟩

/-- The destination of a link that is found reaches into code exactly if the code begins inside the
link and does not end before the destination. -/
theorem overlaps_iff_begins_inside {r : Span} (hr : r ∈ codeRegions text offset) {start : Nat}
    {span : Span} (hspan : start < span.start) (hlt : span.start < span.stop)
    (hcode : Span.anyContains (codeRegions text offset) start = false) :
    span.Overlaps r ↔ start < r.start ∧ r.start < span.stop ∧ span.start < r.stop := by
  have hout : ¬ (r.start ≤ start ∧ start < r.stop) := by
    intro h
    rw [Span.anyContains_iff.mpr ⟨r, hr, h⟩] at hcode
    cases hcode
  have hne := (codeOf_of_mem_codeRegions hr).nonempty
  rw [Span.overlaps_iff]
  omega

/-- Code that begins inside a link does so with a backtick or behind a line feed of it. -/
theorem exists_tick_or_feed {r : Span} (hr : CodeOf text r) {start stop : Nat}
    (hstart : start < r.start) (hstop : r.start < stop) :
    ∃ i, start ≤ i ∧ i < stop ∧ (text[i]? = some '\x60' ∨ text[i]? = some '\n') := by
  rcases hr.begins with hline | htick
  · have hfeed : text[r.start - 1]? = some '\n' := by
      have hne : r.start ≠ 0 := Nat.ne_of_gt (Nat.zero_lt_of_lt hstart)
      simpa [isLineStart, hne] using hline
    exact ⟨r.start - 1, by omega, by omega, .inr hfeed⟩
  · exact ⟨r.start, Nat.le_of_lt hstart, hstop, .inl htick⟩

end Link

namespace Page

/-- In a list whose order keeps those that satisfy a test together in front, these come first. -/
theorem eq_filter_append_filter {α : Type} {p : α → Bool} {xs : List α}
    (h : xs.Pairwise fun x y => p y = true → p x = true) :
    xs = xs.filter p ++ xs.filter fun x => !p x := by
  induction xs with
  | nil => rfl
  | cons x xs ih =>
    obtain ⟨hx, hxs⟩ := List.pairwise_cons.mp h
    cases hp : p x with
    | true =>
      rw [List.filter_cons_of_pos hp, List.filter_cons_of_neg (by simp [hp]), List.cons_append,
        ← ih hxs]
    | false =>
      have hnone : ∀ y ∈ xs, p y = false := by
        intro y hy
        cases hpy : p y with
        | false => rfl
        | true => exact absurd (hx y hy hpy) (by simp [hp])
      rw [List.filter_cons_of_neg (by simp [hp]), List.filter_cons_of_pos (by simp [hp]),
        List.filter_eq_nil_iff.mpr fun y hy => by simp [hnone y hy], List.nil_append,
        List.filter_eq_self.mpr fun y hy => by simp [hnone y hy]]

variable {q : Page}

/-- Two links of a page lie one behind the other. -/
theorem pairwise_links
    (h : q.links.map (·.origin) = (Link.find q.text q.bodyOffset).map (·.origin)) :
    q.links.Pairwise fun l m => ∀ s ∈ l.origin.span, ∀ t ∈ m.origin.span,
      s.start < s.stop ∧ s.stop ≤ t.start ∧ t.start < t.stop := by
  have hfind : (Link.find q.text q.bodyOffset).Pairwise fun l m => ∀ s ∈ l.origin.span,
      ∀ t ∈ m.origin.span, s.start < s.stop ∧ s.stop ≤ t.start ∧ t.start < t.stop := by
    refine List.pairwise_map.mpr ?_
    have hpairs := Link.pairwise_occurrences q.text q.bodyOffset
    refine ((List.Pairwise.and_mem.mp hpairs).filter _).imp ?_
    rintro a b ⟨ha, hb, hab⟩ s ⟨⟩ t ⟨⟩
    have hspan := Link.span_of_mem ha
    have hspan' := Link.span_of_mem hb
    omega
  have horigins : (q.links.map (·.origin)).Pairwise fun x y => ∀ s ∈ x.span, ∀ t ∈ y.span,
      s.start < s.stop ∧ s.stop ≤ t.start ∧ t.start < t.stop := by
    rw [h]
    exact List.pairwise_map.mpr hfind
  exact List.pairwise_map.mp horigins

/-- The links of a page stand where they were found, whatever has become of them. -/
theorem exists_place_of_mem
    (h : q.links.map (·.origin) = (Link.find q.text q.bodyOffset).map (·.origin)) {l : Link}
    (hl : l ∈ q.links) : ∃ start span, l.start? = some start ∧ l.origin.span = some span ∧
      start < span.start ∧ span.start < span.stop ∧
      Span.anyContains (Link.codeRegions q.text q.bodyOffset) start = false := by
  have horigin : l.origin ∈ q.links.map (·.origin) := List.mem_map_of_mem hl
  rw [h] at horigin
  obtain ⟨m, hm, hml⟩ := List.mem_map.mp horigin
  obtain ⟨start, span, hstart, hspan, hplaces⟩ := Link.exists_of_mem_find hm
  refine ⟨start, span, ?_, hml ▸ hspan, hplaces⟩
  rw [Link.start?] at hstart ⊢
  exact hml ▸ hstart

/-- A change that a page asks for stands at the destination of a link that is changed. -/
theorem exists_of_mem_edits {e : Span × List Char} (he : e ∈ q.edits) :
    ∃ l ∈ q.links, l.changed = true ∧ l.origin.span = some e.1 := by
  obtain ⟨l, hl, hedit⟩ := List.mem_filterMap.mp he
  rw [edit?] at hedit
  split at hedit
  · rename_i hchanged
    obtain ⟨span, hspan, rfl⟩ := Option.map_eq_some_iff.mp hedit
    exact ⟨l, hl, hchanged, hspan⟩
  · cases hedit

/-- What a page asks to change lies one behind the other. -/
theorem pairwise_edits
    (h : q.links.map (·.origin) = (Link.find q.text q.bodyOffset).map (·.origin)) :
    q.edits.Pairwise fun d e =>
      d.1.start < d.1.stop ∧ d.1.stop ≤ e.1.start ∧ e.1.start < e.1.stop := by
  have hspan : ∀ {l : Link} {e : Span × List Char}, edit? q.text l = some e →
      l.origin.span = some e.1 := by
    intro l e hedit
    rw [edit?] at hedit
    split at hedit
    · obtain ⟨span, hspan, rfl⟩ := Option.map_eq_some_iff.mp hedit
      exact hspan
    · cases hedit
  refine List.pairwise_filterMap.mpr ((pairwise_links h).imp ?_)
  intro l m hlm d hd e he
  exact hlm d.1 (hspan hd) e.1 (hspan he)

/-- A part of a text with what is before and behind it. -/
theorem exists_append_slice {r : Span} {text : List Char} (hle : r.start ≤ r.stop)
    (hstop : r.stop ≤ text.length) : ∃ pre rest, text = pre ++ (r.slice text ++ rest) ∧
      pre.length = r.start ∧ (pre ++ r.slice text).length = r.stop := by
  have hdrop : text.drop r.stop = (text.drop r.start).drop (r.stop - r.start) := by
    rw [List.drop_drop, Nat.add_sub_cancel' hle]
  have hpre : (text.take r.start).length = r.start := List.length_take_of_le (by omega)
  refine ⟨text.take r.start, text.drop r.stop, ?_, hpre, ?_⟩
  · rw [Span.slice, hdrop, List.take_append_drop, List.take_append_drop]
  · rw [List.length_append, hpre, Span.slice, List.length_take, List.length_drop]
    omega

/-- The changes before and behind a part of the text that none of them overlaps. -/
theorem exists_edits_around
    (h : q.links.map (·.origin) = (Link.find q.text q.bodyOffset).map (·.origin)) {r : Span}
    (hne : r.start < r.stop) (hr : ∀ e ∈ q.edits, ¬ e.1.Overlaps r) :
    ∃ es fs, q.edits = es ++ fs ∧ (∀ e ∈ es, e.1.start ≤ r.start ∧ e.1.stop ≤ r.start) ∧
      ∀ e ∈ fs, r.stop ≤ e.1.start ∧ r.start < e.1.stop := by
  have hplaces : ∀ e ∈ q.edits, e.1.start < e.1.stop := by
    intro e he
    obtain ⟨l, hl, -, hspan⟩ := exists_of_mem_edits he
    obtain ⟨start, span, -, hspan', -, hlt, -⟩ := exists_place_of_mem h hl
    cases hspan.symm.trans hspan'
    exact hlt
  refine ⟨q.edits.filter fun e => decide (e.1.stop ≤ r.start),
    q.edits.filter fun e => !decide (e.1.stop ≤ r.start),
    eq_filter_append_filter ((pairwise_edits h).imp fun hde he => by simp_all; omega),
    fun e he => ?before, fun e he => ?behind⟩
  case before =>
    obtain ⟨he, hle⟩ := List.mem_filter.mp he
    have hlt := hplaces e he
    have hle := of_decide_eq_true hle
    omega
  case behind =>
    obtain ⟨he, hgt⟩ := List.mem_filter.mp he
    have hlt := hplaces e he
    have hnot := hr e he
    simp only [Bool.not_eq_true', decide_eq_false_iff_not] at hgt
    rw [Span.overlaps_iff] at hnot
    omega

/-- A part of the text that no change overlaps is kept, behind what the text before it becomes. -/
theorem exists_render_eq
    (h : q.links.map (·.origin) = (Link.find q.text q.bodyOffset).map (·.origin)) {r : Span}
    (hne : r.start < r.stop) (hstop : r.stop ≤ q.text.length)
    (hr : ∀ e ∈ q.edits, ¬ e.1.Overlaps r) :
    ∃ after, q.render = q.renderedBefore r.start ++ (r.slice q.text ++ after) := by
  obtain ⟨es, fs, hedits, hbefore, hbehind⟩ := exists_edits_around h hne hr
  obtain ⟨pre, rest, htext, hpre, hpart⟩ := exists_append_slice (Nat.le_of_lt hne) hstop
  have hfront : q.renderedBefore r.start = splice pre 0 es := by
    rw [← hpre]
    exact renderedBefore_eq htext hedits (fun e he => hpre ▸ (hbefore e he).2)
      fun e he => hpre ▸ (hbehind e he).2
  refine ⟨splice q.text r.stop fs, ?_⟩
  change splice q.text 0 q.edits = _
  have hkept := splice_of_le (pre ++ r.slice q.text) rest (k := pre.length) (by simp)
    fun e he => hpart ▸ (hbehind e he).1
  rw [List.drop_left, List.append_assoc, ← htext, hpart] at hkept
  rw [hedits, hfront, ← hkept]
  conv_lhs => rw [htext]
  rw [splice_append pre _ (Nat.zero_le _) (fun e he => hpre ▸ hbefore e he)
    fun e he => by have := (hbehind e he).1; omega, ← htext]

/-- The destination of a link reaches into code exactly if the code begins inside the link, behind
its bracket, and does not end before the destination; the link then holds a backtick or a line feed.
Code that no destination of a changed link reaches into is kept by rendering. -/
theorem code_kept (q : Page)
    (h : q.links.map (·.origin) = (Link.find q.text q.bodyOffset).map (·.origin)) :
    ∀ r ∈ Link.codeRegions q.text q.bodyOffset,
      (∀ l ∈ q.links, ∃ start span, l.start? = some start ∧ l.origin.span = some span ∧
        (span.Overlaps r ↔ start < r.start ∧ r.start < span.stop ∧ span.start < r.stop) ∧
        (span.Overlaps r → ∃ i, start ≤ i ∧ i < span.stop ∧
          (q.text[i]? = some '\x60' ∨ q.text[i]? = some '\n'))) ∧
      ((∀ l ∈ q.links, l.changed = true → ∀ span ∈ l.origin.span, ¬ span.Overlaps r) →
        ∃ after, q.render = q.renderedBefore r.start ++ (r.slice q.text ++ after)) := by
  intro r hr
  have hcode := Link.codeOf_of_mem_codeRegions hr
  refine ⟨fun l hl => ?_, fun hkept => ?_⟩
  · obtain ⟨start, span, hstart, hspan, hbehind, hlt, hout⟩ := exists_place_of_mem h hl
    have hoverlaps := Link.overlaps_iff_begins_inside hr hbehind hlt hout
    refine ⟨start, span, hstart, hspan, hoverlaps, fun hover => ?_⟩
    obtain ⟨hinside, hstop, -⟩ := hoverlaps.mp hover
    exact Link.exists_tick_or_feed hcode hinside hstop
  · refine exists_render_eq h hcode.nonempty hcode.stop_le fun e he => ?_
    obtain ⟨l, hl, hchanged, hspan⟩ := exists_of_mem_edits he
    exact hkept l hl hchanged e.1 hspan

namespace Sample

/-- A page whose links all get one new target. -/
def redirected (text : String) : Page where
  sourceFile := ⟨.relative, ["a.md"]⟩
  relativePath := ⟨.relative, ["a.md"]⟩
  metadata := []
  text := text.toList
  bodyOffset := 0
  links := (Link.find text.toList 0).map fun l => { l with url := "/x" }

end Sample

theorem code_kept_sample :
    ∃ after, (Sample.redirected "[a](ref:x) \x60[b](ref:y)\x60 [c](ref:z)").render =
      "[a](/x) ".toList ++ ("\x60[b](ref:y)\x60".toList ++ after) := by
  have horigins : (Sample.redirected "[a](ref:x) \x60[b](ref:y)\x60 [c](ref:z)").links.map
      (·.origin) = (Link.find "[a](ref:x) \x60[b](ref:y)\x60 [c](ref:z)".toList 0).map
        (·.origin) := by
    decide +kernel
  have hkept := (code_kept _ horigins ⟨11, 23⟩ (by decide +kernel)).2 (by decide +kernel)
  have hbefore : (Sample.redirected "[a](ref:x) \x60[b](ref:y)\x60 [c](ref:z)").renderedBefore 11 =
      "[a](/x) ".toList := by
    decide +kernel
  obtain ⟨after, hrender⟩ := hkept
  rw [hbefore] at hrender
  exact ⟨after, hrender⟩

/-- A code span that begins inside the label of a link and holds its destination is not hidden from
the link, and it is changed. -/
theorem render_changes_code :
    (∃ l ∈ Link.find "[a \x60b](ref:x) c\x60".toList 0, ∃ span ∈ l.origin.span,
      ∃ r ∈ Link.codeRegions "[a \x60b](ref:x) c\x60".toList 0, span.Overlaps r ∧
        r.slice "[a \x60b](ref:x) c\x60".toList = "\x60b](ref:x) c\x60".toList) ∧
      (Sample.redirected "[a \x60b](ref:x) c\x60").render =
        "[a \x60b](/x) c\x60".toList := by
  decide +kernel

end Page

end Crosslink
