import Crosslink.Proofs.Link.Layout

/-!
# What is found in a rendered page

Rendering replaces the destinations of changed links. Where the page is laid out by its links and
every new destination settles, the rendered text is laid out again, behind the same front matter,
and only links to the destinations wanted are found in it.
-/

namespace Crosslink

open Text (Span)

namespace Link

variable {text : List Char} {offset : Nat}

/-- Every link that occurs is written where it occurs, behind what is passed over, and no guard
stands before it. -/
theorem exists_inline_of_mem {skip : Nat} {before : Option Char} {cs : List Char} {o : Occurrence}
    (h : o ∈ occurrencesFrom skip before offset cs) :
    ∃ (pre : List Char) (x : Inline) (rest : List Char),
      cs = pre ++ (x.text ++ rest) ∧ o = x.occurrence (offset + pre.length) ∧
        skip ≤ pre.length ∧ guards (lastOf before pre) = false := by
  induction cs generalizing skip before offset with
  | nil =>
    rw [occurrencesFrom] at h
    cases h
  | cons c cs ih =>
    have hlater : ∀ {least skip : Nat}, least ≤ skip + 1 →
        o ∈ occurrencesFrom skip (some c) (offset + 1) cs →
        ∃ (pre : List Char) (x : Inline) (rest : List Char),
          c :: cs = pre ++ (x.text ++ rest) ∧ o = x.occurrence (offset + pre.length) ∧
            least ≤ pre.length ∧ guards (lastOf before pre) = false := by
      intro least skip hleast h
      obtain ⟨pre, x, rest, rfl, rfl, hskip, hguards⟩ := ih h
      exact ⟨c :: pre, x, rest, rfl, by rw [List.length_cons, Nat.add_right_comm, Nat.add_assoc],
        Nat.le_trans hleast (Nat.succ_le_succ hskip), hguards⟩
    cases skip with
    | succ skip =>
      rw [occurrencesFrom] at h
      exact hlater (Nat.le_refl _) h
    | zero =>
      rw [occurrencesFrom] at h
      cases hfound : if guards before then none else occurrenceAt? offset (c :: cs) with
      | none =>
        simp only [hfound] at h
        exact hlater (Nat.zero_le _) h
      | some o' =>
        simp only [hfound] at h
        rcases List.mem_cons.mp h with rfl | h
        · obtain ⟨hguards, x, rest, hcs, hx⟩ := Inline.of_found hfound
          exact ⟨[], x, rest, hcs, hx, Nat.le_refl _, hguards⟩
        · exact hlater (Nat.zero_le _) h

/-- The links that occur behind some characters. -/
theorem occurrences_append (pre cs : List Char) :
    occurrences (pre ++ cs) pre.length = occurrencesFrom 0 pre.getLast? pre.length cs := by
  have hbefore : (if pre.length = 0 then none else (pre ++ cs)[pre.length - 1]?) =
      pre.getLast? := by
    rcases List.eq_nil_or_concat pre with rfl | ⟨front, c, rfl⟩
    · rfl
    · simp
  rw [occurrences, List.drop_left, hbefore]

/-- The span of a link covers its destination with the parentheses. -/
theorem Inline.slice_span (x : Inline) (pre rest : List Char) :
    (x.occurrence pre.length).span.slice (pre ++ (x.text ++ rest)) = '(' :: x.tail := by
  rw [x.span_occurrence, ← List.append_assoc, slice_prefix, x.text_eq, ← List.append_assoc, List.drop_left]

/-- Every link that occurs in a text is written there. -/
theorem exists_inline_of_mem_occurrences (h : offset ≤ text.length) {o : Occurrence}
    (ho : o ∈ occurrences text offset) : ∃ (pre : List Char) (x : Inline) (rest : List Char),
      text = pre ++ (x.text ++ rest) ∧ o = x.occurrence pre.length ∧
        guards pre.getLast? = false := by
  have hlength : (text.take offset).length = offset := List.length_take_of_le h
  have htext := occurrences_append (text.take offset) (text.drop offset)
  rw [List.take_append_drop, hlength] at htext
  rw [htext] at ho
  obtain ⟨pre, x, rest, hdrop, rfl, -, hguards⟩ := exists_inline_of_mem ho
  refine ⟨text.take offset ++ pre, x, rest, ?_, ?_, ?_⟩
  · rw [List.append_assoc, ← hdrop, List.take_append_drop]
  · rw [List.length_append, hlength]
  · rwa [List.getLast?_append, ← lastOf_eq]

/-- The links that are found are among those that occur. -/
theorem of_mem_find_occurrences {l : Link} (h : l ∈ find text offset) :
    ∃ o ∈ occurrences text offset, l = ofOccurrence text o := by
  obtain ⟨o, ho, rfl⟩ := List.mem_map.mp h
  exact ⟨o, (List.mem_filter.mp ho).1, rfl⟩

end Link

namespace Page

/-- The character before the body. -/
def before (p : Page) : Option Char := (p.text.take p.bodyOffset).getLast?

/-- The new text of the destination of a link that occurs in the page, if it is found there and
changed by `f`. -/
def newText? (p : Page) (f : Link → Link) (o : Link.Occurrence) : Option (List Char) :=
  if Span.anyContains (Link.codeRegions p.text p.bodyOffset) o.start then none
  else (edit? p.text (f (Link.ofOccurrence p.text o))).map (·.2)

variable {p : Page} {f : Link → Link}

/-- The changes of the links of a page are those of the links that occur in it. -/
theorem edits_eq (hp : p.links = Link.find p.text p.bodyOffset)
    (hf : ∀ l, (f l).origin = l.origin) :
    (p.links.map f).filterMap (edit? p.text) = (Link.occurrences p.text p.bodyOffset).filterMap
      fun o => (p.newText? f o).map (o.span, ·) := by
  have hspan : ∀ o, ((edit? p.text (f (Link.ofOccurrence p.text o))).map (·.2)).map
      (fun new => (o.span, new)) = edit? p.text (f (Link.ofOccurrence p.text o)) := by
    intro o
    rw [edit?, hf]
    cases (f (Link.ofOccurrence p.text o)).changed <;> rfl
  rw [hp, Link.find, List.filterMap_map, List.filterMap_map, List.filterMap_filter]
  refine congrArg (List.filterMap · _) (funext fun o => ?_)
  rw [newText?, Function.comp, Function.comp]
  cases Span.anyContains (Link.codeRegions p.text p.bodyOffset) o.start with
  | true => rfl
  | false => exact (hspan o).symm

/-- A page that is laid out and whose changed links settle is rendered as a text that is laid out
behind the same front matter. -/
theorem render_laid {P Q : Link.Destination → Prop} (hp : p.links = Link.find p.text p.bodyOffset)
    (hoffset : p.bodyOffset ≤ p.text.length) (hlaid : Link.Laid Q p.before p.body)
    (hf : ∀ l, (f l).origin = l.origin)
    (hnew : ∀ o ∈ Link.occurrences p.text p.bodyOffset, Link.Settles P o (p.newText? f o)) :
    ∃ cs, Link.Laid P p.before cs ∧
      render { p with links := p.links.map f } = p.text.take p.bodyOffset ++ cs := by
  have htext : p.text.take p.bodyOffset ++ p.body = p.text := List.take_append_drop _ _
  have hlength : (p.text.take p.bodyOffset).length = p.bodyOffset :=
    List.length_take_of_le hoffset
  have hfound : Link.occurrences p.text p.bodyOffset =
      Link.occurrencesFrom 0 p.before (p.text.take p.bodyOffset).length p.body := by
    have h := Link.occurrences_append (p.text.take p.bodyOffset) p.body
    rw [hlength]
    rwa [htext, hlength] at h
  rw [hfound] at hnew
  obtain ⟨cs, hcs, hsplice⟩ := hlaid.splice (Nat.zero_le _) hnew
  refine ⟨cs, hcs, ?_⟩
  rw [render, edits_eq hp hf, hfound]
  rwa [htext, List.drop_zero] at hsplice

/-- In a rendered text that is laid out only links to wanted destinations are found. -/
theorem of_mem_find_laid {P : Link.Destination → Prop} {pre cs : List Char}
    (h : Link.Laid P pre.getLast? cs) {offset : Nat} (hoffset : pre.length = offset) {l : Link}
    (hl : l ∈ Link.find (pre ++ cs) offset) : ∃ d, P d ∧ l.url = String.ofList d.url := by
  subst hoffset
  obtain ⟨o, ho, rfl⟩ := Link.of_mem_find_occurrences hl
  rw [Link.occurrences_append] at ho
  exact ⟨o.destination, h.of_mem ho, rfl⟩

end Page

end Crosslink
