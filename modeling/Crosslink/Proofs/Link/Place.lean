import Crosslink.Proofs.Page.Rendering

/-!
# Where links begin

A link is found at the offset of its opening bracket, which is not before the offset at which the
search begins. The links that occur lie one behind the other. Where a link is written, it is found
if the search comes by its opening bracket: no link that begins before goes beyond it, and it does
not lie in code.
-/

namespace Crosslink.Link

open Text (Span)

variable {text : List Char} {offset : Nat}

/-- The offset of the opening bracket of a link, if its place is known. -/
def start? (l : Link) : Option Nat :=
  l.origin.span.map fun span => span.start - l.origin.text.toList.length - 2

/-- Where the label of one link is written, another one has the same label. -/
theorem Inline.eq_of_head_append {x y : Inline} {cs rest : List Char}
    (h : x.head ++ cs = y.text ++ rest) : y.label = x.label ∧ cs = '(' :: (y.tail ++ rest) := by
  have hx := x.label_reads cs
  have hy := y.label_reads ('(' :: (y.tail ++ rest))
  have hinner : x.label ++ [']'] ++ cs = y.label ++ [']'] ++ '(' :: (y.tail ++ rest) := by
    simpa [head, text] using h
  rw [hinner, hy] at hx
  obtain ⟨hlabel, hcs⟩ := Prod.mk.inj (Option.some.inj hx)
  exact ⟨hlabel, hcs.symm⟩

/-- The search for links comes by a place of the text that is not in code. -/
structure Reached (text : List Char) (offset place : Nat) : Prop where
  code : Span.anyContains (codeRegions text offset) place = false
  links : ∀ o ∈ occurrences text offset, o.start < place → o.span.stop ≤ place

instance (text : List Char) (offset place : Nat) : Decidable (Reached text offset place) :=
  decidable_of_iff (_ ∧ _) ⟨fun h => ⟨h.1, h.2⟩, fun h => ⟨h.code, h.links⟩⟩

/-- No link begins in what the search for links passes over. -/
theorem le_start_of_mem {skip : Nat} {before : Option Char} {cs : List Char} {o : Occurrence}
    (h : o ∈ occurrencesFrom skip before offset cs) : offset + skip ≤ o.start := by
  obtain ⟨pre, x, rest, -, rfl, hskip, -⟩ := exists_inline_of_mem h
  exact Nat.add_le_add_left hskip offset

/-- The links that occur lie one behind the other. -/
theorem pairwise_occurrencesFrom (skip : Nat) (before : Option Char) (offset : Nat)
    (cs : List Char) :
    (occurrencesFrom skip before offset cs).Pairwise fun a b => a.span.stop ≤ b.start := by
  induction cs generalizing skip before offset with
  | nil => exact .nil
  | cons c cs ih =>
    cases skip with
    | succ skip => exact ih skip _ _
    | zero =>
      rw [occurrencesFrom]
      cases if guards before then none else occurrenceAt? offset (c :: cs) with
      | none => exact ih 0 _ _
      | some o =>
        refine List.pairwise_cons.mpr ⟨fun b hb => ?_, ih _ _ _⟩
        have := le_start_of_mem hb
        omega

/-- A link that is written behind some characters is found if no link that begins among them goes
beyond them. -/
theorem mem_occurrencesFrom_append (x : Inline) {skip : Nat} {before : Option Char}
    {pre rest : List Char} (hskip : skip ≤ pre.length)
    (hguards : guards (lastOf before pre) = false)
    (h : ∀ o ∈ occurrencesFrom skip before offset (pre ++ (x.text ++ rest)),
      o.start < offset + pre.length → o.span.stop ≤ offset + pre.length) :
    x.occurrence (offset + pre.length) ∈
      occurrencesFrom skip before offset (pre ++ (x.text ++ rest)) := by
  -- by what stands before the link: a link that begins there is passed over and ends there
  induction pre generalizing skip before offset with
  | nil =>
    obtain rfl : skip = 0 := Nat.le_zero.mp hskip
    have hfirst := occurrencesFrom_text x hguards offset rest
    exact hfirst ▸ List.mem_cons_self
  | cons c pre ih =>
    have hplace : offset + (c :: pre).length = offset + 1 + pre.length := by
      rw [List.length_cons, Nat.add_assoc, Nat.add_comm 1]
    rw [hplace] at h ⊢
    cases skip with
    | succ skip => exact ih (Nat.le_of_succ_le_succ hskip) hguards h
    | zero =>
      rw [List.cons_append, occurrencesFrom] at h ⊢
      cases hfound : if guards before then none
          else occurrenceAt? offset (c :: (pre ++ (x.text ++ rest))) with
      | none =>
        simp only [hfound] at h ⊢
        exact ih (Nat.zero_le _) hguards h
      | some o =>
        simp only [hfound] at h ⊢
        obtain ⟨hfirst, hlater⟩ := List.forall_mem_cons.mp h
        obtain ⟨-, y, after, -, rfl⟩ := Inline.of_found hfound
        have hstop := hfirst (by simp only [Inline.occurrence]; omega)
        exact List.mem_cons_of_mem _ (ih (by omega) hguards hlater)

/-- The links that occur in a text behind some characters lie one behind the other. -/
theorem pairwise_occurrences (text : List Char) (offset : Nat) :
    (occurrences text offset).Pairwise fun a b => a.span.stop ≤ b.start :=
  pairwise_occurrencesFrom _ _ _ _

/-- The destination of a link stands behind its opening bracket. -/
theorem span_of_mem {o : Occurrence} (h : o ∈ occurrences text offset) :
    o.start < o.span.start ∧ o.span.start < o.span.stop := by
  obtain ⟨pre, x, rest, -, rfl, -⟩ := exists_inline_of_mem h
  simp only [Inline.occurrence]
  omega

/-- A link begins in the part of the text in which it occurs. -/
theorem bounds_of_mem_occurrences {o : Occurrence} (hoffset : offset ≤ text.length)
    (ho : o ∈ occurrences text offset) : offset ≤ o.start ∧ o.start < text.length := by
  refine ⟨le_start_of_mem ho, ?_⟩
  obtain ⟨pre, x, rest, rfl, rfl, -⟩ := exists_inline_of_mem_occurrences hoffset ho
  simp only [Inline.occurrence, List.length_append, x.length_text]
  omega

/-- A link that occurs begins at its opening bracket. -/
theorem start?_ofOccurrence {o : Occurrence} (h : o ∈ occurrences text offset) :
    (ofOccurrence text o).start? = some o.start := by
  obtain ⟨pre, x, rest, -, rfl, -⟩ := exists_inline_of_mem h
  simp only [start?, ofOccurrence, ofOrigin, Inline.occurrence, String.toList_ofList,
    Option.map_some]
  congr 1
  omega

/-- A link that is found begins at or after the offset at which the search begins. -/
theorem exists_start_of_mem_find {l : Link} (h : l ∈ find text offset) :
    ∃ start, l.start? = some start ∧ offset ≤ start := by
  obtain ⟨o, ho, rfl⟩ := List.mem_map.mp h
  have ho := (List.mem_filter.mp ho).1
  exact ⟨o.start, start?_ofOccurrence ho, le_start_of_mem ho⟩

/-- The search for links comes by every link that is found. -/
theorem reached_of_mem {o : Occurrence} (h : o ∈ occurrences text offset)
    (hcode : Span.anyContains (codeRegions text offset) o.start = false) :
    Reached text offset o.start := by
  refine ⟨hcode, fun a ha hstart => ?_⟩
  obtain ⟨earlier, later, hos⟩ := List.append_of_mem h
  have hpairwise := pairwise_occurrences text offset
  rw [hos] at ha hpairwise
  obtain ⟨-, hlater, hearlier⟩ := List.pairwise_append.mp hpairwise
  have hspan := span_of_mem h
  rcases List.mem_append.mp ha with ha | ha
  · exact hearlier a ha o List.mem_cons_self
  rcases List.mem_cons.mp ha with rfl | ha
  · exact absurd hstart (Nat.lt_irrefl _)
  · have hnext := (List.pairwise_cons.mp hlater).1 a ha
    omega

/-- A label that is written in a text, with no guard before it, and what follows it. -/
structure Placed (text : List Char) (offset : Nat) (front : List Char) (x : Inline)
    (cs : List Char) : Prop where
  written : text = front ++ (x.head ++ cs)
  offset_le : offset ≤ front.length
  unguarded : guards front.getLast? = false

/-- Another link has the target and the title of a link, where an empty title counts as none. -/
def Agrees (l m : Link) : Prop := m.url = l.url ∧ m.title.filter (· != "") = l.title.filter (· != "")

instance (l m : Link) : Decidable (l.Agrees m) := inferInstanceAs (Decidable (_ ∧ _))

/-- A title that is read, or none, agrees with no title that holds a line feed. -/
theorem Agrees.not_mem_title {l m : Link} (h : l.Agrees m) {cs after : List Char}
    {d : Destination} (hread : destination? cs = some (d, after))
    (hm : m.title = d.title.map String.ofList) : ∀ t ∈ l.title, '\n' ∉ t.toList := by
  intro t ht hmem
  have hne : t ≠ "" := by
    rintro rfl
    cases hmem
  have htitle : m.title = some t := by
    have hfilter : m.title.filter (· != "") = some t := by
      rw [h.2, Option.mem_def.mp ht, Option.filter_some_pos (by simpa using hne)]
    exact (Option.filter_eq_some_iff.mp hfilter).1
  rw [hm] at htitle
  obtain ⟨title, hd, rfl⟩ := Option.map_eq_some_iff.mp htitle
  exact not_mem_title_of_destination? hread hd (by simpa using hmem)

/-- What is read back of the destination of a link agrees with the link. -/
theorem agrees_of_written {l m : Link} (hurl : m.url = String.ofList l.url.toList)
    (htitle : m.title =
      ((l.title.map String.toList).filter fun t => !t.isEmpty).map String.ofList) :
    l.Agrees m := by
  refine ⟨by rw [hurl, String.ofList_toList], ?_⟩
  rw [htitle]
  cases l.title with
  | none => rfl
  | some t =>
    by_cases ht : t = ""
    · subst ht
      rfl
    · have hne : t.toList ≠ [] := fun he => ht (String.toList_eq_nil_iff.mp he)
      rw [Option.map_some, Option.filter_some_pos (by simpa using hne), Option.map_some,
        String.ofList_toList]

namespace Placed

variable {front cs tail after : List Char} {x : Inline} {d : Destination}

/-- A link is found at a label if a destination that can be read follows and the search comes
by. -/
theorem exists_mem (h : Placed text offset front x ('(' :: (tail ++ after)))
    (hread : Reads destination? tail d) (hreached : Reached text offset front.length) :
    ∃ m ∈ find text offset, m.start? = some front.length ∧ m.url = String.ofList d.url ∧
      m.title = d.title.map String.ofList := by
  obtain ⟨y, hy, hd⟩ : ∃ y : Inline, y.text = x.head ++ '(' :: tail ∧ y.destination = d :=
    ⟨⟨x.label, tail, d, x.label_reads, hread⟩, Inline.text_eq _, rfl⟩
  have htext : text = front ++ (y.text ++ after) := by
    rw [h.written, hy]
    simp
  have hmem : y.occurrence front.length ∈ occurrences text offset := by
    obtain ⟨start, back, rfl, rfl⟩ : ∃ start back, front = start ++ back ∧
        offset = start.length :=
      ⟨front.take offset, front.drop offset, (List.take_append_drop _ _).symm,
        (List.length_take_of_le h.offset_le).symm⟩
    have hguards := h.unguarded
    have hlinks := hreached.links
    rw [List.getLast?_append, ← lastOf_eq] at hguards
    rw [htext, List.append_assoc, occurrences_append, List.length_append] at hlinks ⊢
    exact mem_occurrencesFrom_append y (Nat.zero_le _) hguards hlinks
  refine ⟨ofOccurrence text (y.occurrence front.length),
    List.mem_map_of_mem (List.mem_filter.mpr ⟨hmem, ?_⟩), start?_ofOccurrence hmem, ?_, ?_⟩
  · exact congrArg (!·) hreached.code
  · exact congrArg String.ofList (congrArg Destination.url hd)
  · exact congrArg (Option.map String.ofList) (congrArg Destination.title hd)

/-- Where a link is found at a label, a destination is read after it, and the search comes by. -/
theorem of_mem (h : Placed text offset front x cs) {m : Link} (hm : m ∈ find text offset)
    (hstart : m.start? = some front.length) : ∃ tail d after, cs = '(' :: tail ∧
      destination? tail = some (d, after) ∧ m.url = String.ofList d.url ∧
      m.title = d.title.map String.ofList ∧ Reached text offset front.length := by
  obtain ⟨o, ho, rfl⟩ := List.mem_map.mp hm
  obtain ⟨ho, hcode⟩ := List.mem_filter.mp ho
  have hplace : o.start = front.length :=
    Option.some.inj ((start?_ofOccurrence ho).symm.trans hstart)
  have hreached := reached_of_mem ho (Bool.not_eq_true' _ ▸ hcode)
  rw [hplace] at hreached
  have hoffset : offset ≤ text.length := by
    rw [h.written, List.length_append]
    exact Nat.le_trans h.offset_le (Nat.le_add_right _ _)
  obtain ⟨pre, y, rest, hpre, rfl, -⟩ := exists_inline_of_mem_occurrences hoffset ho
  obtain ⟨rfl, hrest⟩ := List.append_inj (h.written.symm.trans hpre) hplace.symm
  obtain ⟨-, rfl⟩ := Inline.eq_of_head_append hrest
  exact ⟨_, _, _, rfl, y.tail_reads rest, rfl, rfl, hreached⟩

/-- A link whose destination is written after a label is found there exactly if it has a target,
its title holds no line feed, and the search comes by. -/
theorem written_iff {l : Link} (h : Placed text offset front x
      (writeDestination l.url.toList (l.title.map String.toList) ++ after))
    (hbare : Bare l.url) :
    (∃ m ∈ find text offset, m.start? = some front.length ∧ l.Agrees m) ↔
      l.url ≠ "" ∧ (∀ t ∈ l.title, '\n' ∉ t.toList) ∧ Reached text offset front.length := by
  constructor
  · rintro ⟨m, hm, hplace, hagrees⟩
    obtain ⟨tail, d, rest, hcs, hread, hurl, htitle, hreached⟩ := h.of_mem hm hplace
    refine ⟨fun hempty => ?_, hagrees.not_mem_title hread htitle, hreached⟩
    -- behind an empty target the parenthesis or the title would have to be read as one
    obtain ⟨written, hwritten⟩ : ∃ written,
        writeDestination [] (l.title.map String.toList) = '(' :: written := by
      rcases l.title.map String.toList with _ | (_ | ⟨c, cs⟩) <;> exact ⟨_, rfl⟩
    rw [hempty, String.toList_empty, hwritten] at hcs
    cases hcs
    refine ne_nil_of_writeDestination hwritten hread ?_
    rw [← String.toList_ofList (l := d.url), ← hurl, hagrees.1, hempty, String.toList_empty]
  · rintro ⟨hne, htitle, hreached⟩
    have hwritable : Writable l.url.toList :=
      ⟨fun he => hne (String.toList_eq_nil_iff.mp he), .inl (List.all_eq_true.mpr hbare)⟩
    obtain ⟨tail, hwritten, hread⟩ := reads_writeDestination hwritable
      (l.title.map String.toList) fun t ht => by
        obtain ⟨title, htitle', rfl⟩ := Option.map_eq_some_iff.mp ht
        exact htitle title htitle'
    rw [hwritten] at h
    obtain ⟨m, hm, hplace, hurl, htitle⟩ := h.exists_mem hread hreached
    exact ⟨m, hm, hplace, agrees_of_written hurl htitle⟩

/-- A link that keeps its destination is found at its label exactly if the search comes by. -/
theorem kept_iff {l : Link} (h : Placed text offset front x ('(' :: x.tail ++ after))
    (hurl : l.url = String.ofList x.destination.url)
    (htitle : l.title = x.destination.title.map String.ofList) (hne : l.url ≠ "") :
    (∃ m ∈ find text offset, m.start? = some front.length ∧ l.Agrees m) ↔
      l.url ≠ "" ∧ (∀ t ∈ l.title, '\n' ∉ t.toList) ∧ Reached text offset front.length := by
  constructor
  · rintro ⟨m, hm, hplace, hagrees⟩
    obtain ⟨tail, d, rest, -, hread, -, hmtitle, hreached⟩ := h.of_mem hm hplace
    exact ⟨hne, hagrees.not_mem_title hread hmtitle, hreached⟩
  · rintro ⟨-, -, hreached⟩
    obtain ⟨m, hm, hplace, hmurl, hmtitle⟩ := h.exists_mem x.tail_reads hreached
    exact ⟨m, hm, hplace, hmurl.trans hurl.symm, by rw [hmtitle, htitle]⟩

end Placed

end Crosslink.Link
