import Crosslink.Proofs.Link.Break
import Crosslink.Proofs.Link.Shift
import Crosslink.Proofs.Page.CodeKept

/-!
# Paragraphs

Neither a link nor a code span goes on behind a blank line, and fenced blocks go from line to line.
So if no fenced block is open before a blank line, the links of the text are those of what is before
the line and those of what is behind it, each read without the other.
-/

namespace Crosslink.Link

open Text (Span)

/-- The fence of the block that is open behind some lines, if one is, when `opened` was before. -/
def fenceAfter (opened : Option Fence) : List (List Char) → Option Fence
  | [] => opened
  | line :: rest =>
    match opened with
    | none => fenceAfter (Fence.ofLine? line) rest
    | some fence => fenceAfter (if fence.closedBy line then none else some fence) rest

/-- The fence of the block that a text leaves open, if it leaves one open. -/
def openFence? (text : List Char) : Option Fence := fenceAfter none (text.splitOn '\n')

variable {cs ds : List Char}

/-! ## Before a blank line -/

/-- A line feed behind a text ends a blank line at its front only if nothing else is in the text. -/
theorem startsBlankLine_append_feed (cs ds : List Char) :
    Text.startsBlankLine (cs ++ '\n' :: ds) = Text.startsBlankLine cs ∨
      ∀ c ∈ cs, Text.isGap c = true ∨ c = '\r' := by
  have hgaps : ∀ c ∈ cs.takeWhile Text.isGap, Text.isGap c = true :=
    fun c hc => List.mem_takeWhile_imp hc
  have hcs := List.takeWhile_append_dropWhile (p := Text.isGap) (l := cs)
  rw [Text.startsBlankLine, Text.startsBlankLine, dropGaps_append_break ⟨ds, .inl rfl⟩]
  rcases hrest : cs.dropWhile Text.isGap with _ | ⟨c, rest⟩ <;> rw [hrest] at hcs
  · refine .inr fun c hc => .inl (hgaps c ?_)
    rwa [← hcs, List.append_nil] at hc
  by_cases hfeed : c = '\n'
  · subst hfeed
    exact .inl rfl
  by_cases hreturn : c = '\r'
  · subst hreturn
    rcases rest with _ | ⟨d, rest⟩
    · refine .inr fun d hd => ?_
      rw [← hcs] at hd
      exact (List.mem_append.mp hd).imp (hgaps d) List.mem_singleton.mp
    · left
      by_cases hd : d = '\n'
      · subst hd
        rfl
      · simp [hd]
  · left
    simp [hfeed, hreturn]

/-- Neither a gap nor a carriage return ends a code span or a label. -/
theorem of_gap_or_return {c : Char} (h : Text.isGap c = true ∨ c = '\r') :
    isTick c = false ∧ c ≠ ']' := by
  have hc : (c = ' ' ∨ c = '\t') ∨ c = '\r' := by simpa [Text.isGap] using h
  rcases hc with (rfl | rfl) | rfl <;> decide

/-- Without backticks there is no closing run. -/
theorem closingRun?_of_no_tick {size run offset : Nat} (hsize : 0 < size) (hrun : run ≠ size)
    (h : ∀ c ∈ cs, isTick c = false) : closingRun? size run offset cs = none := by
  induction cs generalizing run offset with
  | nil => rw [closingRun?, if_neg hrun]
  | cons c cs ih =>
    obtain ⟨hc, hcs⟩ := List.forall_mem_cons.mp h
    rw [closingRun?, hc, if_neg Bool.false_ne_true, if_neg hrun]
    split
    · rfl
    · exact ih (Nat.ne_of_lt hsize) hcs

/-- No code span goes on behind a blank line. -/
theorem closingRun?_append_blank {size : Nat} (hsize : 0 < size) (run offset : Nat)
    (cs ds : List Char) : closingRun? size run offset (cs ++ '\n' :: '\n' :: ds) =
      closingRun? size run offset cs := by
  induction cs generalizing run offset with
  | nil =>
    rw [List.nil_append, closingRun?, closingRun?]
    split
    · contradiction
    · rfl
  | cons c cs ih =>
    rw [List.cons_append, closingRun?, closingRun?, ih, ih]
    by_cases htick : isTick c = true
    · rw [if_pos htick, if_pos htick]
    rw [if_neg htick, if_neg htick]
    by_cases hrun : run = size
    · rw [if_pos hrun, if_pos hrun]
    rw [if_neg hrun, if_neg hrun]
    rcases startsBlankLine_append_feed cs ('\n' :: ds) with hsame | hgaps
    · rw [hsame]
    · have hnone : closingRun? size 0 (offset + 1) cs = none :=
        closingRun?_of_no_tick hsize (Nat.ne_of_lt hsize) fun d hd =>
          (of_gap_or_return (hgaps d hd)).1
      simp only [hnone, ite_self]

/-- Without a closing bracket there is no label. -/
theorem label?_of_not_mem (inner : Bool) (h : ']' ∉ cs) : label? inner cs = none := by
  induction cs generalizing inner with
  | nil => rfl
  | cons c cs ih =>
    have hc : ¬ (c == ']') = true := by
      intro he
      rw [eq_of_beq he] at h
      exact h List.mem_cons_self
    have hcs : ']' ∉ cs := fun hmem => h (List.mem_cons_of_mem c hmem)
    rw [label?, if_neg hc, ih true hcs, ih inner hcs]
    simp

/-- No label goes on behind a blank line. -/
theorem label?_append_blank (inner : Bool) (cs ds : List Char) :
    label? inner (cs ++ '\n' :: '\n' :: ds) =
      (label? inner cs).map fun x => (x.1, x.2 ++ '\n' :: '\n' :: ds) := by
  induction cs generalizing inner with
  | nil => cases inner <;> rfl
  | cons c cs ih =>
    have hkeep : ∀ inner', (label? inner' (cs ++ '\n' :: '\n' :: ds)).map
        (fun x => (c :: x.1, x.2)) = ((label? inner' cs).map fun x => (c :: x.1, x.2)).map
          fun x => (x.1, x.2 ++ '\n' :: '\n' :: ds) := by
      intro inner'
      rw [ih, Option.map_map, Option.map_map]
      rfl
    rw [List.cons_append, label?, label?, hkeep, hkeep, hkeep]
    split
    · cases inner <;> rfl
    split
    · cases inner <;> rfl
    rcases startsBlankLine_append_feed cs ('\n' :: ds) with hsame | hgaps
    · rw [hsame]
      split <;> rfl
    · have hnone := label?_of_not_mem inner fun hmem => (of_gap_or_return (hgaps _ hmem)).2 rfl
      simp only [hnone, Option.map_none, ite_self]

/-! ## Searches that come to a blank line -/

theorem spanEnd?_append_blank (offset : Nat) (cs ds : List Char) :
    spanEnd? offset (cs ++ '\n' :: '\n' :: ds) = spanEnd? offset cs := by
  obtain ⟨n, rest, rfl, hrest⟩ := exists_ticks cs
  have hticks : ∀ c ∈ (rest ++ '\n' :: '\n' :: ds).head?, isTick c = false := by
    cases rest with
    | nil => rintro _ ⟨⟩; rfl
    | cons c rest => exact hrest
  rw [List.append_assoc]
  cases n with
  | zero => simp [spanEnd?, takeWhile_isTick hrest, takeWhile_isTick hticks]
  | succ n =>
    rw [spanEnd?_ticks n offset hticks, spanEnd?_ticks n offset hrest,
      closingRun?_append_blank (Nat.succ_pos n)]

/-- The code spans on both sides of a blank line. -/
theorem codeSpans_append_blank {skip : Nat} (offset : Nat) {cs : List Char}
    (hskip : skip ≤ cs.length) (ds : List Char) :
    codeSpans skip offset (cs ++ '\n' :: '\n' :: ds) =
      codeSpans skip offset cs ++ codeSpans 0 (offset + cs.length + 2) ds := by
  induction cs generalizing skip offset with
  | nil =>
    obtain rfl : skip = 0 := Nat.le_zero.mp hskip
    rfl
  | cons c cs ih =>
    have hplace : offset + (c :: cs).length + 2 = offset + 1 + cs.length + 2 := by
      simp only [List.length_cons]
      omega
    rw [hplace]
    cases skip with
    | succ skip => exact ih (offset + 1) (Nat.le_of_succ_le_succ hskip)
    | zero =>
      have hspan := spanEnd?_append_blank offset (c :: cs) ds
      rw [List.cons_append] at hspan ⊢
      rw [codeSpans, codeSpans, hspan]
      cases hstop : spanEnd? offset (c :: cs) with
      | none => exact ih (offset + 1) (Nat.zero_le _)
      | some stop =>
        have hle := (lt_of_spanEnd? hstop).2
        rw [List.length_cons] at hle
        simp only [List.cons_append]
        rw [ih (offset + 1) (by omega)]

theorem occurrenceAt?_append_blank (offset : Nat) (cs ds : List Char) :
    occurrenceAt? offset (cs ++ '\n' :: '\n' :: ds) = occurrenceAt? offset cs := by
  have hbreak : StartsBreak ('\n' :: '\n' :: ds) := ⟨_, .inl rfl⟩
  rcases cs with _ | ⟨c, inner⟩
  · rfl
  by_cases hc : c = '['
  · subst hc
    rw [List.cons_append, occurrenceAt?, occurrenceAt?, label?_append_blank]
    rcases label? false inner with _ | ⟨label, _ | ⟨d, rest⟩⟩
    · rfl
    · rfl
    by_cases hd : d = '('
    · subst hd
      simp only [Option.map_some, List.cons_append, destination?_append_break hbreak]
      rcases destination? rest with _ | ⟨destination, after⟩
      · rfl
      · simp only [Option.map_some, List.length_append, Nat.add_sub_add_right]
    · simp [hd]
  · simp [occurrenceAt?, hc]

/-- The links on both sides of a blank line. -/
theorem occurrencesFrom_append_blank {skip : Nat} (before : Option Char) (offset : Nat)
    {cs : List Char} (hskip : skip ≤ cs.length) (ds : List Char) :
    occurrencesFrom skip before offset (cs ++ '\n' :: '\n' :: ds) =
      occurrencesFrom skip before offset cs ++
        occurrencesFrom 0 (some '\n') (offset + cs.length + 2) ds := by
  induction cs generalizing skip before offset with
  | nil =>
    obtain rfl : skip = 0 := Nat.le_zero.mp hskip
    have hnone : (if guards before then none
        else occurrenceAt? offset ('\n' :: '\n' :: ds)) = none := by
      split <;> rfl
    rw [List.nil_append, occurrencesFrom, List.nil_append, occurrencesFrom]
    simp only [hnone]
    rfl
  | cons c cs ih =>
    have hplace : offset + (c :: cs).length + 2 = offset + 1 + cs.length + 2 := by
      simp only [List.length_cons]
      omega
    rw [hplace]
    cases skip with
    | succ skip => exact ih (some c) (offset + 1) (Nat.le_of_succ_le_succ hskip)
    | zero =>
      have hoccur := occurrenceAt?_append_blank offset (c :: cs) ds
      rw [List.cons_append] at hoccur ⊢
      rw [occurrencesFrom, occurrencesFrom, hoccur]
      cases hfound : if guards before then none else occurrenceAt? offset (c :: cs) with
      | none => exact ih (some c) (offset + 1) (Nat.zero_le _)
      | some o =>
        have hle : o.span.stop ≤ offset + (c :: cs).length := by
          obtain ⟨-, x, rest, hcs, rfl⟩ := Inline.of_found hfound
          rw [hcs, List.length_append, x.length_text]
          simp only [Inline.occurrence]
          omega
        rw [List.length_cons] at hle
        simp only [List.cons_append]
        rw [ih (some c) (offset + 1) (by omega)]

/-- Where no block is open behind some lines, the blocks of the lines after them are found on their
own, and the end of the text does not matter for those before. -/
theorem blocksFrom_append (opened : Option (Nat × Fence)) {lines : List (List Char)}
    (h : fenceAfter (opened.map (·.2)) lines = none) (stop stop' offset : Nat)
    (more : List (List Char)) : blocksFrom stop opened offset (lines ++ more) =
      blocksFrom stop' opened offset lines ++
        blocksFrom stop none (offset + (lines.flatMap (· ++ ['\n'])).length) more := by
  induction lines generalizing opened offset with
  | nil =>
    cases opened with
    | none => rfl
    | some x => cases h
  | cons line rest ih =>
    have hplace : offset + ((line :: rest).flatMap (· ++ ['\n'])).length =
        offset + line.length + 1 + (rest.flatMap (· ++ ['\n'])).length := by
      rw [List.flatMap_cons, List.length_append, List.length_append, List.length_singleton]
      omega
    rw [hplace, List.cons_append]
    cases opened with
    | none =>
      rw [Option.map_none, fenceAfter] at h
      rw [blocksFrom, blocksFrom]
      refine ih _ ?_ _
      rw [Option.map_map]
      cases hline : Fence.ofLine? line with
      | none => rwa [hline] at h
      | some fence => rwa [hline] at h
    | some x =>
      rw [Option.map_some, fenceAfter] at h
      rw [blocksFrom, blocksFrom]
      split
      · rename_i hclosed
        rw [if_pos hclosed] at h
        rw [ih none h, List.cons_append]
      · rename_i hopen
        rw [if_neg hopen] at h
        exact ih (some x) h _

/-! ## Two parts of a text -/

section Parts

variable {front : List Char} (back : List Char)

/-- Behind a blank line a line begins. -/
theorem wholeLines_append_blank (front : List Char) :
    Text.WholeLines (front ++ ['\n', '\n']) :=
  .inr (by simp)

/-- Code behind a blank line is found there. -/
theorem le_start_of_mem_codeRegions {r : Span}
    (hr : r ∈ codeRegions (front ++ '\n' :: '\n' :: back) (front.length + 2)) :
    front.length + 2 ≤ r.start := by
  have hcode := codeRegions_append (wholeLines_append_blank front) back
  rw [List.append_assoc, List.length_append] at hcode
  change r ∈ codeRegions (front ++ (['\n', '\n'] ++ back))
    (front.length + ['\n', '\n'].length) at hr
  rw [hcode] at hr
  obtain ⟨s, -, rfl⟩ := List.mem_map.mp hr
  exact Nat.le_add_left _ _

/-- If no block is open at a blank line, the blocks of a text are those before it and those behind
it. -/
theorem blocks_append_blank (h : openFence? front = none) :
    blocks (front ++ '\n' :: '\n' :: back) 0 =
      blocks front 0 ++ blocks (front ++ '\n' :: '\n' :: back) (front.length + 2) := by
  have hlines : (front ++ '\n' :: '\n' :: back).splitOn '\n' =
      front.splitOn '\n' ++ [] :: back.splitOn '\n' := by
    rw [List.splitOn_append_cons_self, List.splitOn_cons_eq_if_modifyHead,
      if_pos (beq_self_eq_true _)]
  have hstart : isLineStart (front ++ '\n' :: '\n' :: back) (front.length + 2) = true := by
    simp [isLineStart]
  have hdrop : (front ++ '\n' :: '\n' :: back).drop (front.length + 2) = back := by
    simp [List.drop_append]
  have hlength : front.length + 2 ≤ (front ++ '\n' :: '\n' :: back).length := by simp
  have hempty : Fence.ofLine? [] = none := rfl
  have hfront := blocksFrom_append none h
    (front ++ '\n' :: '\n' :: back).length front.length 0 ([] :: back.splitOn '\n')
  rw [flatMap_splitOn, blocksFrom, hempty] at hfront
  rw [blocks_zero, blocks_zero, blocks, nextLineStart, if_pos hstart]
  simp only [hlength, if_true, hlines, hdrop]
  simpa using hfront

/-- If no block is open at a blank line, the code of a text is that before it and that behind it. -/
theorem codeRegions_append_blank (h : openFence? front = none) :
    (codeRegions (front ++ '\n' :: '\n' :: back) 0).Perm (codeRegions front 0 ++
      codeRegions (front ++ '\n' :: '\n' :: back) (front.length + 2)) := by
  have hspans := codeSpans_append_blank 0 (Nat.zero_le front.length) back
  have hdrop : (front ++ '\n' :: '\n' :: back).drop (front.length + 2) = back := by
    simp [List.drop_append]
  have hlater : ∀ s ∈ codeRegions (front ++ '\n' :: '\n' :: back) (front.length + 2),
      front.length + 2 ≤ s.start := fun s hs => le_start_of_mem_codeRegions back hs
  simp only [codeRegions, fencedFrom_eq_blocks, blocks_append_blank back h, List.drop_zero, hspans,
    hdrop, List.filter_append, Nat.zero_add, Span.anyContains_append] at hlater ⊢
  generalize blocks (front ++ '\n' :: '\n' :: back) (front.length + 2) = behind at hlater ⊢
  have hbefore : (codeSpans 0 0 front).filter (fun s =>
      !(Span.anyContains (blocks front 0) s.start || Span.anyContains behind s.start)) =
        (codeSpans 0 0 front).filter fun s => !Span.anyContains (blocks front 0) s.start := by
    refine List.filter_congr fun s hs => ?_
    obtain ⟨k, hstart, hspan⟩ := exists_of_mem_codeSpans hs
    obtain ⟨hlt, hstop⟩ := lt_of_spanEnd? hspan
    rw [List.length_drop] at hstop
    have hnone : Span.anyContains behind s.start = false :=
      Span.anyContains_eq_false_of_lt_start fun r hr => by
        have := hlater r (List.mem_append_left _ hr)
        omega
    rw [hnone, Bool.or_false]
  have hbehind : (codeSpans 0 (front.length + 2) back).filter (fun s =>
      !(Span.anyContains (blocks front 0) s.start || Span.anyContains behind s.start)) =
        (codeSpans 0 (front.length + 2) back).filter fun s =>
          !Span.anyContains behind s.start := by
    refine List.filter_congr fun s hs => ?_
    obtain ⟨k, hstart, -⟩ := exists_of_mem_codeSpans hs
    have hnone : Span.anyContains (blocks front 0) s.start = false :=
      Span.anyContains_eq_false_of_stop_le fun r hr => by
        have := (blockOf_of_mem_blocks hr).stop_le
        omega
    rw [hnone, Bool.false_or]
  rw [hbefore, hbehind, List.append_assoc, List.append_assoc]
  exact (List.perm_append_comm_assoc _ _ _).append_left _

/-- The links of a text are those before a blank line and those behind it. -/
theorem occurrences_append_blank : occurrences (front ++ '\n' :: '\n' :: back) 0 =
    occurrences front 0 ++ occurrences (front ++ '\n' :: '\n' :: back) (front.length + 2) := by
  have hback := occurrences_append (front ++ ['\n', '\n']) back
  have hlast : (front ++ ['\n', '\n']).getLast? = some '\n' := by simp
  rw [hlast, List.append_assoc, List.length_append] at hback
  have hall := occurrencesFrom_append_blank none 0 (Nat.zero_le front.length) back
  rw [Nat.zero_add] at hall
  exact hall.trans (congrArg (_ ++ ·) hback.symm)

/-- A link is placed by what is before it. -/
theorem ofOccurrence_append_right {o : Occurrence} (ho : o.start ≤ front.length) :
    ofOccurrence (front ++ back) o = ofOccurrence front o := by
  rw [ofOccurrence, ofOccurrence, Text.positionOf, Text.positionOf,
    List.take_append_of_le_length ho]

/-- What of a text is code is told before a blank line by what is before it, and behind the line by
what is behind it. -/
theorem anyContains_codeRegions_append_blank (h : openFence? front = none) (i : Nat) :
    (i < front.length → Span.anyContains (codeRegions (front ++ '\n' :: '\n' :: back) 0) i =
      Span.anyContains (codeRegions front 0) i) ∧
    (front.length + 2 ≤ i → Span.anyContains (codeRegions (front ++ '\n' :: '\n' :: back) 0) i =
      Span.anyContains (codeRegions (front ++ '\n' :: '\n' :: back) (front.length + 2)) i) := by
  have hany := (codeRegions_append_blank back h).any_eq (f := (·.contains i))
  rw [← Span.anyContains, ← Span.anyContains, Span.anyContains_append] at hany
  rw [hany]
  constructor
  · intro hlt
    rw [Span.anyContains_eq_false_of_lt_start (i := i) fun r hr =>
      Nat.lt_of_lt_of_le (by omega) (le_start_of_mem_codeRegions back hr), Bool.or_false]
  · intro hle
    rw [Span.anyContains_eq_false_of_stop_le (i := i) fun r hr =>
      Nat.le_trans (codeOf_of_mem_codeRegions hr).stop_le (by omega), Bool.false_or]

/-- If no fenced block is open at a blank line, the links of a text are those of what is before the
line and then those of what is behind it, further on. -/
theorem find_append_blank (front back : List Char) (h : openFence? front = none) :
    find (front ++ '\n' :: '\n' :: back) 0 = find front 0 ++
      (find back 0).map (shift (front.length + 2) (front.count '\n' + 2)) := by
  have hshift := find_append_wholeLines (wholeLines_append_blank front) back
  rw [List.append_assoc, List.length_append, List.count_append] at hshift
  have hcode := anyContains_codeRegions_append_blank back h
  have hlength : front.length + 2 ≤ (front ++ '\n' :: '\n' :: back).length := by simp
  have hbefore : ((occurrences front 0).filter fun o => !Span.anyContains
      (codeRegions (front ++ '\n' :: '\n' :: back) 0) o.start) =
        (occurrences front 0).filter fun o => !Span.anyContains (codeRegions front 0) o.start :=
    List.filter_congr fun o ho => by
      rw [(hcode o.start).1 (bounds_of_mem_occurrences (Nat.zero_le _) ho).2]
  have hbehind : ((occurrences (front ++ '\n' :: '\n' :: back) (front.length + 2)).filter fun o =>
      !Span.anyContains (codeRegions (front ++ '\n' :: '\n' :: back) 0) o.start) =
        (occurrences (front ++ '\n' :: '\n' :: back) (front.length + 2)).filter fun o =>
          !Span.anyContains
            (codeRegions (front ++ '\n' :: '\n' :: back) (front.length + 2)) o.start :=
    List.filter_congr fun o ho => by
      rw [(hcode o.start).2 (bounds_of_mem_occurrences hlength ho).1]
  refine Eq.trans ?_ (congrArg (find front 0 ++ ·) hshift)
  simp only [find, occurrences_append_blank, List.filter_append, List.map_append, hbefore]
  refine congr (congrArg _ (List.map_congr_left fun o ho => ?_)) (congrArg _ hbehind)
  exact ofOccurrence_append_right _
    (Nat.le_of_lt (bounds_of_mem_occurrences (Nat.zero_le _) (List.mem_filter.mp ho).1).2)

/-- Neither the bracket, the backtick and the quote before a blank line nor those behind it matter
to the links on the other side. -/
theorem find_append_blank_sample :
    openFence? "~~~\n[a](b)\n~~~\n[c](ref:d) \x60 [ \"".toList = none ∧
      ((find ("~~~\n[a](b)\n~~~\n[c](ref:d) \x60 [ \"".toList ++
          '\n' :: '\n' :: "\x60 ] [e](ref:f \"t\")".toList) 0).map fun l =>
        (l.url, l.title, l.origin.line, l.origin.span)) =
          [("ref:d", none, some 4, some ⟨18, 25⟩), ("ref:f", some "t", some 6, some ⟨40, 51⟩)] := by
  have hclosed : openFence? "~~~\n[a](b)\n~~~\n[c](ref:d) \x60 [ \"".toList = none := by
    decide +kernel
  refine ⟨hclosed, ?_⟩
  rw [find_append_blank _ _ hclosed]
  simp only [find, codeRegions, fencedFrom_eq_blocks]
  decide +kernel

end Parts

end Crosslink.Link
