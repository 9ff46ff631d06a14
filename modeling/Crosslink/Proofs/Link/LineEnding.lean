import Crosslink.Proofs.Link.Break
import Crosslink.Proofs.Link.Shift
import Crosslink.Proofs.Page.CodeKept
import Crosslink.Proofs.Path.Order
import Crosslink.Proofs.Text.PairedBreaks

/-!
# Links when lines end with pairs

The parts of a link, the code spans and the lines that open a fenced block are read alike whether
lines end with a line feed or with a carriage return and a line feed. The line that closes a block
is not: a carriage return is no gap. So with paired breaks the first fenced block goes on to the end
of the text, and the links behind its first line are lost.
-/

namespace Crosslink.Link

open Text (Span pairBreaks pairBreaks_append pairBreaks_cons pairBreaks_feed place place_append
  returnLines)

variable {text cs : List Char}

/-! ## Labels and destinations -/

theorem label?_pairBreaks (inner : Bool) (h : '\r' ∉ cs) : label? inner (pairBreaks cs) =
    (label? inner cs).map fun x => (pairBreaks x.1, pairBreaks x.2) := by
  induction cs generalizing inner with
  | nil => cases inner <;> rfl
  | cons c cs ih =>
    have hcs : '\r' ∉ cs := fun hmem => h (List.mem_cons_of_mem c hmem)
    by_cases hc : c = '\n'
    · subst hc
      have hreturn : ∀ xs, label? inner ('\r' :: xs) =
          (label? inner xs).map fun x => ('\r' :: x.1, x.2) := fun xs => rfl
      rw [pairBreaks_feed, hreturn, label?, label?, Text.startsBlankLine_pairBreaks hcs,
        ih inner hcs]
      cases inner <;> cases Text.startsBlankLine cs <;> simp [Function.comp_def]
    · have hkeep : ∀ inner', (label? inner' (pairBreaks cs)).map (fun x => (c :: x.1, x.2)) =
          ((label? inner' cs).map fun x => (c :: x.1, x.2)).map
            fun x => (pairBreaks x.1, pairBreaks x.2) := by
        intro inner'
        rw [ih inner' hcs, Option.map_map, Option.map_map]
        simp [Function.comp_def, pairBreaks_cons hc]
      have hfeed : (c == '\n') = false := by simpa using hc
      rw [pairBreaks_cons hc, label?, label?, hkeep, hkeep, hkeep, hfeed]
      split
      · cases inner <;> rfl
      split
      · cases inner <;> rfl
      · rfl

/-- What is read as a destination stands on one line. -/
theorem not_mem_tail (x : Inline) : '\n' ∉ x.tail := by
  obtain ⟨inside, htail, hspells⟩ := spells_of_destination? (x.tail_reads [])
  rw [List.append_nil] at htail
  simp [htail, hspells.not_mem]

theorem destination?_pairBreaks (cs : List Char) : destination? (pairBreaks cs) =
    (destination? cs).map fun x => (x.1, pairBreaks x.2) := by
  have hline : ∀ line : List Char, '\n' ∉ line → ∀ x ∈ destination? line, '\n' ∉ x.2 := by
    intro line hline x hx
    obtain ⟨used, rfl, -, -⟩ := of_destination? hx
    exact fun hmem => hline (List.mem_append_right _ hmem)
  by_cases hfeed : '\n' ∈ cs
  · obtain ⟨line, rest, rfl, hfirst⟩ := List.eq_append_cons_of_mem hfeed
    rw [pairBreaks_append, pairBreaks_feed, Text.pairBreaks_of_not_mem hfirst,
      destination?_append_break ⟨_, .inr rfl⟩, destination?_append_break ⟨_, .inl rfl⟩,
      Option.map_map]
    refine Option.map_congr fun x hx => ?_
    simp [pairBreaks_append, Text.pairBreaks_of_not_mem (hline line hfirst x hx)]
  · rw [Text.pairBreaks_of_not_mem hfeed]
    cases hread : destination? cs with
    | none => rfl
    | some x => rw [Option.map_some, Text.pairBreaks_of_not_mem (hline cs hfeed x hread)]

/-! ## Links -/

/-- A link with paired breaks in its label. -/
def Inline.paired (x : Inline) (h : '\r' ∉ x.label) : Inline where
  label := pairBreaks x.label
  tail := x.tail
  destination := x.destination
  label_reads := by
    have hread := x.label_reads []
    have hclosed : '\r' ∉ x.label ++ [']'] := by simpa using h
    rw [List.append_nil] at hread
    have hpaired := label?_pairBreaks false hclosed
    rw [hread] at hpaired
    exact (of_label? hpaired).2
  tail_reads := x.tail_reads

theorem Inline.text_paired (x : Inline) (h : '\r' ∉ x.label) :
    (x.paired h).text = pairBreaks x.text := by
  rw [text, text, paired, pairBreaks_append, pairBreaks_cons (by decide),
    pairBreaks_cons (by decide), pairBreaks_cons (by decide),
    Text.pairBreaks_of_not_mem (not_mem_tail x)]

/-- The occurrence when the breaks of the text are paired. -/
def Occurrence.paired (text : List Char) (o : Occurrence) : Occurrence where
  start := place text o.start
  text := pairBreaks o.text
  destination := o.destination
  span := o.span.map (place text)

theorem Inline.occurrence_paired (x : Inline) (h : '\r' ∉ x.label) (pre rest : List Char) :
    (x.paired h).occurrence (place (pre ++ (x.text ++ rest)) pre.length) =
      (x.occurrence pre.length).paired (pre ++ (x.text ++ rest)) := by
  have hopen := Text.place_add pre x.head ('(' :: x.tail ++ rest)
  have hclose := Text.place_add pre x.text rest
  have htext : x.head ++ ('(' :: x.tail ++ rest) = x.text ++ rest := by
    rw [x.text_eq]
    simp
  have hhead : (pairBreaks x.head).length = (pairBreaks x.label).length + 2 := by
    simp [Inline.head, pairBreaks_append, pairBreaks_cons]
  have hlast : (pairBreaks x.text).length = (pairBreaks x.label).length + 3 + x.tail.length := by
    rw [← x.text_paired h, length_text]
    rfl
  have hlabel : x.head.length = x.label.length + 2 := by simp [Inline.head]
  rw [htext, hhead, hlabel] at hopen
  rw [hlast, x.length_text] at hclose
  have hspan : ((x.paired h).occurrence (place (pre ++ (x.text ++ rest)) pre.length)).span =
      (x.occurrence pre.length).span.map (place (pre ++ (x.text ++ rest))) := by
    have hend : pre.length + x.label.length + 2 + 1 + x.tail.length =
        pre.length + (x.label.length + 3 + x.tail.length) := by omega
    simp only [Inline.occurrence, Inline.paired, Span.map, Span.mk.injEq]
    rw [hend, Nat.add_assoc pre.length, hopen, hclose]
    omega
  simp only [Occurrence.paired, ← hspan]
  rfl

/-- Where no link begins, none does when the breaks are paired. -/
theorem occurrenceAt?_pairBreaks {offset : Nat} (h : '\r' ∉ cs)
    (hnone : occurrenceAt? offset cs = none) (offset' : Nat) :
    occurrenceAt? offset' (pairBreaks cs) = none := by
  rcases cs with _ | ⟨c, inner⟩
  · rfl
  by_cases hc : c = '['
  · subst hc
    have hinner : '\r' ∉ inner := fun hmem => h (List.mem_cons_of_mem _ hmem)
    rw [pairBreaks_cons (by decide), occurrenceAt?, label?_pairBreaks false hinner]
    rw [occurrenceAt?] at hnone
    rcases hlabel : label? false inner with _ | ⟨label, _ | ⟨d, rest⟩⟩
    · rfl
    · rfl
    rw [hlabel] at hnone
    by_cases hd : d = '('
    · subst hd
      rw [Option.map_some, pairBreaks_cons (by decide)]
      simp only [destination?_pairBreaks] at hnone ⊢
      cases hread : destination? rest with
      | none => rfl
      | some x =>
        rw [hread] at hnone
        cases hnone
    · by_cases hfeed : d = '\n'
      · subst hfeed
        rfl
      · rw [Option.map_some, pairBreaks_cons hfeed]
        simp [hd]
  · by_cases hfeed : c = '\n'
    · subst hfeed
      rfl
    · rw [pairBreaks_cons hfeed]
      simp [occurrenceAt?, hc]

/-- Where no link begins, the search goes on behind the next character. -/
theorem occurrencesFrom_of_none {before : Option Char} {offset : Nat} {c : Char}
    (h : guards before = true ∨ occurrenceAt? offset (c :: cs) = none) :
    occurrencesFrom 0 before offset (c :: cs) =
      occurrencesFrom 0 (some c) (offset + 1) cs := by
  have hnone : (if guards before then none else occurrenceAt? offset (c :: cs)) = none := by
    rcases h with h | h
    · rw [if_pos h]
    · rw [h, ite_self]
  rw [occurrencesFrom]
  simp only [hnone]

/-- When the breaks are paired the same links occur, at their places. -/
theorem occurrencesFrom_pairBreaks (pre : List Char) (before : Option Char) {cs : List Char}
    (h : '\r' ∉ cs) :
    occurrencesFrom 0 before (place (pre ++ cs) pre.length) (pairBreaks cs) =
      (occurrencesFrom 0 before pre.length cs).map (Occurrence.paired (pre ++ cs)) := by
  -- by what is left of the text: the search goes on behind a character or behind a link
  induction hn : cs.length using Nat.strong_induction_on generalizing pre cs before with
  | _ n ih =>
    rcases cs with _ | ⟨c, cs⟩
    · rfl
    have hcs : '\r' ∉ cs := fun hmem => h (List.mem_cons_of_mem c hmem)
    by_cases hnone : guards before = true ∨ occurrenceAt? pre.length (c :: cs) = none
    · have hafter := ih cs.length (by simp [← hn]) (pre ++ [c]) (some c) hcs rfl
      rw [List.append_assoc, List.singleton_append, List.length_append, List.length_singleton,
        Text.place_succ] at hafter
      rw [occurrencesFrom_of_none hnone]
      refine Eq.trans ?_ hafter
      by_cases hc : c = '\n'
      · subst hc
        rw [pairBreaks_feed, occurrencesFrom_of_none (.inr rfl), occurrencesFrom_of_none (.inr rfl)]
        rfl
      · have hpaired := hnone.imp_right fun hat =>
          occurrenceAt?_pairBreaks h hat (place (pre ++ c :: cs) pre.length)
        rw [pairBreaks_cons hc] at hpaired ⊢
        rw [occurrencesFrom_of_none hpaired, pairBreaks_cons hc]
        rfl
    · obtain ⟨hguards, hfound⟩ := not_or.mp hnone
      obtain ⟨o, ho⟩ := Option.ne_none_iff_exists'.mp hfound
      obtain ⟨x, rest, hx, rfl⟩ := Inline.of_occurrenceAt? ho
      have hguards : guards before = false := by simpa using hguards
      rw [hx] at h hn ⊢
      have hlabel : '\r' ∉ x.label := fun hmem => h (by simp [Inline.text, hmem])
      have hrest : '\r' ∉ rest := fun hmem => h (List.mem_append_right _ hmem)
      have hlength := x.length_text
      rw [List.length_append] at hn
      have hafter := ih rest.length (by omega) (pre ++ x.text) (some ')') hrest rfl
      rw [List.append_assoc, List.length_append, Text.place_add, ← x.text_paired hlabel] at hafter
      rw [occurrencesFrom_text x hguards, pairBreaks_append, ← x.text_paired hlabel,
        occurrencesFrom_text _ hguards, List.map_cons, x.occurrence_paired hlabel, hafter]

/-! ## Code spans -/

theorem closingRun?_pairBreaks {size : Nat} (hsize : 0 < size) (run : Nat) (pre : List Char)
    {cs : List Char} (h : '\r' ∉ cs) :
    closingRun? size run (place (pre ++ cs) pre.length) (pairBreaks cs) =
      (closingRun? size run pre.length cs).map (place (pre ++ cs)) := by
  induction cs generalizing run pre with
  | nil =>
    rw [Text.pairBreaks_nil, closingRun?, closingRun?]
    split <;> rfl
  | cons c cs ih =>
    have hcs : '\r' ∉ cs := fun hmem => h (List.mem_cons_of_mem c hmem)
    have hafter : ∀ run', closingRun? size run'
        (place (pre ++ c :: cs) pre.length + (pairBreaks [c]).length) (pairBreaks cs) =
          (closingRun? size run' (pre.length + 1) cs).map (place (pre ++ c :: cs)) := by
      intro run'
      have hrun := ih run' (pre ++ [c]) hcs
      rwa [List.append_assoc, List.singleton_append, List.length_append, List.length_singleton,
        Text.place_succ] at hrun
    by_cases hc : c = '\n'
    · subst hc
      have hfeed : ∀ offset, closingRun? size 0 offset ('\n' :: pairBreaks cs) =
          if Text.startsBlankLine cs then none
          else closingRun? size 0 (offset + 1) (pairBreaks cs) := by
        intro offset
        rw [closingRun?, Text.startsBlankLine_pairBreaks hcs]
        simp [isTick, Nat.ne_of_lt hsize]
      have hreturn : ∀ offset cs, closingRun? size run offset ('\r' :: cs) =
          if run = size then some offset else closingRun? size 0 (offset + 1) cs := fun _ _ => rfl
      have hrun : closingRun? size run pre.length ('\n' :: cs) =
          if run = size then some pre.length else if Text.startsBlankLine cs then none
          else closingRun? size 0 (pre.length + 1) cs := rfl
      rw [pairBreaks_feed, hreturn, hfeed, hrun]
      split
      · rfl
      split
      · rfl
      · exact hafter 0
    · have hpaired : pairBreaks [c] = [c] := pairBreaks_cons hc []
      have hfeed : (c == '\n') = false := by simpa using hc
      rw [hpaired, List.length_singleton] at hafter
      rw [pairBreaks_cons hc, closingRun?, closingRun?, hfeed, hafter, hafter]
      split
      · rfl
      split
      · rfl
      · rfl

theorem spanEnd?_pairBreaks (pre : List Char) {cs : List Char} (h : '\r' ∉ cs) :
    spanEnd? (place (pre ++ cs) pre.length) (pairBreaks cs) =
      (spanEnd? pre.length cs).map (place (pre ++ cs)) := by
  obtain ⟨n, rest, rfl, hrest⟩ := exists_ticks cs
  have hafter : ∀ c ∈ (pairBreaks rest).head?, isTick c = false := by
    rcases rest with _ | ⟨c, rest⟩
    · nofun
    by_cases hc : c = '\n'
    · subst hc
      rintro _ ⟨⟩
      rfl
    · rw [pairBreaks_cons hc]
      exact hrest
  have hticks : '\n' ∉ List.replicate n '\x60' := by simp
  have hplace := Text.place_add pre (List.replicate n '\x60') rest
  rw [Text.pairBreaks_of_not_mem hticks, List.length_replicate] at hplace
  rw [pairBreaks_append, Text.pairBreaks_of_not_mem hticks]
  cases n with
  | zero => simp [spanEnd?, takeWhile_isTick hrest, takeWhile_isTick hafter]
  | succ n =>
    have hclose := closingRun?_pairBreaks (Nat.succ_pos n) 0
      (pre ++ List.replicate (n + 1) '\x60') fun hmem => h (List.mem_append_right _ hmem)
    rw [List.append_assoc, List.length_append, List.length_replicate, hplace] at hclose
    rw [spanEnd?_ticks n _ hafter, spanEnd?_ticks n _ hrest, hclose]

/-- A span at the beginning of a text that is cut where the span ends. -/
theorem codeSpans_append {offset stop : Nat} {used rest : List Char}
    (h : spanEnd? offset (used ++ rest) = some stop) (hused : offset + used.length = stop) :
    codeSpans 0 offset (used ++ rest) = ⟨offset, stop⟩ :: codeSpans 0 stop rest := by
  have hlt := (lt_of_spanEnd? h).1
  rcases used with _ | ⟨c, used⟩
  · rw [List.length_nil] at hused
    omega
  · have hdrop : (c :: (used ++ rest)).drop (stop - offset) = rest := by
      rw [← hused, Nat.add_sub_cancel_left, ← List.cons_append, List.drop_left]
    rw [List.cons_append] at h ⊢
    rw [codeSpans_cons h hlt, hdrop]

/-- When the breaks are paired the same code spans are found, at their places. -/
theorem codeSpans_pairBreaks (pre : List Char) {cs : List Char} (h : '\r' ∉ cs) :
    codeSpans 0 (place (pre ++ cs) pre.length) (pairBreaks cs) =
      (codeSpans 0 pre.length cs).map (Span.map (place (pre ++ cs))) := by
  induction hn : cs.length using Nat.strong_induction_on generalizing pre cs with
  | _ n ih =>
    rcases cs with _ | ⟨c, cs⟩
    · rfl
    have hcs : '\r' ∉ cs := fun hmem => h (List.mem_cons_of_mem c hmem)
    have hspan := spanEnd?_pairBreaks pre h
    cases hstop : spanEnd? pre.length (c :: cs) with
    | none =>
      have hafter := ih cs.length (by simp [← hn]) (pre ++ [c]) hcs rfl
      rw [List.append_assoc, List.singleton_append, List.length_append, List.length_singleton,
        Text.place_succ] at hafter
      rw [hstop] at hspan
      have hone : codeSpans 0 pre.length (c :: cs) = codeSpans 0 (pre.length + 1) cs := by
        rw [codeSpans, hstop]
      rw [hone]
      refine Eq.trans ?_ hafter
      by_cases hc : c = '\n'
      · subst hc
        rfl
      · rw [pairBreaks_cons hc] at hspan ⊢
        rw [codeSpans, hspan, pairBreaks_cons hc]
        rfl
    | some stop =>
      obtain ⟨hlt, hle⟩ := lt_of_spanEnd? hstop
      obtain ⟨used, rest, hsplit, hused⟩ : ∃ used rest, c :: cs = used ++ rest ∧
          pre.length + used.length = stop := by
        refine ⟨(c :: cs).take (stop - pre.length), (c :: cs).drop (stop - pre.length),
          (List.take_append_drop _ _).symm, ?_⟩
        rw [List.length_take]
        omega
      rw [hsplit] at h hstop hspan hn ⊢
      have hnext := Text.place_add pre used rest
      have hafter := ih rest.length (by rw [← hn, List.length_append]; omega) (pre ++ used)
        (fun hmem => h (List.mem_append_right _ hmem)) rfl
      rw [List.append_assoc, List.length_append, hused] at hafter
      rw [hused] at hnext
      rw [hstop, pairBreaks_append] at hspan
      rw [pairBreaks_append, codeSpans_append hspan hnext.symm, codeSpans_append hstop hused,
        List.map_cons, hafter]
      rfl

/-! ## Fenced blocks -/

/-- A mark is no carriage return. -/
theorem Fence.mark_ne_of_ofLine? {line : List Char} {fence : Fence}
    (h : ofLine? line = some fence) : fence.mark ≠ '\r' := by
  unfold ofLine? at h
  split at h
  · rename_i c cs _
    dsimp only at h
    split at h
    · rename_i hmark
      cases h
      rintro rfl
      simp at hmark
    · cases h
  · cases h

theorem Fence.unindent?_return (line : List Char) :
    unindent? (line ++ ['\r']) = (unindent? line).map (· ++ ['\r']) := by
  obtain ⟨htake, hdrop⟩ := Text.takeWhile_append_cons (p := (· == ' ')) (c := '\r') rfl line []
  rw [unindent?, unindent?, htake, hdrop]
  split <;> rfl

/-- The line that opens a block is found with a carriage return at its end. -/
theorem Fence.ofLine?_return (line : List Char) : ofLine? (line ++ ['\r']) = ofLine? line := by
  rw [ofLine?, ofLine?, unindent?_return]
  rcases unindent? line with _ | _ | ⟨c, cs⟩
  · rfl
  · rfl
  · simp only [Option.map_some, List.cons_append]
    cases hmark : c == '\x60' || c == '~' with
    | false => simp
    | true =>
      have hc : ('\r' == c) = false := by
        cases hreturn : '\r' == c with
        | false => rfl
        | true =>
          rw [← eq_of_beq hreturn] at hmark
          cases hmark
      have htake := (Text.takeWhile_append_cons (p := (· == c)) hc (c :: cs) []).1
      rw [List.cons_append] at htake
      rw [htake]

/-- The line that closes a block is not. -/
theorem Fence.closedBy_return {fence : Fence} (h : fence.mark ≠ '\r') (line : List Char) :
    fence.closedBy (line ++ ['\r']) = false := by
  rw [closedBy, unindent?_return]
  cases unindent? line with
  | none => rfl
  | some cs =>
    obtain ⟨-, hdrop⟩ := Text.takeWhile_append_cons (p := (· == fence.mark)) (c := '\r')
      (by simpa using h.symm) cs []
    simp [hdrop, Text.isGap]

/-- A block that is open goes on to the end of the text. -/
theorem blocksFrom_some_returnLines {stop start : Nat} {fence : Fence} (h : fence.mark ≠ '\r')
    {offset : Nat} {lines : List (List Char)}
    (hstop : offset + ((returnLines lines).flatMap (· ++ ['\n'])).length = stop + 1) :
    blocksFrom stop (some (start, fence)) offset (returnLines lines) = [⟨start, stop⟩] := by
  induction lines generalizing offset with
  | nil => rfl
  | cons line rest ih =>
    rcases rest with _ | ⟨next, rest⟩
    · -- the last line ends where the text ends, closed or not
      have hend : offset + line.length = stop := by
        simp [returnLines] at hstop
        omega
      rw [returnLines, blocksFrom, hend]
      split <;> rfl
    · rw [Text.returnLines_cons_cons, List.flatMap_cons] at hstop
      rw [Text.returnLines_cons_cons, blocksFrom, Fence.closedBy_return h,
        if_neg Bool.false_ne_true]
      refine ih ?_
      simp only [List.length_append, List.length_singleton] at hstop ⊢
      omega

/-- A block that is open comes first. -/
theorem exists_head?_blocksFrom (stop start : Nat) (fence : Fence) (offset : Nat)
    (lines : List (List Char)) : ∃ e,
      (blocksFrom stop (some (start, fence)) offset lines).head? = some ⟨start, e⟩ := by
  induction lines generalizing offset with
  | nil => exact ⟨stop, rfl⟩
  | cons line rest ih =>
    rw [blocksFrom]
    split
    · exact ⟨_, rfl⟩
    · exact ih _

/-- With paired breaks there is one block, if any: from the first opening line on. -/
theorem blocksFrom_returnLines (stop : Nat) {stop' : Nat} {pre : List Char}
    {lines : List (List Char)} (hlines : ∀ line ∈ lines, '\n' ∉ line)
    (hstop : (pairBreaks pre).length + ((returnLines lines).flatMap (· ++ ['\n'])).length =
      stop' + 1) :
    blocksFrom stop' none (pairBreaks pre).length (returnLines lines) =
      ((blocksFrom stop none pre.length lines).head?.map fun b =>
        (⟨place (pre ++ lines.flatMap (· ++ ['\n'])) b.start, stop'⟩ : Span)).toList := by
  induction lines generalizing pre with
  | nil => rfl
  | cons line rest ih =>
    obtain ⟨hline, hrest⟩ := List.forall_mem_cons.mp hlines
    rcases rest with _ | ⟨next, rest⟩
    · -- nothing follows the line, so a block that it opens ends with the text
      have hstart := place_append pre ([line].flatMap (· ++ ['\n']))
      rw [returnLines, blocksFrom, blocksFrom]
      cases Fence.ofLine? line with
      | none => rfl
      | some fence =>
        rw [Option.map_some, Option.map_some, blocksFrom, blocksFrom, List.head?_cons,
          Option.map_some, hstart]
        rfl
    have hlater := Text.returnLines_cons_cons line next rest
    have hnext : (pairBreaks (pre ++ (line ++ ['\n']))).length =
        (pairBreaks pre).length + (line ++ ['\r']).length + 1 := by
      simp [pairBreaks_append, Text.pairBreaks_of_not_mem hline]
      omega
    have hlength : (pre ++ (line ++ ['\n'])).length = pre.length + line.length + 1 := by
      simp
      omega
    have hend : (pairBreaks (pre ++ (line ++ ['\n']))).length +
        ((returnLines (next :: rest)).flatMap (· ++ ['\n'])).length = stop' + 1 := by
      rw [← hstop, hnext, hlater, List.flatMap_cons, List.length_append, List.length_append]
      simp only [List.length_append, List.length_singleton]
      omega
    rw [hlater, blocksFrom, blocksFrom, Fence.ofLine?_return, ← hnext, ← hlength]
    cases hopen : Fence.ofLine? line with
    | none =>
      have hrest := ih hrest hend
      rwa [List.append_assoc] at hrest
    | some fence =>
      have hstart := place_append pre ((line :: next :: rest).flatMap (· ++ ['\n']))
      obtain ⟨e, hhead⟩ := exists_head?_blocksFrom stop pre.length fence
        (pre ++ (line ++ ['\n'])).length (next :: rest)
      rw [Option.map_some, Option.map_some, hhead,
        blocksFrom_some_returnLines (Fence.mark_ne_of_ofLine? hopen) hend, ← hstart]
      rfl

/-- The block that comes first begins first. -/
theorem le_start_of_mem_blocksFrom {stop : Nat} {opened : Option (Nat × Fence)} {offset least : Nat}
    {lines : List (List Char)} (hoffset : least ≤ offset) (hopened : ∀ x ∈ opened, least ≤ x.1) :
    ∀ b ∈ blocksFrom stop opened offset lines, least ≤ b.start := by
  induction lines generalizing opened offset with
  | nil =>
    cases opened with
    | none => nofun
    | some x =>
      intro b hb
      rw [List.mem_singleton.mp hb]
      exact hopened x rfl
  | cons line rest ih =>
    have hnext : least ≤ offset + line.length + 1 := by omega
    cases opened with
    | none =>
      refine ih hnext fun x hx => ?_
      obtain ⟨fence, -, rfl⟩ := Option.map_eq_some_iff.mp hx
      exact hoffset
    | some x =>
      intro b hb
      rw [blocksFrom] at hb
      split at hb
      · rcases List.mem_cons.mp hb with rfl | hb
        · exact hopened x rfl
        · exact ih hnext (by simp) b hb
      · exact ih hnext hopened b hb

theorem head?_start_le {stop offset : Nat} {lines : List (List Char)} {first : Span}
    (h : (blocksFrom stop none offset lines).head? = some first) :
    ∀ b ∈ blocksFrom stop none offset lines, first.start ≤ b.start := by
  induction lines generalizing offset with
  | nil => nofun
  | cons line rest ih =>
    rw [blocksFrom] at h ⊢
    cases hopen : Fence.ofLine? line with
    | none =>
      rw [hopen] at h
      exact ih h
    | some fence =>
      obtain ⟨e, hhead⟩ := exists_head?_blocksFrom stop offset fence (offset + line.length + 1) rest
      rw [hopen, Option.map_some, hhead] at h
      cases h
      refine le_start_of_mem_blocksFrom (by simp only; omega) ?_
      rintro x ⟨⟩
      exact Nat.le_refl _

/-- With paired breaks the first fenced block of a text goes on to its end. -/
theorem blocks_pairBreaks (text : List Char) : blocks (pairBreaks text) 0 =
    ((blocks text 0).head?.map fun b =>
      (⟨place text b.start, (pairBreaks text).length⟩ : Span)).toList := by
  have hlines : ∀ line ∈ text.splitOn '\n', '\n' ∉ line :=
    fun line hline => Path.not_mem_of_mem_splitOn hline
  have hstop : (pairBreaks []).length +
      ((returnLines (text.splitOn '\n')).flatMap (· ++ ['\n'])).length =
        (pairBreaks text).length + 1 := by
    rw [← Text.splitOn_pairBreaks, flatMap_splitOn]
    simp
  have hall := blocksFrom_returnLines text.length hlines hstop
  rw [flatMap_splitOn] at hall
  rw [blocks_zero, blocks_zero, Text.splitOn_pairBreaks]
  refine hall.trans (congrArg Option.toList (Option.map_congr fun b hb => ?_))
  have hstart : b.start ≤ text.length := by
    have hmem : b ∈ blocks text 0 := blocks_zero text ▸ List.mem_of_head? hb
    have hblock := blockOf_of_mem_blocks hmem
    exact Nat.le_of_lt (Nat.lt_of_lt_of_le hblock.nonempty hblock.stop_le)
  rw [List.nil_append, place, place, List.take_append_of_le_length hstart]

/-- Before the first fenced block an offset lies in code if it lies in a code span. -/
theorem anyContains_append_filter {fenced spans : List Span} {i : Nat}
    (h : ∀ b ∈ fenced, i < b.start) :
    Span.anyContains (fenced ++ spans.filter fun s => !Span.anyContains fenced s.start) i =
      Span.anyContains spans i := by
  rw [Span.anyContains_append, Span.anyContains_eq_false_of_lt_start h, Bool.false_or,
    Bool.eq_iff_iff, Span.anyContains_iff, Span.anyContains_iff]
  constructor
  · rintro ⟨s, hs, hin⟩
    exact ⟨s, (List.mem_filter.mp hs).1, hin⟩
  · rintro ⟨s, hs, hle, hlt⟩
    have hout : Span.anyContains fenced s.start = false :=
      Span.anyContains_eq_false_of_lt_start fun b hb => Nat.lt_of_le_of_lt hle (h b hb)
    exact ⟨s, List.mem_filter.mpr ⟨hs, by rw [hout]; rfl⟩, hle, hlt⟩

/-- With paired breaks an offset of a text lies in code if it does without, or if a fenced block
begins before it. -/
theorem anyContains_pairBreaks {i : Nat} (h : '\r' ∉ text) (hi : i < text.length) :
    Span.anyContains (codeRegions (pairBreaks text) 0) (place text i) =
      (Span.anyContains (codeRegions text 0) i ||
        !(fencedFrom text 0).all fun b => decide (i < b.start)) := by
  have hmono := Text.strictMono_place text
  have hspans : codeSpans 0 0 (pairBreaks text) = (codeSpans 0 0 text).map (Span.map (place text)) :=
    codeSpans_pairBreaks [] h
  rw [codeRegions, codeRegions, fencedFrom_eq_blocks, fencedFrom_eq_blocks, List.drop_zero,
    List.drop_zero, hspans]
  by_cases hbefore : ∀ b ∈ blocks text 0, i < b.start
  · have hplaces : ∀ b ∈ blocks (pairBreaks text) 0, place text i < b.start := by
      intro b hb
      rw [blocks_pairBreaks, Option.mem_toList] at hb
      obtain ⟨first, hfirst, rfl⟩ := Option.map_eq_some_iff.mp hb
      exact hmono (hbefore first (List.mem_of_head? hfirst))
    have hall : ((blocks text 0).all fun b => decide (i < b.start)) = true :=
      List.all_eq_true.mpr fun b hb => decide_eq_true (hbefore b hb)
    rw [anyContains_append_filter hplaces, anyContains_append_filter hbefore,
      Span.anyContains_map hmono, hall, Bool.not_true, Bool.or_false]
  · have hall : ((blocks text 0).all fun b => decide (i < b.start)) = false := by
      simpa using hbefore
    obtain ⟨b, hb, hle⟩ : ∃ b ∈ blocks text 0, b.start ≤ i := by
      simpa using hbefore
    obtain ⟨first, hfirst⟩ : ∃ first, (blocks text 0).head? = some first :=
      Option.isSome_iff_exists.mp (List.isSome_head?.mpr (List.ne_nil_of_mem hb))
    -- the first block holds every offset that is not before its beginning
    have hstart : first.start ≤ i := by
      rw [blocks_zero] at hfirst hb
      exact Nat.le_trans (head?_start_le hfirst b hb) hle
    have hend : place text i < (pairBreaks text).length := by
      have hlength := place_append text []
      rw [List.append_nil] at hlength
      exact hlength ▸ hmono hi
    have hhidden : Span.anyContains (blocks (pairBreaks text) 0) (place text i) = true := by
      rw [blocks_pairBreaks, hfirst]
      exact Span.anyContains_iff.mpr ⟨_, List.mem_singleton.mpr rfl, hmono.monotone hstart, hend⟩
    rw [Span.anyContains_append, hhidden, hall, Bool.true_or, Bool.not_false, Bool.or_true]

/-! ## All links -/

/-- No fenced block of the text begins before the link. -/
def precedesBlocks (text : List Char) (l : Link) : Bool :=
  l.start?.all fun start => (fencedFrom text 0).all fun b => decide (start < b.start)

/-- The link when the breaks of the text are paired. -/
def paired (text : List Char) (l : Link) : Link :=
  { l with origin := { l.origin with
      text := String.ofList (pairBreaks l.origin.text.toList)
      span := l.origin.span.map (Span.map (place text)) } }

/-- A link is placed at the same line and column when the breaks are paired. -/
theorem ofOccurrence_paired {o : Occurrence} (ho : o ∈ occurrences text 0) :
    ofOccurrence (pairBreaks text) (o.paired text) = (ofOccurrence text o).paired text := by
  obtain ⟨pre, x, rest, rfl, rfl, -⟩ := exists_inline_of_mem_occurrences (Nat.zero_le _) ho
  have hplace := Text.positionOf_pairBreaks pre (x.text ++ rest)
  simp only [ofOccurrence, ofOrigin, paired, Occurrence.paired, Inline.occurrence, hplace,
    Option.map_some, String.toList_ofList]

/-- When line feeds become pairs of a carriage return and a line feed, the links before the first
fenced block are found with the same targets, titles, lines and columns, and those behind its first
line are lost: so all are found exactly if there is none of these. -/
theorem find_pairBreaks (h : '\r' ∉ text) :
    find (pairBreaks text) 0 = ((find text 0).filter (precedesBlocks text)).map (paired text) ∧
      ((find (pairBreaks text) 0).length = (find text 0).length ↔
        ∀ l ∈ find text 0, precedesBlocks text l = true) := by
  have hoccur : occurrences (pairBreaks text) 0 =
      (occurrences text 0).map (Occurrence.paired text) :=
    occurrencesFrom_pairBreaks [] none h
  have hkept : ∀ o ∈ occurrences text 0,
      (!Span.anyContains (codeRegions (pairBreaks text) 0) (o.paired text).start) =
        (precedesBlocks text (ofOccurrence text o) &&
          !Span.anyContains (codeRegions text 0) o.start) := by
    intro o ho
    have hlength := (bounds_of_mem_occurrences (Nat.zero_le _) ho).2
    rw [precedesBlocks, start?_ofOccurrence ho, Occurrence.paired, anyContains_pairBreaks h hlength]
    cases Span.anyContains (codeRegions text 0) o.start <;> simp
  have hlinks : find (pairBreaks text) 0 =
      ((find text 0).filter (precedesBlocks text)).map (paired text) := by
    simp only [find, hoccur, List.filter_map, List.map_map, List.filter_filter, Function.comp_def]
    rw [List.filter_congr hkept]
    exact List.map_congr_left fun o ho => ofOccurrence_paired (List.mem_filter.mp ho).1
  refine ⟨hlinks, ?_⟩
  rw [hlinks, List.length_map]
  exact List.length_filter_eq_length_iff

namespace Sample

/-- A wrapped label, a link in a code span that wraps, one behind it and one in a fenced block. -/
def wrapped : List Char :=
  "[a\nb](ref:c 't')\n\n\x60x\n[n](ref:n)\x60 [d](ref:d)\n~~~\n[e](ref:e)\n~~~\n".toList

/-- A link behind a fenced block. -/
def fenced : List Char := "\x60\x60\x60\na\n\x60\x60\x60\n[l](ref:y)\n".toList

end Sample

theorem find_pairBreaks_sample :
    '\r' ∉ Sample.wrapped ∧ (find Sample.wrapped 0).length = 2 ∧
    (find (pairBreaks Sample.wrapped) 0).map (·.origin) =
      [⟨"ref:c", "a\r\nb", some "t", some 1, some 1, some ⟨6, 17⟩⟩,
        ⟨"ref:d", "d", none, some 5, some 13, some ⟨40, 47⟩⟩] := by
  have hreturn : '\r' ∉ Sample.wrapped := by decide +kernel
  have hprecedes : precedesBlocks Sample.wrapped = fun l =>
      l.start?.all fun start => (blocks Sample.wrapped 0).all fun b => decide (start < b.start) := by
    funext l
    rw [precedesBlocks, fencedFrom_eq_blocks]
  rw [(find_pairBreaks hreturn).1, hprecedes]
  simp only [find, codeRegions, fencedFrom_eq_blocks]
  decide +kernel

/-- When the line that closes a fenced block ends with a pair, the link behind the block is lost. -/
theorem find_pairBreaks_loses :
    '\r' ∉ Sample.fenced ∧ (find Sample.fenced 0).map (·.url) = ["ref:y"] ∧
      find (pairBreaks Sample.fenced) 0 = [] := by
  simp only [find, codeRegions, fencedFrom_eq_blocks]
  decide +kernel

end Crosslink.Link
