import Crosslink.Link.Basic
import Crosslink.Proofs.Link.Block

/-!
# Code spans run by run

A code span is found at its first backtick, by a search for the run that closes it. The same spans
are found from run to run: a run pairs with the next one of its length in the paragraph, and one
that has no partner pairs by the longest of its ends that has one. What is code for a reader is less
than that: only whole runs pair, and fenced blocks end paragraphs.
-/

namespace Crosslink.Link

open Text (Span)

/-- What a reader of backticks stops at. -/
inductive Mark where
  /-- A maximal run of backticks. -/
  | run (s : Span)
  /-- The end of a paragraph: a blank line or a fenced block. -/
  | gap
  deriving DecidableEq, Repr

/-- The run of backticks that ends at an offset, if there are any. -/
def Mark.ofRun (run offset : Nat) : List Mark :=
  if run = 0 then [] else [.run ⟨offset - run, offset⟩]

/-- The marks of a text that begins at `offset`, after `run` backticks. -/
def marksFrom (inBlock : Nat → Bool) : (run offset : Nat) → List Char → List Mark
  | run, offset, [] => Mark.ofRun run offset
  | run, offset, c :: cs =>
    if !inBlock offset && isTick c then marksFrom inBlock (run + 1) (offset + 1) cs
    else
      let breaks := inBlock offset || (c == '\n' && Text.startsBlankLine cs)
      Mark.ofRun run offset ++ ((if breaks then [.gap] else []) ++
        marksFrom inBlock 0 (offset + 1) cs)

/-- The next run of a size in the paragraph, and the marks after it. -/
def partner? (size : Nat) : List Mark → Option (Span × List Mark)
  | [] => none
  | .gap :: _ => none
  | .run s :: rest => if s.stop - s.start = size then some (s, rest) else partner? size rest

/-- The first of some sizes of which there is a run in the paragraph, that run, and the marks
after it. -/
def partnerOf? (sizes : List Nat) (marks : List Mark) : Option (Nat × Span × List Mark) :=
  sizes.findSome? fun size => (partner? size marks).map (size, ·)

/-- What follows a partner is among the marks and is not longer. -/
theorem sublist_partner? {size : Nat} {marks rest : List Mark} {s : Span}
    (h : partner? size marks = some (s, rest)) : rest.Sublist marks := by
  induction marks with
  | nil => cases h
  | cons m marks ih =>
    cases m with
    | gap => cases h
    | run t =>
      rw [partner?] at h
      split at h
      · cases h
        exact List.sublist_cons_self _ _
      · exact (ih h).cons _

theorem sublist_partnerOf? {sizes : List Nat} {marks rest : List Mark} {size : Nat} {s : Span}
    (h : partnerOf? sizes marks = some (size, s, rest)) : rest.Sublist marks := by
  obtain ⟨n, -, hn⟩ := List.exists_of_findSome?_eq_some h
  obtain ⟨x, hx, he⟩ := Option.map_eq_some_iff.mp hn
  cases he
  exact sublist_partner? hx

/-- The spans between runs of backticks and their partners, from left to right. A run may pair by
ends of the given sizes, and the first of these that has a partner counts. -/
def pairRuns (sizes : Nat → List Nat) (marks : List Mark) : List Span :=
  match marks with
  | [] => []
  | .gap :: rest => pairRuns sizes rest
  | .run s :: rest =>
    match _h : partnerOf? (sizes (s.stop - s.start)) rest with
    | some (size, t, rest') => ⟨s.stop - size, t.stop⟩ :: pairRuns sizes rest'
    | none => pairRuns sizes rest
termination_by marks.length
decreasing_by
  · exact Nat.lt_succ_self _
  · exact Nat.lt_succ_of_le (sublist_partnerOf? _h).length_le
  · exact Nat.lt_succ_self _

/-- A run pairs by one of its ends or not at all. -/
theorem pairRuns_run (sizes : Nat → List Nat) (s : Span) (rest : List Mark) :
    pairRuns sizes (.run s :: rest) = match partnerOf? (sizes (s.stop - s.start)) rest with
      | some (size, t, rest') => ⟨s.stop - size, t.stop⟩ :: pairRuns sizes rest'
      | none => pairRuns sizes rest := by
  rw [pairRuns]
  split <;> rename_i h <;> rw [h]

/-- The sizes of all ends of a run, the whole run first. -/
def ends : Nat → List Nat
  | 0 => []
  | n + 1 => (n + 1) :: ends n

/-- The spans of a text from an offset on when runs pair by any of their ends and fenced blocks are
not minded. -/
def looseSpans (text : List Char) (offset : Nat) : List Span :=
  pairRuns ends (marksFrom (fun _ => false) 0 offset (text.drop offset))

/-- What is code for a reader of a text from an offset on: the fenced blocks and, outside them, the
text between a run of backticks and the next run of the same length in the paragraph. -/
def codeOf (text : List Char) (offset : Nat) : List Span :=
  let fenced := blocks text offset
  fenced ++ pairRuns (fun n => [n])
    (marksFrom (Span.anyContains fenced) 0 offset (text.drop offset))

/-! ## The search for a closing run -/

/-- A closing run ends in the text that is searched. -/
theorem le_of_closingRun? {size run offset stop : Nat} {cs : List Char}
    (h : closingRun? size run offset cs = some stop) :
    offset ≤ stop ∧ stop ≤ offset + cs.length := by
  induction cs generalizing run offset with
  | nil =>
    rw [closingRun?] at h
    split at h
    · cases h
      exact ⟨Nat.le_refl _, Nat.le_add_right _ _⟩
    · cases h
  | cons c cs ih =>
    have hlater : ∀ {run'}, closingRun? size run' (offset + 1) cs = some stop →
        offset ≤ stop ∧ stop ≤ offset + (c :: cs).length := by
      intro run' h
      have := ih h
      rw [List.length_cons]
      omega
    rw [closingRun?] at h
    split at h
    · exact hlater h
    · split at h
      · cases h
        exact ⟨Nat.le_refl _, Nat.le_add_right _ _⟩
      · split at h
        · cases h
        · exact hlater h

/-- A run of backticks is marked before what follows it. -/
theorem marksFrom_of_not_tick (inBlock : Nat → Bool) (run offset : Nat) {cs : List Char}
    (h : inBlock offset = true ∨ ∀ c ∈ cs.head?, isTick c = false) :
    marksFrom inBlock run offset cs = Mark.ofRun run offset ++ marksFrom inBlock 0 offset cs := by
  cases cs with
  | nil => simp [marksFrom, Mark.ofRun]
  | cons c cs =>
    have hc : (!inBlock offset && isTick c) = false := by
      rcases h with h | h
      · rw [h]
        rfl
      · rw [h c rfl, Bool.and_false]
    rw [marksFrom, marksFrom, hc]
    simp [Mark.ofRun]

/-- Only a run of the size itself is a partner. -/
theorem partner?_ofRun_append {size run offset : Nat} (hrun : run ≤ offset) (hne : run ≠ size)
    (marks : List Mark) : partner? size (Mark.ofRun run offset ++ marks) = partner? size marks := by
  rw [Mark.ofRun]
  split
  · rfl
  · have hsize : offset - (offset - run) = run := by omega
    rw [List.singleton_append, partner?, if_neg (by rw [hsize]; exact hne)]

theorem partner?_ofRun_self {size offset : Nat} (hsize : 0 < size) (hrun : size ≤ offset)
    (marks : List Mark) :
    partner? size (Mark.ofRun size offset ++ marks) =
      some (⟨offset - size, offset⟩, marks) := by
  have hlength : offset - (offset - size) = size := by omega
  rw [Mark.ofRun, if_neg (Nat.ne_of_gt hsize), List.singleton_append, partner?, if_pos hlength]

variable {inBlock : Nat → Bool}

/-- A closing run with no block before its end is the partner among the marks. -/
theorem partner?_of_closingRun? {size run offset stop : Nat} {cs : List Char} (hsize : 0 < size)
    (hrun : run ≤ offset) (h : closingRun? size run offset cs = some stop)
    (hblocks : ∀ i, offset ≤ i → i < stop → inBlock i = false) :
    partner? size (marksFrom inBlock run offset cs) =
      some (⟨stop - size, stop⟩, marksFrom inBlock 0 stop (cs.drop (stop - offset))) := by
  induction cs generalizing run offset with
  | nil =>
    rw [closingRun?] at h
    split at h
    · rename_i he
      cases h
      subst he
      have hself := partner?_ofRun_self hsize hrun []
      rw [List.append_nil] at hself
      rw [marksFrom, hself, List.drop_nil, marksFrom, Mark.ofRun, if_pos rfl]
    · cases h
  | cons c cs ih =>
    have hlater : ∀ {run'}, run' ≤ offset + 1 →
        closingRun? size run' (offset + 1) cs = some stop →
        inBlock offset = false ∧ partner? size (marksFrom inBlock run' (offset + 1) cs) =
          some (⟨stop - size, stop⟩,
            marksFrom inBlock 0 stop ((c :: cs).drop (stop - offset))) := by
      intro run' hrun' h
      have hstop := (le_of_closingRun? h).1
      have hdrop : stop - offset = (stop - (offset + 1)) + 1 := by omega
      rw [hdrop, List.drop_succ_cons]
      exact ⟨hblocks offset (Nat.le_refl _) hstop,
        ih hrun' h fun i hi => hblocks i (Nat.le_of_succ_le hi)⟩
    rw [closingRun?] at h
    by_cases htick : isTick c = true
    · rw [if_pos htick] at h
      obtain ⟨hblock, hpartner⟩ := hlater (Nat.succ_le_succ hrun) h
      rw [marksFrom, hblock, htick]
      exact hpartner
    rw [if_neg htick] at h
    have hmarks : marksFrom inBlock run offset (c :: cs) =
        Mark.ofRun run offset ++ marksFrom inBlock 0 offset (c :: cs) :=
      marksFrom_of_not_tick inBlock run offset (.inr (by rintro d ⟨⟩; simpa using htick))
    by_cases he : run = size
    · rw [if_pos he] at h
      cases h
      subst he
      rw [hmarks, partner?_ofRun_self hsize hrun, Nat.sub_self, List.drop_zero]
    · rw [if_neg he] at h
      by_cases hblank : (c == '\n' && Text.startsBlankLine cs) = true
      · rw [if_pos hblank] at h
        cases h
      · rw [if_neg hblank] at h
        obtain ⟨hblock, hpartner⟩ := hlater (Nat.zero_le _) h
        rw [hmarks, partner?_ofRun_append hrun he, marksFrom, hblock]
        simpa [htick, hblank, Mark.ofRun] using hpartner

/-- Where no run closes a span there is no partner among the marks. A block does not begin behind
a backtick. -/
theorem partner?_eq_none {text : List Char}
    (hclosed : ∀ i, text[i]? = some '\x60' → inBlock (i + 1) = true → inBlock i = true)
    {size run offset : Nat} {cs : List Char} (hcs : text.drop offset = cs)
    (hrun : run ≤ offset) (hblock : run ≠ 0 → inBlock offset = false) (hsize : 0 < size)
    (h : closingRun? size run offset cs = none) :
    partner? size (marksFrom inBlock run offset cs) = none := by
  induction cs generalizing run offset with
  | nil =>
    rw [closingRun?] at h
    split at h
    · cases h
    · rename_i hne
      have hself := partner?_ofRun_append hrun hne []
      rw [List.append_nil] at hself
      rw [marksFrom, hself, partner?]
  | cons c cs ih =>
    have hget : text[offset]? = some c := by
      rw [← List.head?_drop, hcs, List.head?_cons]
    have hnext : text.drop (offset + 1) = cs := by
      rw [← List.tail_drop, hcs, List.tail_cons]
    rw [closingRun?] at h
    by_cases hout : (!inBlock offset && isTick c) = true
    · obtain ⟨hoffset, htick⟩ := Bool.and_eq_true_iff.mp hout
      rw [if_pos htick] at h
      rw [marksFrom, if_pos hout]
      refine ih hnext (Nat.succ_le_succ hrun) (fun _ => ?_) h
      rw [isTick, beq_iff_eq] at htick
      rw [htick] at hget
      cases hb : inBlock (offset + 1) with
      | false => rfl
      | true => simp [hclosed offset hget hb] at hoffset
    · -- the marks of what is read so far are a run of another size, so the search goes on
      have hne : run ≠ size := by
        rintro rfl
        have hoffset := hblock (Nat.ne_of_gt hsize)
        have htick : isTick c = false := by simpa [hoffset] using hout
        simp [htick] at h
      rw [marksFrom, if_neg hout, partner?_ofRun_append hrun hne]
      by_cases hbreaks : (inBlock offset || (c == '\n' && Text.startsBlankLine cs)) = true
      · simp only [hbreaks, if_true, List.singleton_append, partner?]
      · obtain ⟨hoffset, hblank⟩ := Bool.or_eq_false_iff.mp (Bool.not_eq_true _ ▸ hbreaks)
        have htick : isTick c = false := by simpa [hoffset] using hout
        simp only [hbreaks]
        refine ih hnext (Nat.zero_le _) (fun h => absurd rfl h) ?_
        simpa only [htick, hne, hblank, if_false, Bool.false_eq_true] using h

/-! ## All spans -/

/-- What belongs to the span before is passed over. -/
theorem codeSpans_skip (skip offset : Nat) (cs : List Char) :
    codeSpans skip offset cs = codeSpans 0 (offset + skip) (cs.drop skip) := by
  induction cs generalizing skip offset with
  | nil => rw [List.drop_nil, codeSpans, codeSpans]
  | cons c cs ih =>
    cases skip with
    | zero => rfl
    | succ skip =>
      rw [codeSpans, ih, List.drop_succ_cons, Nat.add_assoc, Nat.add_comm 1]

/-- A span at the beginning of a text, and those behind it. -/
theorem codeSpans_cons {offset stop : Nat} {c : Char} {cs : List Char}
    (h : spanEnd? offset (c :: cs) = some stop) (hstop : offset < stop) :
    codeSpans 0 offset (c :: cs) =
      ⟨offset, stop⟩ :: codeSpans 0 stop ((c :: cs).drop (stop - offset)) := by
  have hskip : offset + 1 + (stop - offset - 1) = stop := by omega
  have hdrop : stop - offset = (stop - offset - 1) + 1 := by omega
  rw [codeSpans, h]
  simp only
  rw [codeSpans_skip, hskip, hdrop, List.drop_succ_cons]
  simp

/-- No run of backticks begins at another character. -/
theorem takeWhile_isTick {cs : List Char} (h : ∀ c ∈ cs.head?, isTick c = false) :
    cs.takeWhile isTick = [] := by
  cases cs with
  | nil => rfl
  | cons c cs => exact List.takeWhile_cons_of_neg (by simp [h c rfl])

/-- A span that begins with a run of backticks ends with the run that closes it. -/
theorem spanEnd?_ticks (n offset : Nat) {cs : List Char} (hcs : ∀ c ∈ cs.head?, isTick c = false) :
    spanEnd? offset (List.replicate (n + 1) '\x60' ++ cs) =
      closingRun? (n + 1) 0 (offset + (n + 1)) cs := by
  have hticks : ∀ c ∈ List.replicate (n + 1) '\x60', isTick c = true := by
    intro c hc
    rw [(List.mem_replicate.mp hc).2]
    rfl
  rw [spanEnd?, List.takeWhile_append_of_pos hticks, takeWhile_isTick hcs, List.append_nil,
    List.length_replicate]
  rw [if_neg (Nat.succ_ne_zero n), List.drop_left' List.length_replicate]

/-- A span is not empty and ends in the text. -/
theorem lt_of_spanEnd? {offset stop : Nat} {cs : List Char} (h : spanEnd? offset cs = some stop) :
    offset < stop ∧ stop ≤ offset + cs.length := by
  rw [spanEnd?] at h
  split at h
  · cases h
  · rename_i hsize
    have hstop := le_of_closingRun? h
    have hlength := (List.takeWhile_sublist isTick (l := cs)).length_le
    rw [List.length_drop] at hstop
    omega

/-- Every text begins with a run of backticks, which may be empty. -/
theorem exists_ticks (cs : List Char) : ∃ n rest, cs = List.replicate n '\x60' ++ rest ∧
    ∀ c ∈ rest.head?, isTick c = false := by
  induction cs with
  | nil => exact ⟨0, [], rfl, by simp⟩
  | cons c cs ih =>
    by_cases hc : isTick c = true
    · obtain ⟨n, rest, rfl, hrest⟩ := ih
      rw [isTick, beq_iff_eq] at hc
      exact ⟨n + 1, rest, by rw [hc]; rfl, hrest⟩
    · exact ⟨0, c :: cs, rfl, by rintro d ⟨⟩; simpa using hc⟩

/-- A run of backticks outside blocks is counted. -/
theorem marksFrom_ticks {n run offset : Nat} (cs : List Char)
    (hout : ∀ i, offset ≤ i → i < offset + n → inBlock i = false) :
    marksFrom inBlock run offset (List.replicate n '\x60' ++ cs) =
      marksFrom inBlock (run + n) (offset + n) cs := by
  induction n generalizing run offset with
  | zero => rfl
  | succ n ih =>
    have hoffset := hout offset (Nat.le_refl _) (by omega)
    have hrun : run + 1 + n = run + (n + 1) := by omega
    have hplace : offset + 1 + n = offset + (n + 1) := by omega
    rw [List.replicate_succ, List.cons_append, marksFrom, hoffset, isTick, beq_self_eq_true]
    simp only [Bool.not_false, Bool.true_and, if_true]
    rw [ih fun i hi hlt => hout i (by omega) (by omega), hrun, hplace]

/-- A run of backticks that begins outside blocks lies outside them, if no block begins behind a
backtick. -/
theorem eq_false_of_ticks {text : List Char}
    (hclosed : ∀ i, text[i]? = some '\x60' → inBlock (i + 1) = true → inBlock i = true)
    {n offset : Nat} {rest : List Char}
    (hticks : text.drop offset = List.replicate n '\x60' ++ rest)
    (hblock : inBlock offset = false) :
    ∀ i, offset ≤ i → i < offset + n → inBlock i = false := by
  have hrun : ∀ k, k < n → inBlock (offset + k) = false := by
    intro k
    induction k with
    | zero => exact fun _ => hblock
    | succ k ih =>
      intro hk
      have hout := ih (Nat.lt_of_succ_lt hk)
      have htick : text[offset + k]? = some '\x60' := by
        rw [← List.getElem?_drop, hticks, List.getElem?_append_left (by simp; omega),
          List.getElem?_replicate_of_lt (by omega)]
      cases hb : inBlock (offset + (k + 1)) with
      | false => rfl
      | true => simp [hclosed _ htick hb] at hout
  intro i hi hlt
  have h := hrun (i - offset) (by omega)
  rwa [Nat.add_sub_cancel' hi] at h

/-- Nothing inside a block pairs. -/
theorem pairRuns_marksFrom_of_inBlock (sizes : Nat → List Nat) {offset stop : Nat}
    (cs : List Char) (hin : ∀ i, offset ≤ i → i < stop → inBlock i = true) (hle : offset ≤ stop)
    (hlength : stop ≤ offset + cs.length) :
    pairRuns sizes (marksFrom inBlock 0 offset cs) =
      pairRuns sizes (marksFrom inBlock 0 stop (cs.drop (stop - offset))) := by
  induction cs generalizing offset with
  | nil =>
    obtain rfl : stop = offset := Nat.le_antisymm hlength hle
    simp
  | cons c cs ih =>
    rcases Nat.eq_or_lt_of_le hle with rfl | hlt
    · simp
    · have hdrop : stop - offset = (stop - (offset + 1)) + 1 := by omega
      have hblock := hin offset (Nat.le_refl _) hlt
      rw [List.length_cons] at hlength
      rw [hdrop, List.drop_succ_cons,
        ← ih (fun i hi => hin i (by omega)) hlt (by omega), marksFrom, hblock]
      simp [Mark.ofRun, pairRuns]

/-- A run pairs by the longest of its ends that has a partner. -/
theorem pairRuns_ends {n offset : Nat} (hn : n ≤ offset) (marks : List Mark) :
    pairRuns ends (Mark.ofRun n offset ++ marks) = match partnerOf? (ends n) marks with
      | some (size, t, rest) => ⟨offset - size, t.stop⟩ :: pairRuns ends rest
      | none => pairRuns ends marks := by
  rw [Mark.ofRun]
  split
  · rename_i hzero
    subst hzero
    rfl
  · have hsize : offset - (offset - n) = n := by omega
    rw [List.singleton_append, pairRuns_run]
    simp only [hsize]

/-- A run that has a partner pairs as a whole. -/
theorem pairRuns_ends_of_partner {n offset : Nat} (hn : n + 1 ≤ offset) {marks rest : List Mark}
    {t : Span} (h : partner? (n + 1) marks = some (t, rest)) :
    pairRuns ends (Mark.ofRun (n + 1) offset ++ marks) =
      ⟨offset - (n + 1), t.stop⟩ :: pairRuns ends rest := by
  have hpartner : partnerOf? (ends (n + 1)) marks = some (n + 1, t, rest) := by
    rw [partnerOf?, ends, List.findSome?_cons, h]
    rfl
  rw [pairRuns_ends hn, hpartner]

/-- A run without a partner pairs as the rest of it does. -/
theorem pairRuns_ends_of_none {n offset : Nat} (hn : n + 1 ≤ offset) {marks : List Mark}
    (h : partner? (n + 1) marks = none) :
    pairRuns ends (Mark.ofRun (n + 1) offset ++ marks) =
      pairRuns ends (Mark.ofRun n offset ++ marks) := by
  have hpartner : partnerOf? (ends (n + 1)) marks = partnerOf? (ends n) marks := by
    rw [partnerOf?, ends, List.findSome?_cons, h]
    rfl
  rw [pairRuns_ends hn, hpartner, pairRuns_ends (Nat.le_of_succ_le hn)]

/-- A run of backticks outside blocks is marked, and then what follows it. -/
theorem marksFrom_run {n offset : Nat} {rest : List Char}
    (hrest : ∀ c ∈ rest.head?, isTick c = false)
    (hout : ∀ i, offset ≤ i → i < offset + n → inBlock i = false) :
    marksFrom inBlock 0 offset (List.replicate n '\x60' ++ rest) =
      Mark.ofRun n (offset + n) ++ marksFrom inBlock 0 (offset + n) rest := by
  rw [marksFrom_ticks rest hout, Nat.zero_add, marksFrom_of_not_tick inBlock _ _ (.inr hrest)]

/-- Where no span begins, runs pair as they do from the next character on: a run without a partner
pairs as its tail does. -/
theorem pairRuns_marksFrom_of_none {text : List Char}
    (hclosed : ∀ i, text[i]? = some '\x60' → inBlock (i + 1) = true → inBlock i = true)
    {offset : Nat} {c : Char} {cs : List Char} (hcs : text.drop offset = c :: cs)
    (hspan : spanEnd? offset (c :: cs) = none) :
    pairRuns ends (marksFrom inBlock 0 offset (c :: cs)) =
      pairRuns ends (marksFrom inBlock 0 (offset + 1) cs) := by
  cases hblock : inBlock offset with
  | true =>
    rw [marksFrom, hblock]
    simp [Mark.ofRun, pairRuns]
  | false =>
    obtain ⟨n, rest, hticks, hrest⟩ := exists_ticks (c :: cs)
    cases n with
    | zero =>
      have hall : c :: cs = rest := hticks
      have htick : isTick c = false := hrest c (hall ▸ rfl)
      rw [marksFrom, hblock, htick]
      by_cases hblank : (c == '\n' && Text.startsBlankLine cs) = true <;>
        simp [hblank, Mark.ofRun, pairRuns]
    | succ n =>
      have hout := eq_false_of_ticks hclosed (hcs.trans hticks) hblock
      have hend : text.drop (offset + (n + 1)) = rest := by
        rw [← List.drop_drop, hcs, hticks, List.drop_left' List.length_replicate]
      have hclosing := spanEnd?_ticks n offset hrest
      rw [← hticks, hspan] at hclosing
      have hpartner := partner?_eq_none hclosed hend (Nat.zero_le _) (fun h => absurd rfl h)
        (Nat.succ_pos n) hclosing.symm
      have htail : cs = List.replicate n '\x60' ++ rest := (List.cons.inj hticks).2
      have hplace : offset + 1 + n = offset + (n + 1) := by omega
      rw [hticks, marksFrom_run hrest hout, pairRuns_ends_of_none (Nat.le_add_left _ _) hpartner,
        htail, marksFrom_run hrest fun i hi hlt => hout i (by omega) (by omega), hplace]

/-- Where a span begins outside blocks and meets none, a run pairs as a whole with its closing
run. -/
theorem pairRuns_marksFrom_of_some {text : List Char} {offset stop : Nat} {cs : List Char}
    (hcs : text.drop offset = cs) (hspan : spanEnd? offset cs = some stop)
    (hout : ∀ i, offset ≤ i → i < stop → inBlock i = false) :
    pairRuns ends (marksFrom inBlock 0 offset cs) =
      ⟨offset, stop⟩ :: pairRuns ends (marksFrom inBlock 0 stop (text.drop stop)) := by
  obtain ⟨n, rest, rfl, hrest⟩ := exists_ticks cs
  cases n with
  | zero =>
    simp [spanEnd?, takeWhile_isTick hrest] at hspan
  | succ n =>
    have hend : text.drop (offset + (n + 1)) = rest := by
      rw [← List.drop_drop, hcs, List.drop_left' List.length_replicate]
    have hclosing := (spanEnd?_ticks n offset hrest).symm.trans hspan
    have hstop := (le_of_closingRun? hclosing).1
    have hpartner := partner?_of_closingRun? (Nat.succ_pos n) (Nat.zero_le _) hclosing
      fun i hi => hout i (by omega)
    have hdrop : rest.drop (stop - (offset + (n + 1))) = text.drop stop := by
      rw [← hend, List.drop_drop, Nat.add_sub_cancel' hstop]
    rw [marksFrom_run hrest fun i hi hlt => hout i hi (by omega),
      pairRuns_ends_of_partner (Nat.le_add_left _ _) hpartner, hdrop, Nat.add_sub_cancel]

/-- If no span goes beyond the edge of a block, the spans outside blocks are those between runs and
their partners outside blocks. -/
theorem filter_codeSpans {text : List Char}
    (hclosed : ∀ i, text[i]? = some '\x60' → inBlock (i + 1) = true → inBlock i = true)
    {offset : Nat} {cs : List Char} (hcs : text.drop offset = cs)
    (hspans : ∀ s ∈ codeSpans 0 offset cs, ∀ i, s.start ≤ i → i < s.stop →
      inBlock i = inBlock s.start) :
    (codeSpans 0 offset cs).filter (fun s => !inBlock s.start) =
      pairRuns ends (marksFrom inBlock 0 offset cs) := by
  induction hlength : cs.length using Nat.strongRecOn generalizing offset cs with
  | ind length ih =>
  subst hlength
  cases cs with
  | nil => simp [codeSpans, marksFrom, Mark.ofRun, pairRuns]
  | cons c cs =>
    cases hspan : spanEnd? offset (c :: cs) with
    | none =>
      have hnext : text.drop (offset + 1) = cs := by
        rw [← List.tail_drop, hcs, List.tail_cons]
      have hskip : codeSpans 0 offset (c :: cs) = codeSpans 0 (offset + 1) cs := by
        rw [codeSpans, hspan]
      rw [hskip] at hspans ⊢
      rw [pairRuns_marksFrom_of_none hclosed hcs hspan]
      exact ih _ (Nat.lt_succ_self _) hnext hspans rfl
    | some stop =>
      obtain ⟨hstop, hend⟩ := lt_of_spanEnd? hspan
      have hdrop : text.drop stop = (c :: cs).drop (stop - offset) := by
        rw [← hcs, List.drop_drop, Nat.add_sub_cancel' (Nat.le_of_lt hstop)]
      rw [codeSpans_cons hspan hstop] at hspans ⊢
      obtain ⟨hfirst, hlater⟩ := List.forall_mem_cons.mp hspans
      have hrest := ih _ (by rw [List.length_drop]; simp only [List.length_cons]; omega) hdrop
        hlater rfl
      cases hblock : inBlock offset with
      | true =>
        rw [List.filter_cons_of_neg (by simp [hblock]), hrest]
        exact (pairRuns_marksFrom_of_inBlock ends _
          (fun i hi hlt => (hfirst i hi hlt).trans hblock) (Nat.le_of_lt hstop) hend).symm
      | false =>
        rw [List.filter_cons_of_pos (by simp [hblock]), hrest, ← hdrop]
        exact (pairRuns_marksFrom_of_some hcs hspan
          fun i hi hlt => (hfirst i hi hlt).trans hblock).symm

/-! ## Runs that pair as a whole -/

/-- A run of backticks in a text, not before an offset. -/
structure RunOf (text : List Char) (offset : Nat) (s : Span) : Prop where
  le_start : offset ≤ s.start
  nonempty : s.start < s.stop
  ticks : ∀ i, s.start ≤ i → i < s.stop → text[i]? = some '\x60'

theorem RunOf.of_mem_ofRun {text : List Char} {run offset : Nat}
    (hrun : ∀ i, offset ≤ i → i < offset + run → text[i]? = some '\x60') {s : Span}
    (hs : .run s ∈ Mark.ofRun run (offset + run)) : RunOf text offset s := by
  rw [Mark.ofRun] at hs
  split at hs
  · cases hs
  · rename_i hne
    cases List.mem_singleton.mp hs
    rw [Nat.add_sub_cancel]
    exact ⟨Nat.le_refl _, by simp only; omega, hrun⟩

theorem RunOf.mono {text : List Char} {offset offset' : Nat} (h : offset ≤ offset') {s : Span}
    (hs : RunOf text offset' s) : RunOf text offset s :=
  ⟨Nat.le_trans h hs.le_start, hs.nonempty, hs.ticks⟩

/-- The marks of a text are runs of its backticks. -/
theorem runOf_of_mem_marksFrom {text : List Char} {run offset : Nat} {cs : List Char}
    (hcs : text.drop (offset + run) = cs)
    (hrun : ∀ i, offset ≤ i → i < offset + run → text[i]? = some '\x60') {s : Span}
    (hs : .run s ∈ marksFrom inBlock run (offset + run) cs) : RunOf text offset s := by
  induction cs generalizing run offset with
  | nil => exact .of_mem_ofRun hrun hs
  | cons c cs ih =>
    have hnext : text.drop (offset + run + 1) = cs := by
      rw [← List.tail_drop, hcs, List.tail_cons]
    rw [marksFrom] at hs
    split at hs
    · rename_i hout
      have htick : text[offset + run]? = some '\x60' := by
        rw [← List.head?_drop, hcs, List.head?_cons, ← eq_of_beq (Bool.and_eq_true_iff.mp hout).2]
      have hrest : text.drop (offset + (run + 1)) = cs := hnext
      refine ih hrest (fun i hi hlt => ?_) hs
      rcases Nat.lt_or_ge i (offset + run) with hi' | hi'
      · exact hrun i hi hi'
      · obtain rfl : i = offset + run := by omega
        exact htick
    · rcases List.mem_append.mp hs with hs | hs
      · exact .of_mem_ofRun hrun hs
      · rcases List.mem_append.mp hs with hs | hs
        · split at hs
          · cases List.mem_singleton.mp hs
          · cases hs
        · have hrest : text.drop (offset + run + 1 + 0) = cs := hnext
          exact (ih hrest (by omega) hs).mono (by omega)

theorem mem_ends {size n : Nat} : size ∈ ends n ↔ 0 < size ∧ size ≤ n := by
  induction n with
  | zero => simp [ends]; omega
  | succ n ih =>
    rw [ends, List.mem_cons, ih]
    omega

theorem of_partnerOf? {sizes : List Nat} {marks rest : List Mark} {size : Nat} {t : Span}
    (h : partnerOf? sizes marks = some (size, t, rest)) :
    size ∈ sizes ∧ partner? size marks = some (t, rest) := by
  obtain ⟨n, hn, hmap⟩ := List.exists_of_findSome?_eq_some h
  obtain ⟨x, hx, he⟩ := Option.map_eq_some_iff.mp hmap
  cases he
  exact ⟨hn, hx⟩

theorem partnerOf?_singleton (size : Nat) (marks : List Mark) :
    partnerOf? [size] marks = (partner? size marks).map (size, ·) := by
  rw [partnerOf?, List.findSome?_cons]
  cases partner? size marks <;> rfl

/-- If no span begins behind a backtick, only whole runs pair. -/
theorem pairRuns_ends_eq {text : List Char} {offset : Nat} {marks : List Mark}
    (hruns : ∀ s, .run s ∈ marks → RunOf text offset s)
    (hwhole : ∀ s ∈ pairRuns ends marks,
      s.start = offset ∨ text[s.start - 1]? ≠ some '\x60') :
    pairRuns ends marks = pairRuns (fun n => [n]) marks := by
  fun_induction pairRuns ends marks with
  | case1 => rw [pairRuns]
  | case2 rest ih =>
    rw [pairRuns]
    exact ih (fun s hs => hruns s (List.mem_cons_of_mem _ hs)) hwhole
  | case3 s rest size t rest' hpartner ih =>
    have hs := hruns s List.mem_cons_self
    obtain ⟨hsize, hrest⟩ := of_partnerOf? hpartner
    obtain ⟨hpos, hle⟩ := mem_ends.mp hsize
    obtain ⟨hfirst, hlater⟩ := List.forall_mem_cons.mp hwhole
    have hfull : s.stop - s.start = size := by
      -- a smaller end would have a backtick of the run before it
      refine Decidable.byContradiction fun hne => ?_
      have hstart := hs.le_start
      rcases hfirst with h | h
      · simp only at h
        omega
      · exact h (hs.ticks _ (by simp only; omega) (by simp only; omega))
    rw [pairRuns_run, partnerOf?_singleton, hfull, hrest]
    simp only [Option.map_some]
    rw [ih (fun u hu => hruns u (List.mem_cons_of_mem _
      ((sublist_partnerOf? hpartner).subset hu))) hlater]
  | case4 s rest hpartner ih =>
    have hs := hruns s List.mem_cons_self
    have hnone : partner? (s.stop - s.start) rest = none := by
      have hmem := mem_ends.mpr ⟨Nat.sub_pos_of_lt hs.nonempty, Nat.le_refl _⟩
      simpa using List.findSome?_eq_none_iff.mp hpartner _ hmem
    rw [pairRuns_run, partnerOf?_singleton, hnone]
    exact ih (fun u hu => hruns u (List.mem_cons_of_mem _ hu)) hwhole

/-! ## Links and code -/

variable {text : List Char} {offset : Nat}

/-- No fenced block begins behind a backtick. -/
theorem anyContains_blocks_of_tick (i : Nat) (htick : text[i]? = some '\x60')
    (h : Span.anyContains (blocks text offset) (i + 1) = true) :
    Span.anyContains (blocks text offset) i = true := by
  obtain ⟨b, hb, hstart, hstop⟩ := Span.anyContains_iff.mp h
  refine Span.anyContains_iff.mpr ⟨b, hb, ?_, by omega⟩
  have hbegins := (blockOf_of_mem_blocks hb).begins
  rcases Nat.lt_or_ge i b.start with hlt | hle
  · have hplace : b.start = i + 1 := by omega
    simp [isLineStart, hplace, htick] at hbegins
  · exact hle

/-- The spans that are found are those between runs that pair by any of their ends. -/
theorem codeSpans_eq_looseSpans (text : List Char) (offset : Nat) :
    codeSpans 0 offset (text.drop offset) = looseSpans text offset := by
  have h := @filter_codeSpans (fun _ => false) text (fun _ _ h => h) offset _ rfl
    fun _ _ _ _ _ => rfl
  rw [looseSpans, ← h]
  exact (List.filter_eq_self.mpr fun _ _ => rfl).symm

/-- Code spans of a text keep to their blocks and begin with whole runs. -/
structure Regular (text : List Char) (offset : Nat) : Prop where
  /-- A span lies in one block, or outside all blocks. -/
  apart : ∀ s ∈ looseSpans text offset,
    (∃ b ∈ blocks text offset, b.start ≤ s.start ∧ s.stop ≤ b.stop) ∨
      ∀ b ∈ blocks text offset, s.stop ≤ b.start ∨ b.stop ≤ s.start
  /-- Outside blocks there is no backtick before a span. -/
  whole : ∀ s ∈ looseSpans text offset, Span.anyContains (blocks text offset) s.start = true ∨
    s.start = offset ∨ text[s.start - 1]? ≠ some '\x60'

instance (text : List Char) (offset : Nat) : Decidable (Regular text offset) :=
  decidable_of_iff (_ ∧ _) ⟨fun h => ⟨h.1, h.2⟩, fun h => ⟨h.apart, h.whole⟩⟩

/-- In a regular text the code that is found is what is code for a reader. -/
theorem Regular.codeRegions_eq (h : Regular text offset) :
    codeRegions text offset = codeOf text offset := by
  have hspans : ∀ s ∈ codeSpans 0 offset (text.drop offset), ∀ i, s.start ≤ i → i < s.stop →
      Span.anyContains (blocks text offset) i =
        Span.anyContains (blocks text offset) s.start := by
    intro s hs i hi hlt
    rw [codeSpans_eq_looseSpans] at hs
    rcases h.apart s hs with ⟨b, hb, hstart, hstop⟩ | hapart
    · rw [Span.anyContains_iff.mpr ⟨b, hb, by omega, by omega⟩,
        Span.anyContains_iff.mpr ⟨b, hb, hstart, by omega⟩]
    · have hout : ∀ j, s.start ≤ j → j < s.stop →
          Span.anyContains (blocks text offset) j = false := by
        intro j hj hjlt
        rw [Bool.eq_false_iff, ne_eq, Span.anyContains_iff]
        rintro ⟨b, hb, hstart, hstop⟩
        have := hapart b hb
        omega
      rw [hout i hi hlt, hout s.start (Nat.le_refl _) (by omega)]
  have hfilter := filter_codeSpans anyContains_blocks_of_tick rfl hspans
  have hruns : ∀ s, .run s ∈ marksFrom (Span.anyContains (blocks text offset)) 0 offset
      (text.drop offset) → RunOf text offset s :=
    fun s hs => runOf_of_mem_marksFrom (Nat.add_zero offset ▸ rfl) (by omega) hs
  have hwhole : ∀ s ∈ pairRuns ends (marksFrom (Span.anyContains (blocks text offset)) 0 offset
      (text.drop offset)), s.start = offset ∨ text[s.start - 1]? ≠ some '\x60' := by
    intro s hs
    rw [← hfilter, codeSpans_eq_looseSpans] at hs
    obtain ⟨hs, hout⟩ := List.mem_filter.mp hs
    rw [Bool.not_eq_true'] at hout
    exact (h.whole s hs).resolve_left (by simp [hout])
  simp only [codeRegions, codeOf, fencedFrom_eq_blocks]
  rw [hfilter, pairRuns_ends_eq hruns hwhole]

/-- The links of a text from an offset on that do not begin in some spans. -/
def findOutside (code : List Span) (text : List Char) (offset : Nat) : List Link :=
  ((occurrences text offset).filter fun o => !Span.anyContains code o.start).map
    (ofOccurrence text)

/-- Links are hidden by fenced blocks and by the text between runs of backticks that pair by any of
their ends, unless that begins in a block. In a regular text these hide just what is code for a
reader, so a run without a partner hides nothing. -/
theorem find_eq_findOutside (text : List Char) (offset : Nat) :
    find text offset =
      findOutside (blocks text offset ++ (looseSpans text offset).filter fun s =>
        !Span.anyContains (blocks text offset) s.start) text offset ∧
    (Regular text offset → find text offset = findOutside (codeOf text offset) text offset) := by
  have hfind : find text offset = findOutside (codeRegions text offset) text offset := rfl
  refine ⟨?_, fun h => by rw [hfind, h.codeRegions_eq]⟩
  rw [hfind]
  simp only [codeRegions, fencedFrom_eq_blocks, codeSpans_eq_looseSpans]

namespace Sample

/-- A text in which code spans hide one link, and neither a run without a partner nor a fenced
block hides the other. -/
def regular : List Char :=
  "Use \x60[a](ref:a)\x60, \x60\x60\x60 or [b](ref:b).\n\n~~~\n\x60c\n~~~\n".toList

/-- A text with a link that no code of it holds: the fence that closes the block pairs with a
backtick behind it. -/
def irregular : List Char :=
  "\x60\x60\x60\na\n\nb\n\x60\x60\x60\nSee \x60x\x60 and [l](ref:y) or \x60z\x60.\n".toList

end Sample

theorem find_eq_findOutside_sample : Regular Sample.regular 0 ∧
    (find Sample.regular 0).map (·.url) = ["ref:b"] ∧
    find Sample.regular 0 = findOutside (codeOf Sample.regular 0) Sample.regular 0 := by
  have h : Regular Sample.regular 0 := by decide +kernel
  exact ⟨h, by decide +kernel, (find_eq_findOutside Sample.regular 0).2 h⟩

/-- Where a span goes beyond the edge of a block, a link outside all code is hidden. -/
theorem find_hides_outside_code :
    (findOutside (codeOf Sample.irregular 0) Sample.irregular 0).map (·.url) = ["ref:y"] ∧
      find Sample.irregular 0 = [] := by
  decide +kernel

end Crosslink.Link
