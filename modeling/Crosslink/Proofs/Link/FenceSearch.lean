import Crosslink.Proofs.Link.FenceLine

/-!
# Searching for fenced blocks

The blocks of a text are found by searches that go from place to place: for the next fence, for the
end of its line and for the next line that closes it, and again from where that line ends. The
searches come to an end on every text. From where a line begins, they find the same blocks as a
reader who goes from line to line.
-/

namespace Crosslink.Link

open Text (Span Run)

/-! ## From place to place -/

/-- What a search from an offset on comes upon: the first place of a match, with what it matches,
or nothing. -/
inductive Finds {α : Type} (Matches : Nat → α → Prop) (offset : Nat) : Option (Nat × α) → Prop
  | nothing (h : ∀ i a, Matches i a → i < offset) : Finds Matches offset none
  | first {i : Nat} {a : α} (hmatch : Matches i a) (hle : offset ≤ i)
      (hleast : ∀ j b, Matches j b → offset ≤ j → i ≤ j) : Finds Matches offset (some (i, a))

/-- A line feed, and where the next line begins. -/
def FeedAt (text : List Char) (i next : Nat) : Prop := text[i]? = some '\n' ∧ next = i + 1

/-- A line begins with a fence, which ends at a place. -/
structure OpensAt (text : List Char) (start : Nat) (found : Fence × Nat) : Prop where
  begins : isLineStart text start = true
  opens : ∃ front, found.1.Opens (text.drop start) front ∧ found.2 = start + front.length

/-- A line closes a block and ends at a place. -/
structure ClosesAt (text : List Char) (f : Fence) (start stop : Nat) : Prop where
  begins : isLineStart text start = true
  closes : ∃ line rest, text.drop start = line ++ rest ∧ f.Closes line ∧
    (∀ c ∈ rest.head?, c = '\n') ∧ stop = start + line.length

/-- The blocks that searches find from an offset on: for a fence, for the end of its line, and for
a line that closes the block. The next search begins where that line ends. -/
inductive Searched (text : List Char) : (offset : Nat) → List Span → Prop
  | ended {offset : Nat} (hopen : Finds (OpensAt text) offset none) : Searched text offset []
  | last {offset start fenceEnd : Nat} {f : Fence}
      (hopen : Finds (OpensAt text) offset (some (start, f, fenceEnd)))
      (hfeed : Finds (FeedAt text) fenceEnd none) : Searched text offset [⟨start, text.length⟩]
  | unclosed {offset start fenceEnd feed next : Nat} {f : Fence} {blocks : List Span}
      (hopen : Finds (OpensAt text) offset (some (start, f, fenceEnd)))
      (hfeed : Finds (FeedAt text) fenceEnd (some (feed, next)))
      (hclose : Finds (ClosesAt text f) next none)
      (hrest : Searched text text.length blocks) :
      Searched text offset (⟨start, text.length⟩ :: blocks)
  | closed {offset start fenceEnd feed next closing stop : Nat} {f : Fence} {blocks : List Span}
      (hopen : Finds (OpensAt text) offset (some (start, f, fenceEnd)))
      (hfeed : Finds (FeedAt text) fenceEnd (some (feed, next)))
      (hclose : Finds (ClosesAt text f) next (some (closing, stop)))
      (hrest : Searched text stop blocks) : Searched text offset (⟨start, stop⟩ :: blocks)

/-- The rest of the line at a place. -/
def lineAt (text : List Char) (i : Nat) : List Char := (text.drop i).takeWhile (· != '\n')

variable {text : List Char}

theorem run_lineAt (text : List Char) (i : Nat) : Run (· != '\n') (text.drop i) (lineAt text i)
    ((text.drop i).dropWhile (· != '\n')) :=
  Text.run_takeWhile _ _

theorem Finds.unique {α : Type} {Matches : Nat → α → Prop} {offset : Nat}
    (hmatches : ∀ i a b, Matches i a → Matches i b → a = b) {x y : Option (Nat × α)}
    (hx : Finds Matches offset x) (hy : Finds Matches offset y) : x = y := by
  cases hx with
  | nothing hx =>
    cases hy with
    | nothing => rfl
    | first hy hle => exact absurd (hx _ _ hy) (Nat.not_lt.mpr hle)
  | first hx hxle hxleast =>
    cases hy with
    | nothing hy => exact absurd (hy _ _ hx) (Nat.not_lt.mpr hxle)
    | first hy hyle hyleast =>
      obtain rfl := Nat.le_antisymm (hxleast _ _ hy hyle) (hyleast _ _ hx hxle)
      rw [hmatches _ _ _ hx hy]

/-! ### Fences on their lines -/

/-- Where a fence ends is told by the indentation and by the length of the fence. -/
theorem Fence.Opens.length_front {f : Fence} {cs front : List Char} (h : f.Opens cs front) :
    front.length = (cs.takeWhile (· == ' ')).length + f.size := by
  obtain ⟨hmarks, ⟨-⟩, info, rfl, -⟩ := h
  rename_i indent
  have hsize : 0 < f.size := Nat.lt_of_lt_of_le (by decide) hmarks.size
  have hrun : Run (· == ' ') (List.replicate indent ' ' ++ (List.replicate f.size f.mark ++ info))
      (List.replicate indent ' ') (List.replicate f.size f.mark ++ info) := by
    refine ⟨rfl, fun c hc => by simp [List.eq_of_mem_replicate hc], ?_⟩
    rw [head?_replicate_append _ hsize]
    rintro c ⟨⟩
    simpa using hmarks.ne_space
  rw [List.append_assoc, hrun.eq.1, List.length_append, List.length_replicate,
    List.length_replicate]

/-- A fence stands on one line. -/
theorem Fence.opens_lineAt {f : Fence} {i : Nat} {front : List Char} :
    f.Opens (lineAt text i) front ↔ f.Opens (text.drop i) front := by
  obtain ⟨hwritten, hline, hend⟩ := run_lineAt text i
  constructor
  · rintro ⟨hmarks, hfront, info, hinfo, hhead⟩
    refine ⟨hmarks, hfront, info ++ (text.drop i).dropWhile (· != '\n'), ?_, fun c hc => ?_⟩
    · rw [← List.append_assoc, ← hinfo]
      exact hwritten
    · rcases info with _ | ⟨d, info⟩
      · obtain rfl : c = '\n' := by simpa using hend c hc
        exact hmarks.ne_feed.symm
      · exact hhead c hc
  · rintro ⟨hmarks, hfront, info, hinfo, hhead⟩
    refine ⟨hmarks, hfront, info.takeWhile (· != '\n'), ?_, fun c hc => hhead c ?_⟩
    · rw [lineAt, hinfo, List.takeWhile_append_of_pos]
      intro c hc
      have hfeed := hfront.not_mem hmarks.ne_feed
      exact bne_iff_ne.mpr fun he => hfeed (he ▸ hc)
    · rw [List.head?_takeWhile] at hc
      exact (Option.filter_eq_some_iff.mp hc).1

theorem OpensAt.ofLine? {start : Nat} {found : Fence × Nat} (h : OpensAt text start found) :
    Fence.ofLine? (lineAt text start) = some found.1 := by
  obtain ⟨front, hopens, -⟩ := h.opens
  exact Fence.ofLine?_eq_some_iff.mpr ⟨front, Fence.opens_lineAt.mpr hopens⟩

theorem OpensAt.unique {start : Nat} {x y : Fence × Nat} (hx : OpensAt text start x)
    (hy : OpensAt text start y) : x = y := by
  have hfence : x.1 = y.1 := Option.some_inj.mp (hx.ofLine?.symm.trans hy.ofLine?)
  obtain ⟨xfront, hxopens, hxstop⟩ := hx.opens
  obtain ⟨yfront, hyopens, hystop⟩ := hy.opens
  refine Prod.ext hfence ?_
  rw [hxstop, hystop, hxopens.length_front, hyopens.length_front, hfence]

/-- Where a line opens a block, its fence ends on the line. -/
theorem exists_opensAt {start : Nat} {f : Fence} (hstart : isLineStart text start = true)
    (h : Fence.ofLine? (lineAt text start) = some f) :
    ∃ stop, OpensAt text start (f, stop) ∧ start ≤ stop ∧
      stop ≤ start + (lineAt text start).length := by
  obtain ⟨front, hopens⟩ := Fence.ofLine?_eq_some_iff.mp h
  obtain ⟨info, hline, -⟩ := hopens.written
  refine ⟨start + front.length, ⟨hstart, front, Fence.opens_lineAt.mp hopens, rfl⟩,
    Nat.le_add_right _ _, ?_⟩
  rw [hline, List.length_append]
  omega

/-- The line that closes a block is the whole line. -/
theorem closesAt_iff {f : Fence} (hmark : f.mark ≠ '\n') {start stop : Nat} :
    ClosesAt text f start stop ↔ isLineStart text start = true ∧ f.Closes (lineAt text start) ∧
      stop = start + (lineAt text start).length := by
  constructor
  · rintro ⟨hstart, line, rest, hwritten, hcloses, hrest, hstop⟩
    have hfeed := hcloses.not_mem hmark
    have hrun : Run (· != '\n') (text.drop start) line rest := by
      refine ⟨hwritten, fun c hc => bne_iff_ne.mpr fun he => hfeed (he ▸ hc), fun c hc => ?_⟩
      rw [hrest c hc]
      rfl
    have hline : lineAt text start = line := hrun.eq.1
    rw [hline]
    exact ⟨hstart, hcloses, hstop⟩
  · rintro ⟨hstart, hcloses, hstop⟩
    obtain ⟨hwritten, -, hend⟩ := run_lineAt text start
    exact ⟨hstart, _, _, hwritten, hcloses, fun c hc => by simpa using hend c hc, hstop⟩

theorem ClosesAt.unique {f : Fence} (hmark : f.mark ≠ '\n') {start x y : Nat}
    (hx : ClosesAt text f start x) (hy : ClosesAt text f start y) : x = y :=
  ((closesAt_iff hmark).mp hx).2.2.trans ((closesAt_iff hmark).mp hy).2.2.symm

/-! ### The lines of a text -/

theorem le_length_of_isLineStart {i : Nat} (h : isLineStart text i = true) : i ≤ text.length := by
  rw [isLineStart, Bool.or_eq_true, beq_iff_eq, beq_iff_eq] at h
  rcases h with rfl | h
  · exact Nat.zero_le _
  · have hlt := (List.getElem?_eq_some_iff.mp h).1
    omega

/-- On a line there is no line feed. -/
theorem getElem?_ne_feed {start i : Nat} (hle : start ≤ i)
    (hlt : i < start + (lineAt text start).length) : text[i]? ≠ some '\n' := by
  obtain ⟨k, rfl⟩ := Nat.exists_eq_add_of_le hle
  have hk : k < (lineAt text start).length := Nat.lt_of_add_lt_add_left hlt
  obtain ⟨hwritten, hline, -⟩ := run_lineAt text start
  have hget : text[start + k]? = (lineAt text start)[k]? := by
    rw [← List.getElem?_drop, hwritten, List.getElem?_append_left hk]
  rw [hget, List.getElem?_eq_getElem hk, ne_eq, Option.some_inj]
  exact bne_iff_ne.mp (hline _ (List.getElem_mem hk))

/-- No line begins within a line. -/
theorem not_isLineStart_of_lt {start i : Nat} (hlt : start < i)
    (hle : i ≤ start + (lineAt text start).length) : isLineStart text i = false := by
  have hbefore : start ≤ i - 1 := by omega
  have hfeed : text[i - 1]? ≠ some '\n' := getElem?_ne_feed hbefore (by omega)
  have hzero : i ≠ 0 := by omega
  simp [isLineStart, hfeed, hzero]

theorem add_length_lineAt_le {start : Nat} (h : start ≤ text.length) :
    start + (lineAt text start).length ≤ text.length := by
  have hlength := (List.takeWhile_sublist (l := text.drop start) (· != '\n')).length_le
  rw [List.length_drop] at hlength
  rw [lineAt]
  omega

/-- The search for the end of a line. -/
theorem finds_feedAt {start i : Nat} (hle : start ≤ i)
    (hi : i ≤ start + (lineAt text start).length) :
    Finds (FeedAt text) i (if start + (lineAt text start).length < text.length then
      some (start + (lineAt text start).length, start + (lineAt text start).length + 1)
      else none) := by
  have hbefore : ∀ j next, FeedAt text j next → i ≤ j →
      start + (lineAt text start).length ≤ j := fun j next hj hij =>
    Nat.le_of_not_lt fun hlt => getElem?_ne_feed (Nat.le_trans hle hij) hlt hj.1
  split
  · rename_i hlt
    exact .first ⟨getElem?_end_of_line hlt, rfl⟩ hi hbefore
  · rename_i hlt
    refine .nothing fun j next hj => Nat.lt_of_not_le fun hij => ?_
    have hlength := (List.getElem?_eq_some_iff.mp hj.1).1
    have hend := hbefore j next hj hij
    omega

/-- The lines at an offset are those of the text, and each is a whole line. -/
structure UnbrokenLines (text : List Char) (offset : Nat) (lines : List (List Char)) : Prop extends
    LinesAt text offset lines where
  whole : ∀ line ∈ lines, '\n' ∉ line

section UnbrokenLines

variable {offset next : Nat} {line : List Char} {rest lines : List (List Char)}

theorem UnbrokenLines.tail (h : UnbrokenLines text offset (line :: rest)) :
    UnbrokenLines text (offset + line.length + 1) rest :=
  ⟨h.next.2, fun later hlater => h.whole later (List.mem_cons_of_mem _ hlater)⟩

theorem UnbrokenLines.lineAt_eq (h : UnbrokenLines text offset (line :: rest)) :
    lineAt text offset = line := by
  obtain ⟨before, hwritten, rfl⟩ := h.written
  have hlength := h.next.1
  have hdrop := congrArg (List.drop before.length) hwritten
  rw [List.drop_append_of_le_length (by omega), List.drop_left, List.flatMap_cons,
    List.append_assoc, List.singleton_append] at hdrop
  have hline : Run (· != '\n') (text.drop before.length ++ ['\n']) line
      ('\n' :: rest.flatMap (· ++ ['\n'])) := by
    rw [hdrop]
    refine Text.run_append_cons (fun c hc => bne_iff_ne.mpr ?_) rfl _
    rintro rfl
    exact h.whole line List.mem_cons_self hc
  -- the line feed that was added does not make the line longer
  have hadded : (text.drop before.length ++ ['\n']).takeWhile (· != '\n') =
      lineAt text before.length := by
    rw [lineAt, List.takeWhile_append]
    split
    · rename_i hall
      simp [(List.takeWhile_sublist _).eq_of_length hall]
    · rfl
  exact hadded.symm.trans hline.eq.1

theorem UnbrokenLines.offset_eq (h : UnbrokenLines text offset []) : offset = text.length + 1 := by
  obtain ⟨before, hwritten, rfl⟩ := h.written
  rw [List.flatMap_nil, List.append_nil] at hwritten
  rw [← hwritten, List.length_append, List.length_singleton]

/-! ### Searching line by line -/

/-- No line that begins at or after `offset` and before `next` has an answer. -/
def Passed {α : Type} (text : List Char) (answer : List Char → Option α) (offset next : Nat) :
    Prop :=
  ∀ i, offset ≤ i → i < next → isLineStart text i = true → answer (lineAt text i) = none

/-- The first line of a text with an answer, and the lines behind it. -/
structure FoundLine {α : Type} (text : List Char) (answer : List Char → Option α) (offset : Nat)
    (a : α) (s : Span) (rest : List (List Char)) : Prop where
  le_start : offset ≤ s.start
  begins : isLineStart text s.start = true
  answers : answer (lineAt text s.start) = some a
  stop_eq : s.stop = s.start + (lineAt text s.start).length
  passed : Passed text answer offset s.start
  rest : UnbrokenLines text (s.stop + 1) rest

variable {α β : Type} {answer : List Char → Option α} {Matches : Nat → β → Prop}

theorem Passed.tail (hpassed : Passed text answer offset next)
    (hlines : UnbrokenLines text next (line :: rest)) (hline : answer line = none) :
    Passed text answer offset (next + line.length + 1) := by
  intro i hle hlt hstart
  rcases Nat.lt_trichotomy i next with hbefore | rfl | hafter
  · exact hpassed i hle hbefore hstart
  · rwa [hlines.lineAt_eq]
  · rw [not_isLineStart_of_lt hafter (by rw [hlines.lineAt_eq]; omega)] at hstart
    cases hstart

theorem passed_of_findLine (hlines : UnbrokenLines text next lines)
    (hpassed : Passed text answer offset next) (h : findLine answer next lines = none) :
    Passed text answer offset (text.length + 1) := by
  induction lines generalizing next with
  | nil => exact hlines.offset_eq ▸ hpassed
  | cons line rest ih =>
    rw [findLine] at h
    split at h
    · cases h
    · rename_i hline
      exact ih hlines.tail (hpassed.tail hlines hline) h

theorem foundLine_of_findLine (hlines : UnbrokenLines text next lines) (hle : offset ≤ next)
    (hpassed : Passed text answer offset next) {a : α} {s : Span}
    (h : findLine answer next lines = some (a, s, rest)) :
    FoundLine text answer offset a s rest := by
  induction lines generalizing next with
  | nil => cases h
  | cons line later ih =>
    rw [findLine] at h
    split at h
    · rename_i hline
      cases h
      have hbegins := hlines.begins (List.cons_ne_nil _ _)
      have hline' := hlines.lineAt_eq
      exact ⟨hle, hbegins, hline' ▸ hline, congrArg (next + ·.length) hline'.symm, hpassed,
        hlines.tail⟩
    · rename_i hline
      exact ih hlines.tail (by omega) (hpassed.tail hlines hline) h

/-- Where no line has an answer, a search for lines with an answer finds nothing. -/
theorem Passed.finds (hpassed : Passed text answer offset (text.length + 1))
    (hmatches : ∀ i b, Matches i b → isLineStart text i = true ∧ answer (lineAt text i) ≠ none) :
    Finds Matches offset none := by
  refine .nothing fun i b hmatch => Nat.lt_of_not_le fun hle => ?_
  obtain ⟨hstart, hanswer⟩ := hmatches i b hmatch
  exact hanswer (hpassed i hle (Nat.lt_succ_of_le (le_length_of_isLineStart hstart)) hstart)

/-- The first line with an answer is what the search finds. -/
theorem FoundLine.finds {a : α} {s : Span} (h : FoundLine text answer offset a s rest)
    (hmatches : ∀ i b, Matches i b → isLineStart text i = true ∧ answer (lineAt text i) ≠ none)
    {b : β} (hmatch : Matches s.start b) : Finds Matches offset (some (s.start, b)) := by
  refine .first hmatch h.le_start fun j b' hmatch' hle => Nat.le_of_not_lt fun hlt => ?_
  obtain ⟨hstart, hanswer⟩ := hmatches j b' hmatch'
  exact hanswer (h.passed j hle hlt hstart)

end UnbrokenLines

/-! ## The searches and the scanner -/

section Searched

variable {offset next : Nat} {lines : List (List Char)}

theorem opensAt_answers (start : Nat) (found : Fence × Nat) (h : OpensAt text start found) :
    isLineStart text start = true ∧ Fence.ofLine? (lineAt text start) ≠ none :=
  ⟨h.begins, by simp [h.ofLine?]⟩

theorem closesAt_answers {f : Fence} (hmarks : f.Marks) (start stop : Nat)
    (h : ClosesAt text f start stop) : isLineStart text start = true ∧
      (if f.closedBy (lineAt text start) then some () else none) ≠ none := by
  obtain ⟨hstart, hcloses, -⟩ := (closesAt_iff hmarks.ne_feed).mp h
  exact ⟨hstart, by simp [(Fence.closedBy_iff hmarks).mpr hcloses]⟩

/-- Nothing opens a block at the end of a line that closes one. -/
theorem passed_stop {start : Nat} (hline : lineAt text start ≠ []) :
    Passed text Fence.ofLine? (start + (lineAt text start).length)
      (start + (lineAt text start).length + 1) := by
  intro i hle hlt hstart
  have hpos := List.length_pos_iff.mpr hline
  have hafter : start < i := by omega
  rw [not_isLineStart_of_lt hafter (Nat.le_of_lt_succ hlt)] at hstart
  cases hstart

theorem passed_length (text : List Char) :
    Passed text Fence.ofLine? text.length (text.length + 1) := by
  intro i hle hlt _
  rw [lineAt, List.drop_eq_nil_of_le hle]
  rfl

theorem opensAt_unique {x y : Option (Nat × Fence × Nat)} (hx : Finds (OpensAt text) offset x)
    (hy : Finds (OpensAt text) offset y) : x = y :=
  hx.unique (fun _ _ _ ha hb => ha.unique hb) hy

theorem feedAt_unique {x y : Option (Nat × Nat)} (hx : Finds (FeedAt text) offset x)
    (hy : Finds (FeedAt text) offset y) : x = y :=
  hx.unique (fun _ _ _ ha hb => ha.2.trans hb.2.symm) hy

theorem closesAt_unique {start fenceEnd : Nat} {f : Fence}
    (hopen : Finds (OpensAt text) offset (some (start, f, fenceEnd))) {x y : Option (Nat × Nat)}
    (hx : Finds (ClosesAt text f) next x) (hy : Finds (ClosesAt text f) next y) : x = y := by
  obtain ⟨⟩ | ⟨hopens, -, -⟩ := hopen
  obtain ⟨front, hfront, -⟩ := hopens.opens
  exact hx.unique (fun _ _ _ ha hb => ha.unique hfront.marks.ne_feed hb) hy

theorem Searched.unique {blocks blocks' : List Span} (h : Searched text offset blocks)
    (h' : Searched text offset blocks') : blocks = blocks' := by
  induction h generalizing blocks' with
  | ended hopen =>
    cases h' with
    | ended => rfl
    | last hopen' | unclosed hopen' | closed hopen' => cases opensAt_unique hopen hopen'
  | last hopen hfeed =>
    cases h' with
    | ended hopen' => cases opensAt_unique hopen hopen'
    | last hopen' => cases opensAt_unique hopen hopen'; rfl
    | unclosed hopen' hfeed' | closed hopen' hfeed' =>
      cases opensAt_unique hopen hopen'
      cases feedAt_unique hfeed hfeed'
  | unclosed hopen hfeed hclose _ ih =>
    cases h' with
    | ended hopen' => cases opensAt_unique hopen hopen'
    | last hopen' hfeed' =>
      cases opensAt_unique hopen hopen'
      cases feedAt_unique hfeed hfeed'
    | unclosed hopen' _ _ hrest' =>
      cases opensAt_unique hopen hopen'
      rw [ih hrest']
    | closed hopen' hfeed' hclose' =>
      cases opensAt_unique hopen hopen'
      cases feedAt_unique hfeed hfeed'
      cases closesAt_unique hopen hclose hclose'
  | closed hopen hfeed hclose _ ih =>
    cases h' with
    | ended hopen' => cases opensAt_unique hopen hopen'
    | last hopen' hfeed' =>
      cases opensAt_unique hopen hopen'
      cases feedAt_unique hfeed hfeed'
    | unclosed hopen' hfeed' hclose' =>
      cases opensAt_unique hopen hopen'
      cases feedAt_unique hfeed hfeed'
      cases closesAt_unique hopen hclose hclose'
    | closed hopen' hfeed' hclose' hrest' =>
      cases opensAt_unique hopen hopen'
      cases feedAt_unique hfeed hfeed'
      cases closesAt_unique hopen hclose hclose'
      rw [ih hrest']

theorem searched_length (text : List Char) : Searched text text.length [] :=
  .ended ((passed_length text).finds opensAt_answers)

/-- The lines behind the end of a text. -/
theorem unbrokenLines_nil (text : List Char) : UnbrokenLines text (text.length + 1) [] where
  written := ⟨text ++ ['\n'], by simp, by simp⟩
  begins := fun h => absurd rfl h
  whole := nofun

/-- One turn of the searches finds the next block, and leaves the lines behind it to the next
turn. -/
theorem searched_cons (hlines : UnbrokenLines text next lines) (hle : offset ≤ next)
    (hpassed : Passed text Fence.ofLine? offset next) {block : Span} {after : Nat}
    {rest : List (List Char)} (h : nextBlock? text.length next lines = some (block, after, rest)) :
    ∃ resume ≤ after, UnbrokenLines text after rest ∧ Passed text Fence.ofLine? resume after ∧
      ∀ blocks, Searched text resume blocks → Searched text offset (block :: blocks) := by
  rw [nextBlock?] at h
  split at h
  · cases h
  rename_i f opening behind hopening
  have hopened := foundLine_of_findLine hlines hle hpassed hopening
  obtain ⟨fenceEnd, hopens, hfence, hfenceEnd⟩ := exists_opensAt hopened.begins hopened.answers
  obtain ⟨front, hfront, -⟩ := hopens.opens
  have hopen := hopened.finds opensAt_answers hopens
  have hfeed := finds_feedAt hfence hfenceEnd
  rw [← hopened.stop_eq] at hfeed
  have hnone : Passed text (fun line => if f.closedBy line then some () else none)
      (opening.stop + 1) (opening.stop + 1) := fun i hi hlt => by omega
  split at h
  · rename_i hclosing
    cases h
    refine ⟨text.length, Nat.le_succ _, unbrokenLines_nil text, passed_length text,
      fun blocks hrest => ?_⟩
    split at hfeed
    · exact .unclosed hopen hfeed
        ((passed_of_findLine hopened.rest hnone hclosing).finds (closesAt_answers hfront.marks))
        hrest
    · rw [hrest.unique (searched_length text)]
      exact .last hopen hfeed
  · rename_i closing rest' hclosing
    cases h
    have hclosed := foundLine_of_findLine hopened.rest (Nat.le_refl _) hnone hclosing
    have hcloses : f.Closes (lineAt text closing.start) :=
      (Fence.closedBy_iff hfront.marks).mp (by simpa using hclosed.answers)
    have hclose := hclosed.finds (closesAt_answers hfront.marks)
      ((closesAt_iff hfront.marks.ne_feed).mpr ⟨hclosed.begins, hcloses, hclosed.stop_eq⟩)
    have hstop := hclosed.stop_eq
    have hend := add_length_lineAt_le (le_length_of_isLineStart hclosed.begins)
    have hstart := hclosed.le_start
    refine ⟨closing.stop, Nat.le_succ _, hclosed.rest, ?_, fun blocks hrest => ?_⟩
    · rw [hstop]
      exact passed_stop (hcloses.ne_nil (Nat.lt_of_lt_of_le (by decide) hfront.marks.size))
    · rw [if_pos (by omega)] at hfeed
      exact .closed hopen hfeed hclose hrest

/-- The searches come to an end, and they find the fenced blocks. -/
theorem searched_fencedBlocks (hlines : UnbrokenLines text next lines) (hle : offset ≤ next)
    (hpassed : Passed text Fence.ofLine? offset next) :
    Searched text offset (fencedBlocks text.length next lines) := by
  fun_induction fencedBlocks text.length next lines generalizing offset with
  | case1 next lines hnone =>
    rw [nextBlock?] at hnone
    split at hnone
    · rename_i hopening
      exact .ended ((passed_of_findLine hlines hpassed hopening).finds opensAt_answers)
    · split at hnone <;> cases hnone
  | case2 next lines block after rest hblock ih =>
    obtain ⟨resume, hresume, hrest, hpassed, hcons⟩ := searched_cons hlines hle hpassed hblock
    exact hcons _ (ih hrest hresume hpassed)

/-- No line begins between an offset and the next line. -/
theorem passed_nextLineStart {α : Type} (answer : List Char → Option α) (text : List Char)
    (offset : Nat) : Passed text answer offset (nextLineStart text offset) := by
  intro i hle hlt hstart
  rw [nextLineStart] at hlt
  split at hlt
  · omega
  · rename_i hoffset
    rcases Nat.lt_or_eq_of_le hle with hafter | rfl
    · rw [not_isLineStart_of_lt hafter (Nat.le_of_lt_succ hlt)] at hstart
      cases hstart
    · exact absurd hstart hoffset

theorem le_nextLineStart (text : List Char) (offset : Nat) :
    offset ≤ nextLineStart text offset := by
  rw [nextLineStart]
  split <;> omega

theorem unbrokenLines_splitOn (h : isLineStart text offset = true) :
    UnbrokenLines text offset ((text.drop offset).splitOn '\n') :=
  ⟨linesAt_splitOn (le_length_of_isLineStart h) h,
    fun _ hline => Path.not_mem_of_mem_splitOn hline⟩

theorem searched_fencedFrom (text : List Char) (offset : Nat) :
    Searched text offset (fencedFrom text offset) := by
  have hpassed := passed_nextLineStart Fence.ofLine? text offset
  rw [fencedFrom]
  split
  · rename_i hfirst
    have hlines := unbrokenLines_splitOn (isLineStart_nextLineStart hfirst)
    exact searched_fencedBlocks hlines (le_nextLineStart text offset) hpassed
  · rename_i hfirst
    refine .ended (Passed.finds (fun i hle hlt => hpassed i hle ?_) opensAt_answers)
    omega

/-- From every offset the searches come to an end, and they find the fenced blocks of the text. -/
theorem searched_iff {blocks : List Span} :
    Searched text offset blocks ↔ blocks = fencedFrom text offset :=
  ⟨fun h => h.unique (searched_fencedFrom text offset),
    fun h => h ▸ searched_fencedFrom text offset⟩

/-- From where a line begins, the searches and the reader who goes from line to line find the same
blocks, and these are the fenced blocks of the text. The blocks are within the text, one behind the
other. -/
theorem fencedFrom_searched_scanned (h : isLineStart text offset = true) :
    (∀ blocks, Searched text offset blocks ↔ blocks = fencedFrom text offset) ∧
    (∀ blocks, Scanned text.length none offset ((text.drop offset).splitOn '\n') blocks ↔
      blocks = fencedFrom text offset) ∧
    (fencedFrom text offset).Pairwise (fun a b => a.stop < b.start) ∧
    ∀ b ∈ fencedFrom text offset, offset ≤ b.start ∧ b.start < b.stop ∧ b.stop ≤ text.length := by
  have hlines := unbrokenLines_splitOn h
  have hscan : fencedFrom text offset =
      blocksFrom text.length none offset ((text.drop offset).splitOn '\n') := by
    rw [fencedFrom_eq_blocks, blocks, nextLineStart, if_pos h,
      if_pos (le_length_of_isLineStart h)]
  refine ⟨fun _ => searched_iff, fun blocks => ?_, ?_, fun b hb => ?_⟩
  · rw [hscan]
    exact scanned_iff (by simp)
  · rw [hscan]
    exact pairwise_blocksFrom ..
  · rw [hscan] at hb
    obtain ⟨-, hnonempty, hstop⟩ := blockOf_of_mem_blocksFrom hlines.toLinesAt (by simp) hb
    exact ⟨le_start_of_mem_blocksFrom (Nat.le_refl _) (by simp) b hb, hnonempty, hstop⟩

end Searched

/-- A heading, a block whose fence holds a fence of the other mark, and an indented block that the
shorter fence at its end does not close. -/
def Sample.nested : List Char :=
  "# a\n\x60\x60\x60\nb\n~~~\n\x60\x60\x60\x60 \n  ~~~~ c\n~~~\n".toList

/-- The fence of the other mark stays inside, and the short one leaves its block open. -/
theorem searched_scanned_nested : isLineStart Sample.nested 4 = true ∧
    Searched Sample.nested 4 [⟨4, 19⟩, ⟨20, 33⟩] ∧
    Scanned Sample.nested.length none 4 ((Sample.nested.drop 4).splitOn '\n')
      [⟨4, 19⟩, ⟨20, 33⟩] := by
  have hstart : isLineStart Sample.nested 4 = true := by decide
  have hblocks : [⟨4, 19⟩, ⟨20, 33⟩] = fencedFrom Sample.nested 4 := by
    rw [fencedFrom_eq_blocks]
    decide
  obtain ⟨hsearched, hscanned, -⟩ := fencedFrom_searched_scanned hstart
  exact ⟨hstart, (hsearched _).mpr hblocks, (hscanned _).mpr hblocks⟩

end Crosslink.Link
