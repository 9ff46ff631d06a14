import Crosslink.Proofs.Link.Destination
import Crosslink.Proofs.Link.LineEnding

/-!
# Fences line by line

Which lines open a fenced block and which close it is said of the lines as they are written. With
this the blocks are described once more, as a reader finds them who goes from line to line and
remembers only whether a block is open, where it began and with which fence.
-/

namespace Crosslink.Link

open Text (Span Run)

/-! ## Lines that open and close -/

namespace Fence

/-- The fence is one that can stand around code. -/
structure Marks (f : Fence) : Prop where
  mark : f.mark = '\x60' ∨ f.mark = '~'
  size : 3 ≤ f.size

/-- At most three spaces and the marks of the fence. -/
inductive Front (f : Fence) : List Char → Prop
  | indented {indent : Nat} (h : indent ≤ 3) :
      Front f (List.replicate indent ' ' ++ List.replicate f.size f.mark)

/-- The text begins with the fence, indented or not, and its run of marks ends there. -/
structure Opens (f : Fence) (cs front : List Char) : Prop where
  marks : f.Marks
  fence : f.Front front
  written : ∃ info, cs = front ++ info ∧ ∀ c ∈ info.head?, c ≠ f.mark

/-- The line holds a fence of the same mark that is at least as long, and nothing but gaps
behind it. -/
inductive Closes (f : Fence) : List Char → Prop
  | line {front gaps : List Char} {size : Nat} (hsize : f.size ≤ size)
      (hfront : Front ⟨f.mark, size⟩ front) (hgaps : Gaps gaps) : Closes f (front ++ gaps)

variable {f : Fence} {cs front line : List Char}

namespace Marks

theorem ne_space (h : f.Marks) : f.mark ≠ ' ' := by
  rcases h.mark with hmark | hmark <;> rw [hmark] <;> decide

theorem ne_feed (h : f.Marks) : f.mark ≠ '\n' := by
  rcases h.mark with hmark | hmark <;> rw [hmark] <;> decide

theorem not_isGap (h : f.Marks) : Text.isGap f.mark = false := by
  rcases h.mark with hmark | hmark <;> rw [hmark] <;> rfl

end Marks

theorem Front.not_mem (h : f.Front front) (hmark : f.mark ≠ '\n') : '\n' ∉ front := by
  obtain ⟨-⟩ := h
  intro hmem
  rcases List.mem_append.mp hmem with hmem | hmem
  · exact absurd (List.eq_of_mem_replicate hmem) (by decide)
  · exact hmark (List.eq_of_mem_replicate hmem).symm

theorem Closes.not_mem (h : f.Closes line) (hmark : f.mark ≠ '\n') : '\n' ∉ line := by
  obtain ⟨-, hfront, hgaps⟩ := h
  exact List.not_mem_append (hfront.not_mem hmark) hgaps.not_mem

theorem Closes.ne_nil (h : f.Closes line) (hsize : 0 < f.size) : line ≠ [] := by
  obtain ⟨hle, ⟨-⟩, -⟩ := h
  intro hnil
  have hlength := congrArg List.length hnil
  simp only [List.length_append, List.length_replicate, List.length_nil] at hlength
  omega

theorem exists_of_unindent? (h : unindent? line = some cs) :
    ∃ indent ≤ 3, line = List.replicate indent ' ' ++ cs := by
  rw [unindent?] at h
  split at h
  · rename_i hindent
    cases h
    obtain ⟨hline, hspaces, -⟩ := Text.run_takeWhile (· == ' ') line
    have hrun := List.eq_replicate_of_mem fun c hc => eq_of_beq (hspaces c hc)
    exact ⟨_, hindent, by rwa [← hrun]⟩
  · cases h

theorem unindent?_replicate {indent : Nat} (h : indent ≤ 3) (hcs : ∀ c ∈ cs.head?, c ≠ ' ') :
    unindent? (List.replicate indent ' ' ++ cs) = some cs := by
  have hrun : Run (· == ' ') (List.replicate indent ' ' ++ cs) (List.replicate indent ' ') cs :=
    ⟨rfl, fun c hc => by simp [List.eq_of_mem_replicate hc], fun c hc => by simpa using hcs c hc⟩
  obtain ⟨htake, hdrop⟩ := hrun.eq
  rw [unindent?, htake, hdrop, List.length_replicate, if_pos h]

/-- The marks at the front of a text. -/
theorem run_marks {mark : Char} (size : Nat) {info : List Char}
    (hinfo : ∀ c ∈ info.head?, c ≠ mark) :
    Run (· == mark) (List.replicate size mark ++ info) (List.replicate size mark) info :=
  ⟨rfl, fun c hc => by simp [List.eq_of_mem_replicate hc], fun c hc => by simpa using hinfo c hc⟩

/-- A run of marks is written as often as it is long. -/
theorem takeWhile_eq_replicate (mark : Char) (cs : List Char) :
    cs.takeWhile (· == mark) = List.replicate (cs.takeWhile (· == mark)).length mark :=
  List.eq_replicate_of_mem fun c hc =>
    eq_of_beq ((Text.run_takeWhile (· == mark) cs).all c hc)

/-- Fences and spaces are told apart by their first characters. -/
theorem head?_replicate_append (mark : Char) {size : Nat} (hsize : 0 < size)
    (info : List Char) : (List.replicate size mark ++ info).head? = some mark := by
  obtain ⟨n, rfl⟩ := Nat.exists_eq_add_of_lt hsize
  rw [Nat.zero_add, List.replicate_succ]
  rfl

/-- A line is found to open a block exactly if a fence stands at its front. -/
theorem ofLine?_eq_some_iff : ofLine? line = some f ↔ ∃ front, f.Opens line front := by
  constructor
  · intro h
    unfold ofLine? at h
    split at h
    · rename_i c cs hunindent
      dsimp only at h
      split at h
      · rename_i hmark
        cases h
        simp only [Bool.and_eq_true, Bool.or_eq_true, beq_iff_eq, decide_eq_true_eq] at hmark
        obtain ⟨indent, hindent, rfl⟩ := exists_of_unindent? hunindent
        obtain ⟨hcs, -, hinfo⟩ := Text.run_takeWhile (· == c) (c :: cs)
        refine ⟨_, ⟨hmark.1, hmark.2⟩, ⟨hindent⟩, (c :: cs).dropWhile (· == c), ?_, ?_⟩
        · rw [takeWhile_eq_replicate] at hcs
          rw [List.append_assoc]
          exact congrArg _ hcs
        · exact fun d hd => by simpa using hinfo d hd
      · cases h
    · cases h
  · rintro ⟨_, hmarks, ⟨hindent⟩, info, rfl, hinfo⟩
    rename_i indent
    have hsize : 0 < f.size := Nat.lt_of_lt_of_le (by decide) hmarks.size
    have hhead := head?_replicate_append f.mark hsize info
    obtain ⟨cs, hcs⟩ := List.head?_eq_some_iff.mp hhead
    obtain ⟨htake, -⟩ := (run_marks f.size hinfo).eq
    have hunindent : unindent? (List.replicate indent ' ' ++
        (List.replicate f.size f.mark ++ info)) = some (f.mark :: cs) := by
      rw [unindent?_replicate hindent, hcs]
      rw [hhead]
      rintro c ⟨⟩
      exact hmarks.ne_space
    have hmark : (f.mark == '\x60' || f.mark == '~') = true := by simpa using hmarks.mark
    rw [List.append_assoc, ofLine?, hunindent]
    simp only [← hcs, htake, List.length_replicate, hmark, hmarks.size, decide_true, Bool.and_self,
      if_true]

/-- A line is found to close a block exactly if it holds such a fence and only gaps behind it. -/
theorem closedBy_iff (h : f.Marks) : f.closedBy line = true ↔ f.Closes line := by
  constructor
  · intro hclosed
    unfold closedBy at hclosed
    split at hclosed
    · rename_i cs hunindent
      simp only [Bool.and_eq_true, decide_eq_true_eq, List.all_eq_true] at hclosed
      obtain ⟨indent, hindent, rfl⟩ := exists_of_unindent? hunindent
      have hcs := (Text.run_takeWhile (· == f.mark) cs).written
      rw [takeWhile_eq_replicate] at hcs
      rw [hcs, ← List.append_assoc]
      exact .line hclosed.1 ⟨hindent⟩ hclosed.2
    · cases hclosed
  · rintro ⟨hsize, ⟨hindent⟩, hgaps⟩
    rename_i gaps size indent
    have hpos : 0 < size := Nat.lt_of_lt_of_le (by decide) (Nat.le_trans h.size hsize)
    have hmark : ∀ c ∈ gaps.head?, c ≠ f.mark := by
      rintro c hc rfl
      exact absurd (hgaps _ (List.mem_of_head? hc)) (by rw [h.not_isGap]; decide)
    obtain ⟨htake, hdrop⟩ := (run_marks size hmark).eq
    rw [closedBy, List.append_assoc, unindent?_replicate hindent]
    · simp only [htake, hdrop, List.length_replicate, Bool.and_eq_true, decide_eq_true_eq,
        List.all_eq_true]
      exact ⟨hsize, hgaps⟩
    · rw [head?_replicate_append _ hpos]
      rintro c ⟨⟩
      exact h.ne_space

end Fence

/-! ## Line by line -/

/-- The blocks of lines that begin at `offset`, in a text that ends at `stop`, as a reader finds
them who remembers the fence of an open block and where it began. -/
inductive Scanned (stop : Nat) :
    (opened : Option (Nat × Fence)) → (offset : Nat) → List (List Char) → List Span → Prop
  | ended {offset : Nat} : Scanned stop none offset [] []
  | unclosed {start offset : Nat} {fence : Fence} :
      Scanned stop (some (start, fence)) offset [] [⟨start, stop⟩]
  | outside {offset : Nat} {line : List Char} {rest : List (List Char)} {blocks : List Span}
      (h : ∀ (fence : Fence) front, ¬ fence.Opens line front)
      (hrest : Scanned stop none (offset + line.length + 1) rest blocks) :
      Scanned stop none offset (line :: rest) blocks
  | opening {offset : Nat} {fence : Fence} {line front : List Char} {rest : List (List Char)}
      {blocks : List Span} (h : fence.Opens line front)
      (hrest : Scanned stop (some (offset, fence)) (offset + line.length + 1) rest blocks) :
      Scanned stop none offset (line :: rest) blocks
  | inside {start offset : Nat} {fence : Fence} {line : List Char} {rest : List (List Char)}
      {blocks : List Span} (h : ¬ fence.Closes line)
      (hrest : Scanned stop (some (start, fence)) (offset + line.length + 1) rest blocks) :
      Scanned stop (some (start, fence)) offset (line :: rest) blocks
  | closing {start offset : Nat} {fence : Fence} {line : List Char} {rest : List (List Char)}
      {blocks : List Span} (h : fence.Closes line)
      (hrest : Scanned stop none (offset + line.length + 1) rest blocks) :
      Scanned stop (some (start, fence)) offset (line :: rest)
        (⟨start, offset + line.length⟩ :: blocks)

theorem scanned_blocksFrom (stop : Nat) {opened : Option (Nat × Fence)}
    (hopened : ∀ x ∈ opened, x.2.Marks) (offset : Nat) (lines : List (List Char)) :
    Scanned stop opened offset lines (blocksFrom stop opened offset lines) := by
  have hnone : ∀ x ∈ (none : Option (Nat × Fence)), x.2.Marks := nofun
  induction lines generalizing opened offset with
  | nil =>
    cases opened with
    | none => exact .ended
    | some x => exact .unclosed
  | cons line rest ih =>
    cases opened with
    | none =>
      rw [blocksFrom]
      cases hline : Fence.ofLine? line with
      | none =>
        refine .outside (fun fence front h => ?_) (ih hnone _)
        rw [Fence.ofLine?_eq_some_iff.mpr ⟨front, h⟩] at hline
        cases hline
      | some fence =>
        obtain ⟨front, hopens⟩ := Fence.ofLine?_eq_some_iff.mp hline
        exact .opening hopens (ih (by rintro x ⟨⟩; exact hopens.marks) _)
    | some x =>
      obtain ⟨start, fence⟩ := x
      have hmarks := hopened _ rfl
      rw [blocksFrom]
      split
      · rename_i hclosed
        exact .closing ((Fence.closedBy_iff hmarks).mp hclosed) (ih hnone _)
      · rename_i hclosed
        exact .inside (fun h => hclosed ((Fence.closedBy_iff hmarks).mpr h)) (ih hopened _)

/-- A reader who goes from line to line finds just the blocks of the scanner. -/
theorem scanned_iff {stop : Nat} {opened : Option (Nat × Fence)}
    (hopened : ∀ x ∈ opened, x.2.Marks) {offset : Nat} {lines : List (List Char)}
    {blocks : List Span} :
    Scanned stop opened offset lines blocks ↔ blocks = blocksFrom stop opened offset lines := by
  refine ⟨fun h => ?_, fun h => h ▸ scanned_blocksFrom stop hopened offset lines⟩
  induction h with
  | ended => rfl
  | unclosed => rfl
  | outside h _ ih =>
    rw [ih nofun, blocksFrom]
    cases hline : Fence.ofLine? _ with
    | none => rfl
    | some fence =>
      obtain ⟨front, hopens⟩ := Fence.ofLine?_eq_some_iff.mp hline
      exact absurd hopens (h fence front)
  | opening h _ ih =>
    rw [ih (by rintro x ⟨⟩; exact h.marks), blocksFrom, Fence.ofLine?_eq_some_iff.mpr ⟨_, h⟩]
    rfl
  | inside h _ ih =>
    rw [ih hopened, blocksFrom, if_neg]
    exact fun hclosed => h ((Fence.closedBy_iff (hopened _ rfl)).mp hclosed)
  | closing h _ ih =>
    rw [ih nofun, blocksFrom, if_pos ((Fence.closedBy_iff (hopened _ rfl)).mpr h)]

theorem pairwise_blocksFrom (stop : Nat) (opened : Option (Nat × Fence)) (offset : Nat)
    (lines : List (List Char)) :
    (blocksFrom stop opened offset lines).Pairwise fun a b => a.stop < b.start := by
  induction lines generalizing opened offset with
  | nil => cases opened <;> simp [blocksFrom]
  | cons line rest ih =>
    cases opened with
    | none => exact ih _ _
    | some x =>
      rw [blocksFrom]
      split
      · exact List.pairwise_cons.mpr ⟨le_start_of_mem_blocksFrom (Nat.le_refl _) (by simp), ih _ _⟩
      · exact ih _ _

end Crosslink.Link
