import Crosslink.Page.Identity
import Crosslink.Proofs.Link.Place
import Crosslink.Proofs.Page.Fence
import Crosslink.Proofs.Page.FrontMatter

/-!
# One block of front matter, seen twice

Where the body of a page begins and which metadata it has are two questions, each answered by a
search of its own. The answers speak of the same block exactly if the text begins with no byte-order
mark, the closing line is one of dashes, and no line of the block is a longer line of dashes or has
other blanks behind them.
-/

namespace Crosslink.FrontMatter

open Text

/-- May the character begin a block of metadata? -/
def opens (c : Char) : Bool := c == '-' || c == '\x7b' || c == '\x7d'

theorem opens_of_isBlank {c : Char} (h : isBlank c = true) : opens c = false := by
  cases hc : opens c with
  | false => rfl
  | true =>
    simp only [opens, Bool.or_eq_true, beq_iff_eq] at hc
    rcases hc with (rfl | rfl) | rfl <;> exact absurd h (by decide)

/-- A fence begins with a dash or a brace. -/
theorem styleOf?_of_head? {cs : List Char} (h : ∀ c ∈ cs.head?, opens c = false) :
    styleOf? cs = none := by
  cases cs with
  | nil => rfl
  | cons c cs =>
    have hc : opens c = false := h c rfl
    simp only [opens, Bool.or_eq_false_iff, beq_eq_false_iff_ne] at hc
    simp [styleOf?, dropDashes?, dropBrace?, hc]

/-- A text that begins, after blanks, with no dash and no brace gives no metadata. -/
theorem block?_of_head? {text : List Char} (h : ∀ c ∈ (trimStart text).head?, opens c = false) :
    block? text = none := by
  rw [← head?_trimStart_joinBreaks] at h
  have hjoined : ∀ c ∈ (joinBreaks text).head?, opens c = false := by
    rcases hcs : joinBreaks text with _ | ⟨c, cs⟩
    · nofun
    · rintro _ ⟨⟩
      cases hc : isBlank c with
      | true => exact opens_of_isBlank hc
      | false =>
        rw [hcs, trimStart, List.dropWhile_cons_of_neg (by simp [hc])] at h
        exact h c rfl
  rw [block?, styleOf?_of_head? hjoined, styleOf?_of_head? (head?_trim _ ▸ h)]
  rfl

/-- A block behind a byte-order mark gives no metadata. -/
theorem block?_of_mark (cs : List Char) : block? ('\ufeff' :: cs) = none := by
  refine block?_of_head? ?_
  rw [trimStart, List.dropWhile_cons_of_neg (by decide)]
  rintro _ ⟨⟩
  decide

/-- How a line ends. -/
inductive Ending where
  /-- With the text. -/
  | none
  | feed
  | returnFeed
  deriving DecidableEq, Repr

/-- The characters at the end of a line. -/
def Ending.text : Ending → List Char
  | .none => []
  | .feed => ['\n']
  | .returnFeed => ['\r', '\n']

/-- The character of a closing line. -/
def closingMark (dots : Bool) : Char := if dots then '.' else '-'

/-- A text that begins with a block: whole lines between an opening line of dashes, which may have
a byte-order mark, and a closing line of dashes or dots. -/
structure Front where
  marked : Bool
  gaps : List Char
  ending : Ending
  block : List Char
  dots : Bool
  closingGaps : List Char
  closingEnding : Ending
  body : List Char
  gaps_gap : ∀ c ∈ gaps, isGap c = true
  ending_ne : ending ≠ .none
  block_lines : WholeLines block
  closingGaps_gap : ∀ c ∈ closingGaps, isGap c = true
  closingEnding_ne : closingEnding = .none → body = []

namespace Front

/-- The opening line. -/
def opening (f : Front) : List Char :=
  (if f.marked then ['\ufeff'] else []) ++ ('-' :: '-' :: '-' :: (f.gaps ++ f.ending.text))

/-- The closing line. -/
def closing (f : Front) : List Char :=
  closingMark f.dots :: closingMark f.dots :: closingMark f.dots ::
    (f.closingGaps ++ f.closingEnding.text)

/-- The whole text. -/
def text (f : Front) : List Char := f.opening ++ (f.block ++ (f.closing ++ f.body))

/-- Both searches find the block. -/
structure Aligned (f : Front) : Prop where
  unmarked : f.marked = false
  dashes : f.dots = false
  unfenced : beforeFence? true (joinBreaks f.block) = none

instance (f : Front) : Decidable f.Aligned :=
  decidable_of_iff (f.marked = false ∧ f.dots = false ∧
      beforeFence? true (joinBreaks f.block) = none)
    ⟨fun h => ⟨h.1, h.2.1, h.2.2⟩, fun h => ⟨h.1, h.2, h.3⟩⟩

end Front

/-! ## The block that is no part of the body -/

theorem exists_of_dropBreak? {cs rest : List Char} (h : dropBreak? cs = some rest) :
    ∃ e : Ending, e ≠ .none ∧ cs = e.text ++ rest := by
  unfold dropBreak? at h
  split at h
  · cases h
    exact ⟨.feed, by decide, rfl⟩
  · cases h
    exact ⟨.returnFeed, by decide, rfl⟩
  · cases h

/-- A line of gaps ends as lines do. -/
theorem exists_of_dropGaps {cs rest : List Char}
    (h : dropBreak? (cs.dropWhile isGap) = some rest) : ∃ (gaps : List Char) (e : Ending),
      (∀ c ∈ gaps, isGap c = true) ∧ e ≠ .none ∧ cs = gaps ++ (e.text ++ rest) := by
  obtain ⟨e, he, hrest⟩ := exists_of_dropBreak? h
  refine ⟨cs.takeWhile isGap, e, fun c hc => List.mem_takeWhile_imp hc, he, ?_⟩
  rw [← hrest, List.takeWhile_append_dropWhile]

theorem exists_of_dropOpening? {cs rest : List Char} (h : dropOpening? cs = some rest) :
    ∃ (marked : Bool) (gaps : List Char) (e : Ending), (∀ c ∈ gaps, isGap c = true) ∧ e ≠ .none ∧
      cs = (if marked then ['\ufeff'] else []) ++
        ('-' :: '-' :: '-' :: (gaps ++ (e.text ++ rest))) := by
  unfold dropOpening? at h
  dsimp only at h
  split at h
  · rename_i hcs
    obtain ⟨gaps, e, hgaps, he, rfl⟩ := exists_of_dropGaps h
    split at hcs
    · subst hcs
      exact ⟨true, gaps, e, hgaps, he, rfl⟩
    · exact ⟨false, gaps, e, hgaps, he, hcs⟩
  · cases h

theorem exists_of_dropClosing? {cs rest : List Char} (h : dropClosing? cs = some rest) :
    ∃ (dots : Bool) (gaps : List Char) (e : Ending), (∀ c ∈ gaps, isGap c = true) ∧
      (e = .none → rest = []) ∧
      cs = closingMark dots :: closingMark dots :: closingMark dots ::
        (gaps ++ (e.text ++ rest)) := by
  obtain ⟨dots, tail, hcs, h⟩ : ∃ (dots : Bool) (tail : List Char),
      cs = closingMark dots :: closingMark dots :: closingMark dots :: tail ∧
        (tail.dropWhile isGap = [] ∧ rest = [] ∨
          dropBreak? (tail.dropWhile isGap) = some rest) := by
    unfold dropClosing? at h
    obtain ⟨tail, htail, h⟩ := Option.bind_eq_some_iff.mp h
    have hrest : tail.dropWhile isGap = [] ∧ rest = [] ∨
        dropBreak? (tail.dropWhile isGap) = some rest := by
      split at h
      · rename_i hend
        cases h
        exact .inl ⟨hend, rfl⟩
      · exact .inr h
    split at htail <;> cases htail
    · exact ⟨false, _, rfl, hrest⟩
    · exact ⟨true, _, rfl, hrest⟩
  rcases h with ⟨hend, rfl⟩ | h
  · refine ⟨dots, tail.takeWhile isGap, .none, fun c hc => List.mem_takeWhile_imp hc,
      fun _ => rfl, ?_⟩
    rw [hcs, Ending.text, List.nil_append, ← hend, List.takeWhile_append_dropWhile]
  · obtain ⟨gaps, e, hgaps, he, rfl⟩ := exists_of_dropGaps h
    exact ⟨dots, gaps, e, hgaps, fun hnone => absurd hnone he, hcs⟩

theorem exists_of_dropLines? {cs rest : List Char} (h : dropLines? cs = some rest) :
    ∃ lines after, lines.getLast? = some '\n' ∧ cs = lines ++ after ∧
      dropClosing? after = some rest := by
  induction cs with
  | nil => cases h
  | cons c cs ih =>
    have hlater (h : dropLines? cs = some rest) : ∃ lines after, lines.getLast? = some '\n' ∧
        c :: cs = lines ++ after ∧ dropClosing? after = some rest := by
      obtain ⟨lines, after, hlast, rfl, hclosing⟩ := ih h
      refine ⟨c :: lines, after, ?_, rfl, hclosing⟩
      rw [List.getLast?_cons, hlast]
      rfl
    rw [dropLines?] at h
    by_cases hc : (c == '\n') = true
    · rw [if_pos hc] at h
      cases hclosing : dropClosing? cs with
      | some rest' =>
        rw [hclosing] at h
        cases h
        exact ⟨[c], cs, by simpa using hc, rfl, hclosing⟩
      | none =>
        rw [hclosing] at h
        exact hlater h
    · rw [if_neg hc] at h
      exact hlater h

/-- The body of a text begins behind a block, or the text is all body. -/
theorem exists_front_of_dropBlock? {text body : List Char} (h : dropBlock? text = some body) :
    ∃ f : Front, f.text = text ∧ f.body = body := by
  rw [dropBlock?, Option.bind_eq_some_iff] at h
  obtain ⟨rest, hopening, hrest⟩ := h
  obtain ⟨marked, gaps, e, hgaps, he, rfl⟩ := exists_of_dropOpening? hopening
  obtain ⟨block, after, hblock, rfl, hclosing⟩ : ∃ block after, WholeLines block ∧
      rest = block ++ after ∧ dropClosing? after = some body := by
    cases hlines : dropLines? rest with
    | some body' =>
      rw [hlines] at hrest
      cases hrest
      obtain ⟨lines, after, hlast, hrest, hclosing⟩ := exists_of_dropLines? hlines
      exact ⟨lines, after, .inr hlast, hrest, hclosing⟩
    | none =>
      rw [hlines] at hrest
      exact ⟨[], rest, .inl rfl, rfl, hrest⟩
  obtain ⟨dots, gaps', e', hgaps', he', rfl⟩ := exists_of_dropClosing? hclosing
  refine ⟨⟨marked, gaps, e, block, dots, gaps', e', body, hgaps, he, hblock, hgaps', he'⟩, ?_, rfl⟩
  simp [Front.text, Front.opening, Front.closing]

/-! ## The block that metadata are read from -/

/-- A gap is blank, and no carriage return. -/
theorem of_isGap {c : Char} (h : isGap c = true) : isBlank c = true ∧ c ≠ '\r' := by
  have hc : c = ' ' ∨ c = '\t' := by simpa [isGap] using h
  rcases hc with rfl | rfl <;> decide

namespace Front

variable (f : Front)

/-- What follows the closing marks, with line breaks joined. -/
def after : List Char := f.closingGaps ++ joinBreaks (f.closingEnding.text ++ f.body)

/-- The text with its line breaks joined. -/
theorem joinBreaks_text (hmarked : f.marked = false) : joinBreaks f.text =
    '-' :: '-' :: '-' :: (f.gaps ++ '\n' :: (joinBreaks f.block ++
      closingMark f.dots :: closingMark f.dots :: closingMark f.dots :: f.after)) := by
  have hgaps {gaps : List Char} (h : ∀ c ∈ gaps, isGap c = true) (cs : List Char) :
      joinBreaks (gaps ++ cs) = gaps ++ joinBreaks cs := by
    have hnone : '\r' ∉ gaps := fun hmem => (of_isGap (h _ hmem)).2 rfl
    have hlast : gaps.getLast? ≠ some '\r' := fun hlast => hnone (List.mem_of_getLast? hlast)
    rw [joinBreaks_append hlast, joinBreaks_of_not_mem hnone]
  have hending (cs : List Char) : joinBreaks (f.ending.text ++ cs) = '\n' :: joinBreaks cs := by
    cases he : f.ending with
    | none => exact absurd he f.ending_ne
    | feed => exact joinBreaks_cons (by decide) cs
    | returnFeed => rfl
  have hmark : closingMark f.dots ≠ '\r' := by cases f.dots <;> decide
  have htext : f.text = '-' :: '-' :: '-' :: (f.gaps ++ (f.ending.text ++ (f.block ++
      closingMark f.dots :: closingMark f.dots :: closingMark f.dots ::
        (f.closingGaps ++ (f.closingEnding.text ++ f.body))))) := by
    simp [text, opening, closing, hmarked]
  rw [htext, joinBreaks_cons (by decide), joinBreaks_cons (by decide), joinBreaks_cons (by decide),
    hgaps f.gaps_gap, hending, joinBreaks_append f.block_lines.getLast?_ne, joinBreaks_cons hmark,
    joinBreaks_cons hmark, joinBreaks_cons hmark, hgaps f.closingGaps_gap, after]

/-- The closing line is blank behind its marks. -/
theorem blank_firstLine_after : ∀ c ∈ firstLine f.after, isBlank c = true := by
  have hgaps : firstLine f.after ⊆ f.closingGaps := by
    rw [after]
    cases he : f.closingEnding with
    | none =>
      rw [f.closingEnding_ne he]
      simpa [Ending.text, joinBreaks, firstLine] using (List.takeWhile_prefix _).subset
    | feed =>
      rw [Ending.text, List.singleton_append, joinBreaks_cons (by decide), firstLine,
        (takeWhile_append_cons (by decide) _ _).1]
      exact (List.takeWhile_prefix _).subset
    | returnFeed =>
      rw [Ending.text, List.cons_append, List.singleton_append, joinBreaks, firstLine,
        (takeWhile_append_cons (by decide) _ _).1]
      exact (List.takeWhile_prefix _).subset
  exact fun c hc => (of_isGap (f.closingGaps_gap c (hgaps hc))).1

/-- Blanks at the end of the text are behind the closing marks. -/
theorem trim_joinBreaks_text (hmarked : f.marked = false) : trim (joinBreaks f.text) =
    '-' :: '-' :: '-' :: (f.gaps ++ '\n' :: (joinBreaks f.block ++
      closingMark f.dots :: closingMark f.dots :: closingMark f.dots :: trimEnd f.after)) := by
  have hdash : ¬ isBlank '-' = true := by decide
  have hmark : isBlank (closingMark f.dots) = false := by cases f.dots <;> decide
  rw [joinBreaks_text f hmarked, trim, trimStart, List.dropWhile_cons_of_neg hdash]
  have hend := dropEndWhile_append_cons hmark ('-' :: '-' :: '-' :: (f.gaps ++ '\n' ::
    (joinBreaks f.block ++ [closingMark f.dots, closingMark f.dots]))) f.after
  simpa [trimEnd] using hend

/-- The closing line is a fence exactly if it is one of dashes. -/
theorem isSome_dropDashes?_closing : (dropDashes? (closingMark f.dots :: closingMark f.dots ::
    closingMark f.dots :: trimEnd f.after)).isSome = true ↔ f.dots = false := by
  obtain ⟨run, hrun, -⟩ := exists_append_dropEndWhile isBlank f.after
  have hblank : ∀ c ∈ firstLine (trimEnd f.after), isBlank c = true := by
    intro c hc
    refine f.blank_firstLine_after c ?_
    rw [hrun]
    exact takeWhile_subset_append _ _ _ hc
  rw [isSome_dropDashes?_iff, IsFence, (dashes_firstLine _).1]
  cases hdots : f.dots with
  | true => simp [closingMark]
  | false =>
    have hrest : ∀ c ∈ (firstLine (trimEnd f.after)).dropWhile (· == '-'), isBlank c = true :=
      fun c hc => hblank c ((List.dropWhile_suffix _).subset hc)
    rw [(dashes_firstLine _).2] at hrest ⊢
    simpa [closingMark] using hrest

/-- Metadata are read from what stands before the first fence behind the opening line. -/
theorem block?_of_unmarked (hmarked : f.marked = false) : block? f.text =
    (beforeFence? true (joinBreaks f.block ++ closingMark f.dots :: closingMark f.dots ::
      closingMark f.dots :: trimEnd f.after)).map
        fun before => (.dashes, '\n' :: dropBlankLines before) := by
  have hgaps : ∀ c ∈ f.gaps, isBlank c = true := fun c hc => (of_isGap (f.gaps_gap c hc)).1
  have hstyle : styleOf? (joinBreaks f.text) = some .dashes := by
    rw [styleOf?, joinBreaks_text f hmarked, dropDashes?_opening hgaps]
    rfl
  rw [block?, hstyle, trim_joinBreaks_text f hmarked]
  change (between? dropDashes? _).map _ = _
  rw [between?_opening hgaps, Option.map_map]
  rfl

/-- Both searches find the same block exactly if the text is aligned. -/
theorem block?_text : block? f.text = some (.dashes, handed f.block) ↔ f.Aligned := by
  cases hmarked : f.marked with
  | true =>
    have htext : ∃ cs, f.text = '\ufeff' :: cs := by
      simp [text, opening, hmarked]
    obtain ⟨cs, hcs⟩ := htext
    rw [hcs, block?_of_mark]
    exact ⟨nofun, fun h => by rw [h.unmarked] at hmarked; cases hmarked⟩
  | false =>
    have hlines := f.block_lines.joinBreaks
    have hmark : isBlank (closingMark f.dots) = false := by cases f.dots <;> decide
    have hsame : block? f.text = some (.dashes, handed f.block) ↔
        beforeFence? true (joinBreaks f.block ++ closingMark f.dots :: closingMark f.dots ::
          closingMark f.dots :: trimEnd f.after) = some (joinBreaks f.block) := by
      rw [block?_of_unmarked f hmarked, Option.map_eq_some_iff]
      constructor
      · rintro ⟨before, hbefore, hsame⟩
        -- what is dropped at the front is the same, so the blocks end at the same place
        obtain ⟨rest, hrest, hfence, -⟩ := exists_of_beforeFence? hbefore
        have hkept : dropBlankLines before = dropBlankLines (joinBreaks f.block) := by
          simpa [handed] using hsame
        obtain ⟨rest, rfl⟩ := exists_of_isSome_dropDashes? hfence
        have hdash : isBlank '-' = false := by decide
        rw [hbefore, eq_of_dropBlankLines_eq hdash hmark hrest.symm hkept]
      · exact fun h => ⟨_, h, rfl⟩
    rw [hsame, beforeFence?_eq_lines_iff hlines, isSome_dropDashes?_closing]
    exact ⟨fun h => ⟨hmarked, h.2, h.1⟩, fun h => ⟨h.unfenced, h.dashes⟩⟩

end Front

/-- The fields of a block in YAML; a block that is no mapping has none. -/
def fieldsOfBlock (file : Path) (block : List Char) : Except Failure Fields := do
  match ← ofYaml file block with
  | .map entries => fieldsOf entries
  | _ => return []

/-- Metadata are those of the block that both searches find. -/
theorem Front.metadata_text {f : Front} (h : f.Aligned) (file : Path) :
    metadata file f.text = fieldsOfBlock file (handed f.block) := by
  rw [metadata_eq, f.block?_text.mpr h]
  rfl

/-- The offset of the body is the length of the block with its two lines. -/
theorem bodyOffset_cases (text : List Char) :
    bodyOffset text = 0 ∧ dropBlock? text = none ∨
      ∃ f : Front, f.text = text ∧ 0 < bodyOffset text ∧
        text.take (bodyOffset text) = f.opening ++ (f.block ++ f.closing) := by
  rw [bodyOffset]
  cases hbody : dropBlock? text with
  | none => exact .inl ⟨rfl, rfl⟩
  | some body =>
    obtain ⟨f, rfl, rfl⟩ := exists_front_of_dropBlock? hbody
    have htext : f.text = f.opening ++ (f.block ++ f.closing) ++ f.body := by
      simp [Front.text]
    have hlength : f.text.length - f.body.length =
        (f.opening ++ (f.block ++ f.closing)).length := by
      rw [htext, List.length_append, Nat.add_sub_cancel]
    have hopening : 0 < f.opening.length := by
      simp only [Front.opening, List.length_append, List.length_cons]
      omega
    refine .inr ⟨f, rfl, ?_, ?_⟩
    · simp only [hlength, List.length_append]
      omega
    · simp only [hlength]
      rw [htext, List.take_left]

end Crosslink.FrontMatter

namespace Crosslink.Page

open FrontMatter

variable {file below : Path} {text : List Char} {p : Page}

/-- A text whose metadata can be read is a page. -/
theorem exists_of_metadata {fields : Fields} (h : FrontMatter.metadata file text = .ok fields)
    (below : Path) :
    ∃ p, ofText file below text = .ok p ∧ p.metadata = fields ∧
      p.bodyOffset = FrontMatter.bodyOffset text := by
  rw [ofText, h]
  exact ⟨_, rfl, rfl, rfl⟩

/-- Where a text has a block before its body, metadata are read from that block exactly if the text
is aligned: no byte-order mark, a closing line of dashes, no other fence in the block. They are the
fields of the block then, and none if it is no mapping. A text that is all body has no metadata,
unless its first character after blanks is a dash or a brace. No link begins inside the block. -/
theorem metadata_of_ofText (h : ofText file below text = .ok p) :
    (p.bodyOffset = 0 → (∀ c ∈ (Text.trimStart text).head?, opens c = false) → p.metadata = []) ∧
      (0 < p.bodyOffset → ∃ f : Front, f.text = text ∧
        text.take p.bodyOffset = f.opening ++ (f.block ++ f.closing)) ∧
      (∀ f : Front, f.text = text →
        (block? text = some (.dashes, handed f.block) ↔ f.Aligned) ∧
        (f.Aligned → fieldsOfBlock file (handed f.block) = .ok p.metadata)) ∧
      ∀ l ∈ p.links, ∃ start, l.start? = some start ∧ p.bodyOffset ≤ start := by
  rw [ofText] at h
  obtain ⟨fields, hmetadata, ⟨⟩⟩ := bind_eq_ok_iff.mp h
  refine ⟨fun _ hhead => ?_, fun hoffset => ?_, ?_, fun l hl => Link.exists_start_of_mem_find hl⟩
  · rw [metadata_eq, block?_of_head? hhead] at hmetadata
    exact (Except.ok.inj hmetadata).symm
  · rcases bodyOffset_cases text with ⟨hzero, -⟩ | ⟨f, hf, -, htake⟩
    · exact absurd hzero (Nat.pos_iff_ne_zero.mp hoffset)
    · exact ⟨f, hf, htake⟩
  · rintro f rfl
    exact ⟨f.block?_text, fun ha => (f.metadata_text ha file) ▸ hmetadata⟩

namespace Sample

/-- A page that declares an identifier in a block as it is usually written. -/
def front : Front where
  marked := false
  gaps := []
  ending := .feed
  block := "globalReference: a\n".toList
  dots := false
  closingGaps := []
  closingEnding := .feed
  body := "[b](/b)\n".toList
  gaps_gap := by simp
  ending_ne := by decide
  block_lines := by decide
  closingGaps_gap := by simp
  closingEnding_ne := by decide

/-- The file of the page. -/
def location : Path := ⟨.relative, ["a.md"]⟩

/-- The identifier that a block declares. -/
def declared? (block : List Char) : Except Failure (Option String) :=
  fieldsOfBlock location block >>= fun fields => (declaredIdentifier fields).mapError .fault

end Sample

theorem metadata_of_ofText_sample : ∃ p,
    ofText Sample.location Sample.location Sample.front.text = .ok p ∧ p.bodyOffset = 27 ∧
      declaredIdentifier p.metadata = .ok (some "a") := by
  have haligned : Sample.front.Aligned := by decide +kernel
  have hdeclared : Sample.declared? (handed Sample.front.block) = .ok (some "a") := by
    decide +kernel
  cases hfields : fieldsOfBlock Sample.location (handed Sample.front.block) with
  | error f =>
    rw [Sample.declared?, hfields] at hdeclared
    cases hdeclared
  | ok fields =>
    have hmetadata := (Front.metadata_text haligned Sample.location).trans hfields
    obtain ⟨p, hp, -, hoffset⟩ := exists_of_metadata hmetadata Sample.location
    obtain ⟨-, -, hsame, -⟩ := metadata_of_ofText hp
    have hread := (hsame Sample.front rfl).2 haligned
    refine ⟨p, hp, hoffset.trans (by decide +kernel), ?_⟩
    rw [Sample.declared?, hread] at hdeclared
    change (declaredIdentifier p.metadata).mapError _ = _ at hdeclared
    cases hid : declaredIdentifier p.metadata with
    | error f =>
      rw [hid] at hdeclared
      cases hdeclared
    | ok identifier? =>
      rw [hid] at hdeclared
      exact congrArg _ (Except.ok.inj hdeclared)

/-- The same page behind a byte-order mark: its block is no part of the body, but declares
nothing. -/
theorem metadata_lost_behind_mark : ∃ p,
    ofText Sample.location Sample.location ('\ufeff' :: Sample.front.text) = .ok p ∧
      p.bodyOffset = 28 ∧ p.metadata = [] ∧
      Sample.declared? Sample.front.block = .ok (some "a") := by
  have hmetadata :
      FrontMatter.metadata Sample.location ('\ufeff' :: Sample.front.text) = .ok [] := by
    rw [metadata_eq, block?_of_mark]
  obtain ⟨p, hp, hfields, hoffset⟩ := exists_of_metadata hmetadata Sample.location
  exact ⟨p, hp, hoffset.trans (by decide +kernel), hfields, by decide +kernel⟩

end Crosslink.Page
