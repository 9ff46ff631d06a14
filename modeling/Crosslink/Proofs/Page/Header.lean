import Crosslink.Proofs.Link.Shift
import Crosslink.Proofs.Page.Alignment
import Crosslink.Proofs.Path.Order

/-!
# A body behind a header

A header whose lines begin neither with three dashes nor with three dots, between two lines of
dashes, is the front matter of a text, whatever the body. Metadata are read from the header alone,
and the links of the text are those of the body, further on.
-/

namespace Crosslink.FrontMatter

open Text

/-- The line begins neither with three dashes nor with three dots. -/
def Unmarked (line : List Char) : Prop :=
  ¬ ['-', '-', '-'] <+: line ∧ ¬ ['.', '.', '.'] <+: line

instance (line : List Char) : Decidable (Unmarked line) := inferInstanceAs (Decidable (_ ∧ _))

/-! ## Lines that are searched for the closing one -/

/-- What begins a text begins its first line if it holds no line feed. -/
theorem prefix_of_prefix_append {front line rest : List Char} (hfront : '\n' ∉ front)
    (h : front <+: line ++ '\n' :: rest) : front <+: line := by
  rcases List.prefix_or_prefix_of_prefix h (List.prefix_append line _) with hline | ⟨more, rfl⟩
  · exact hline
  · rw [List.prefix_append_right_inj] at h
    rcases more with _ | ⟨c, more⟩
    · simp
    · obtain ⟨rfl, -⟩ := List.cons_prefix_cons.mp h
      exact absurd (by simp) hfront

/-- A line that begins with no marks closes no block. -/
theorem dropClosing?_of_unmarked {line : List Char} (h : Unmarked line) (rest : List Char) :
    dropClosing? (line ++ '\n' :: rest) = none := by
  cases hclosing : dropClosing? (line ++ '\n' :: rest) with
  | none => rfl
  | some after =>
    obtain ⟨dots, gaps, e, -, -, htext⟩ := exists_of_dropClosing? hclosing
    have hmarks : [closingMark dots, closingMark dots, closingMark dots] <+: line := by
      refine prefix_of_prefix_append ?_ ⟨_, htext.symm⟩
      cases dots <;> decide
    cases dots with
    | false => exact absurd hmarks h.1
    | true => exact absurd hmarks h.2

theorem dropLines?_of_not_mem {line : List Char} (h : '\n' ∉ line) (rest : List Char) :
    dropLines? (line ++ rest) = dropLines? rest := by
  induction line with
  | nil => rfl
  | cons c line ih =>
    have hc : ¬ (c == '\n') = true := fun he => h (eq_of_beq he ▸ List.mem_cons_self)
    rw [List.cons_append, dropLines?, if_neg hc, ih fun hmem => h (List.mem_cons_of_mem _ hmem)]

/-- Lines without marks at their fronts are passed over. -/
theorem dropLines?_lines {lines : List (List Char)}
    (h : ∀ line ∈ lines, '\n' ∉ line ∧ Unmarked line) (rest : List Char) :
    dropLines? ('\n' :: (lines.flatMap (· ++ ['\n']) ++ rest)) = dropLines? ('\n' :: rest) := by
  induction lines with
  | nil => rfl
  | cons line lines ih =>
    obtain ⟨⟨hfeed, hmarks⟩, hlines⟩ := List.forall_mem_cons.mp h
    rw [← ih hlines, List.flatMap_cons, List.append_assoc, List.append_assoc,
      List.singleton_append, dropLines?, if_pos (beq_self_eq_true _),
      dropClosing?_of_unmarked hmarks]
    exact dropLines?_of_not_mem hfeed _

/-! ## Lines that are searched for a fence -/

/-- A fence begins with three dashes. -/
theorem prefix_of_isFence {line : List Char} (h : IsFence line) : ['-', '-', '-'] <+: line := by
  have hrun : line.takeWhile (· == '-') = List.replicate (line.takeWhile (· == '-')).length '-' :=
    List.eq_replicate_of_mem fun c hc => eq_of_beq (List.mem_takeWhile_imp (p := (· == '-')) hc)
  refine List.IsPrefix.trans ?_ (List.takeWhile_prefix (· == '-'))
  obtain ⟨more, hmore⟩ := Nat.exists_eq_add_of_le h.1
  rw [hrun, hmore, List.replicate_add]
  exact List.prefix_append _ _

/-- A line ends with a single line feed when breaks are joined. -/
theorem exists_joinBreaks_line {line : List Char} (h : '\n' ∉ line) :
    ∃ kept, kept <+: line ∧ joinBreaks (line ++ ['\n']) = kept ++ ['\n'] := by
  induction line with
  | nil => exact ⟨[], List.nil_prefix, rfl⟩
  | cons c line ih =>
    obtain ⟨kept, hkept, hjoin⟩ := ih fun hmem => h (List.mem_cons_of_mem c hmem)
    rcases line with _ | ⟨d, line⟩
    · by_cases hc : c = '\r'
      · exact ⟨[], List.nil_prefix, by rw [hc]; rfl⟩
      · exact ⟨[c], List.prefix_rfl, joinBreaks_cons hc _⟩
    · refine ⟨c :: kept, List.cons_prefix_cons.mpr ⟨rfl, hkept⟩, ?_⟩
      rw [List.cons_append, joinBreaks, hjoin, List.cons_append]
      rintro rest rfl he
      cases he
      simp at h

/-- Lines without dashes at their fronts hold no fence. -/
theorem beforeFence?_line {line : List Char} (h : '\n' ∉ line) (hmarks : Unmarked line) :
    beforeFence? true (joinBreaks (line ++ ['\n'])) = none := by
  obtain ⟨kept, hkept, hjoin⟩ := exists_joinBreaks_line h
  rw [hjoin]
  cases hbefore : beforeFence? true (kept ++ ['\n']) with
  | none => rfl
  | some before =>
    obtain ⟨rest, htext, hfence, hwhole⟩ := exists_of_beforeFence? hbefore
    rcases hwhole with ⟨rfl, -⟩ | hlast
    · -- the fence begins the line
      rw [List.nil_append] at htext
      subst htext
      have hdashes := (prefix_of_isFence ((isSome_dropDashes?_iff _).mp hfence)).trans
        (List.takeWhile_prefix _)
      exact absurd ((prefix_of_prefix_append (by decide) hdashes).trans hkept) hmarks.1
    · -- the fence stands behind a line feed, of which the line has none
      obtain ⟨rest, rfl⟩ := exists_of_isSome_dropDashes? hfence
      have hdrop := congrArg List.dropLast htext
      rw [List.dropLast_concat, List.dropLast_append_of_ne_nil (by simp)] at hdrop
      have hmem : '\n' ∈ kept := hdrop ▸ List.mem_append_left _ (List.mem_of_getLast? hlast)
      exact absurd (hkept.subset hmem) h

theorem beforeFence?_joinBreaks_lines {lines : List (List Char)}
    (h : ∀ line ∈ lines, '\n' ∉ line ∧ Unmarked line) :
    beforeFence? true (joinBreaks (lines.flatMap (· ++ ['\n']))) = none := by
  induction lines with
  | nil => rfl
  | cons line lines ih =>
    obtain ⟨⟨hfeed, hmarks⟩, hlines⟩ := List.forall_mem_cons.mp h
    have hlast : (line ++ ['\n']).getLast? = some '\n' := by simp
    rw [List.flatMap_cons, joinBreaks_append (by rw [hlast]; decide),
      beforeFence?_lines (WholeLines.joinBreaks (.inr hlast)) (beforeFence?_line hfeed hmarks),
      ih hlines, Option.map_none]

/-! ## Header and body -/

/-- A body behind a header between two lines of dashes. -/
def headed (header body : List Char) : List Char :=
  ['-', '-', '-', '\n'] ++ header ++ ['\n', '-', '-', '-', '\n'] ++ body

/-- A mark alone has no gaps behind it. -/
theorem isGap_of_mem_nil : ∀ c ∈ ([] : List Char), isGap c = true := nofun

/-- A header as the front matter of a text. -/
def Front.ofHeader (header body : List Char) : Front where
  marked := false
  gaps := []
  ending := .feed
  block := header ++ ['\n']
  dots := false
  closingGaps := []
  closingEnding := .feed
  body := body
  gaps_gap := isGap_of_mem_nil
  ending_ne := nofun
  block_lines := .inr List.getLast?_concat
  closingGaps_gap := isGap_of_mem_nil
  closingEnding_ne := nofun

theorem Front.text_ofHeader (header body : List Char) :
    (ofHeader header body).text = headed header body := by
  simp [ofHeader, text, opening, closing, headed, Ending.text, closingMark]

variable {header : List Char}

/-- The lines of a header are what its line feeds leave. -/
theorem unmarked_lines (h : ∀ line ∈ header.splitOn '\n', Unmarked line) :
    ∀ line ∈ header.splitOn '\n', '\n' ∉ line ∧ Unmarked line :=
  fun line hline => ⟨Path.not_mem_of_mem_splitOn hline, h line hline⟩

/-- A header without marks at the fronts of its lines is aligned. -/
theorem Front.aligned_ofHeader (h : ∀ line ∈ header.splitOn '\n', Unmarked line)
    (body : List Char) : (ofHeader header body).Aligned := by
  refine ⟨rfl, rfl, ?_⟩
  have hnone := beforeFence?_joinBreaks_lines (unmarked_lines h)
  rwa [Link.flatMap_splitOn] at hnone

/-- The body begins behind the second line of dashes. -/
theorem dropBlock?_headed (h : ∀ line ∈ header.splitOn '\n', Unmarked line) (body : List Char) :
    dropBlock? (headed header body) = some body := by
  have hopening : dropOpening? (headed header body) =
      some (header ++ ['\n'] ++ '-' :: '-' :: '-' :: '\n' :: body) := by
    have htext : headed header body = '-' :: '-' :: '-' :: '\n' ::
        (header ++ ['\n'] ++ '-' :: '-' :: '-' :: '\n' :: body) := by
      simp [headed]
    rw [htext]
    rfl
  have hclosing : dropClosing? ('-' :: '-' :: '-' :: '\n' :: body) = some body := rfl
  have hlines : dropLines? (header ++ ['\n'] ++ '-' :: '-' :: '-' :: '\n' :: body) =
      some body := by
    rw [← Link.flatMap_splitOn]
    have hmarks := unmarked_lines h
    obtain ⟨line, lines, hsplit⟩ := List.exists_cons_of_ne_nil (List.splitOn_ne_nil '\n' header)
    rw [hsplit] at hmarks ⊢
    obtain ⟨⟨hfeed, -⟩, hlines⟩ := List.forall_mem_cons.mp hmarks
    rw [List.flatMap_cons, List.append_assoc, List.append_assoc, dropLines?_of_not_mem hfeed]
    exact (dropLines?_lines hlines _).trans (by rw [dropLines?, hclosing]; rfl)
  rw [dropBlock?, hopening, Option.bind_some, hlines]
  rfl

end Crosslink.FrontMatter

namespace Crosslink.Page

open FrontMatter

/-- Behind a header the block that metadata are read from is that of the header, so the text is a
page or an error, and has metadata, by the header alone. Its body is what follows the header, and
its links are those of the body, as many characters and lines further on as stand before it. -/
theorem ofText_headed (file below : Path) {header : List Char}
    (h : ∀ line ∈ header.splitOn '\n', Unmarked line) (body : List Char) :
    let text := headed header body
    let k := text.length - body.length
    block? text = some (.dashes, handed (header ++ ['\n'])) ∧ text.drop k = body ∧
      ofText file below text = (fieldsOfBlock file (handed (header ++ ['\n']))).map fun fields =>
        { sourceFile := file
          relativePath := below
          metadata := fields
          text := text
          bodyOffset := k
          links := (Link.find body 0).map (Link.shift k ((text.take k).count '\n')) } := by
  intro text k
  obtain ⟨front, htext, hfront⟩ : ∃ front, text = front ++ body ∧ Text.WholeLines front :=
    ⟨['-', '-', '-', '\n'] ++ header ++ ['\n', '-', '-', '-', '\n'], rfl,
      .inr (by rw [List.getLast?_append]; rfl)⟩
  have hk : k = front.length := by
    change text.length - body.length = _
    rw [htext, List.length_append, Nat.add_sub_cancel]
  have haligned := Front.aligned_ofHeader h body
  have hblock := (Front.block?_text _).mpr haligned
  have hmetadata := Front.metadata_text haligned file
  rw [Front.text_ofHeader] at hblock hmetadata
  have hoffset : FrontMatter.bodyOffset text = k := by
    change FrontMatter.bodyOffset (headed header body) = _
    rw [FrontMatter.bodyOffset, dropBlock?_headed h]
  have hlinks : Link.find text k =
      (Link.find body 0).map (Link.shift k ((text.take k).count '\n')) := by
    rw [hk, htext, Link.find_append_wholeLines hfront, List.take_left]
  refine ⟨hblock, by rw [hk, htext, List.drop_left], ?_⟩
  change ofText file below (headed header body) = _
  rw [ofText, hmetadata, ← hlinks]
  change _ = (fieldsOfBlock file (handed (Front.ofHeader header body).block)).map _
  cases fieldsOfBlock file (handed (Front.ofHeader header body).block) with
  | error f => rfl
  | ok fields =>
    rw [← hoffset]
    rfl

namespace Sample

/-- A header with two dashes at the front of a line. -/
def header : List Char := "globalReference: a\n-- b: c".toList

/-- A body that looks like front matter. -/
def lookalike : List Char := "---\nglobalReference: [d](ref:d)\n---\n".toList

/-- A block that declares an identifier can be read. -/
theorem exists_of_declared? {block : List Char} {identifier? : Option String}
    (h : declared? block = .ok identifier?) : ∃ fields,
      fieldsOfBlock location block = .ok fields ∧ declaredIdentifier fields = .ok identifier? := by
  rw [declared?] at h
  cases hfields : fieldsOfBlock location block with
  | error f =>
    rw [hfields] at h
    cases h
  | ok fields =>
    rw [hfields] at h
    change (declaredIdentifier fields).mapError _ = _ at h
    cases hid : declaredIdentifier fields with
    | error f =>
      rw [hid] at h
      cases h
    | ok _ =>
      rw [hid] at h
      cases h
      exact ⟨fields, rfl, hid⟩

end Sample

theorem ofText_headed_sample :
    (∀ line ∈ Sample.header.splitOn '\n', Unmarked line) ∧
    ∃ p, ofText Sample.location Sample.location (headed Sample.header Sample.lookalike) = .ok p ∧
      p.bodyOffset = 35 ∧ p.body = Sample.lookalike ∧
      declaredIdentifier p.metadata = .ok (some "a") ∧
      p.links.map (fun l => (l.url, l.origin.line, l.origin.column, l.origin.span)) =
        [("ref:d", some 6, some 18, some ⟨59, 66⟩)] := by
  have hheader : ∀ line ∈ Sample.header.splitOn '\n', Unmarked line := by decide +kernel
  obtain ⟨fields, hfields, hdeclared⟩ := Sample.exists_of_declared?
    (show Sample.declared? (handed (Sample.header ++ ['\n'])) = .ok (some "a") by decide +kernel)
  obtain ⟨-, hbody, hpage⟩ :=
    ofText_headed Sample.location Sample.location hheader Sample.lookalike
  rw [hfields] at hpage
  refine ⟨hheader, _, hpage, ?_, hbody, hdeclared, ?_⟩
  · dsimp only
    decide +kernel
  · simp only [Link.find, Link.codeRegions, Link.fencedFrom_eq_blocks]
    decide +kernel

end Crosslink.Page
