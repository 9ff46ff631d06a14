import Crosslink.Proofs.Link.LineEnding
import Crosslink.Proofs.Page.CodeKept

/-!
# Links that are written

A link is written as a label in brackets with a destination behind it. Quotes and backslashes of
the title are escaped, and a target with blanks stands in angle brackets, so nothing that the title
or the target says ends the destination early: what is written is found again as this one link.
-/

namespace Crosslink.Link

open Text (Span)

/-- The characters can stand between the brackets of a link on one line. -/
def IsPlainLabel (label : List Char) : Prop := ∀ c ∈ label, c ≠ '[' ∧ c ≠ ']' ∧ c ≠ '\n'

instance (label : List Char) : Decidable (IsPlainLabel label) :=
  List.decidableBAll (fun c => c ≠ '[' ∧ c ≠ ']' ∧ c ≠ '\n') label

theorem IsPlainLabel.not_mem {label : List Char} (h : IsPlainLabel label) : '\n' ∉ label :=
  fun hmem => (h _ hmem).2.2 rfl

/-- A label without brackets is read up to the bracket that closes it. -/
theorem IsPlainLabel.reads {label : List Char} (h : IsPlainLabel label) :
    Reads (label? false) (label ++ [']']) label := by
  induction label with
  | nil => exact fun rest => rfl
  | cons c label ih =>
    obtain ⟨⟨hopen, hclose, hfeed⟩, htail⟩ := List.forall_mem_cons.mp h
    intro rest
    rw [List.cons_append, List.cons_append, label?, if_neg (by simpa using hclose),
      if_neg (by simpa using hopen), if_neg (by simp [hfeed]), ih htail]
    rfl

/-- A text on one line that begins with a bracket has no code at its beginning. -/
theorem anyContains_codeRegions_bracket {cs : List Char} (h : '\n' ∉ cs) :
    Span.anyContains (codeRegions ('[' :: cs) 0) 0 = false := by
  have hfenced : fencedFrom ('[' :: cs) 0 = [] := by
    have hline : ('[' :: cs).splitOn '\n' = ['[' :: cs] :=
      List.splitOn_eq_singleton (by simpa using h)
    rw [fencedFrom_eq_blocks, blocks_zero, hline]
    rfl
  have hspans : ∀ s ∈ codeSpans 0 0 ('[' :: cs), 0 < s.start := by
    intro s hs
    obtain ⟨k, hstart, hspan⟩ := exists_of_mem_codeSpans hs
    rcases k with _ | k
    · cases hspan
    · omega
  rw [codeRegions, hfenced, List.nil_append, List.drop_zero]
  exact Text.Span.anyContains_eq_false_of_lt_start fun s hs => hspans s (List.mem_filter.mp hs).1

/-- A link that stands alone on its line is the only one that is found. -/
theorem find_text (x : Inline) (h : '\n' ∉ x.label) :
    find x.text 0 = [ofOccurrence x.text (x.occurrence 0)] := by
  have hcode : Span.anyContains (codeRegions x.text 0) 0 = false :=
    anyContains_codeRegions_bracket (by simp [h, not_mem_tail])
  have hfound : occurrences x.text 0 = [x.occurrence 0] := by
    have hguards : guards none = false := rfl
    have htext := occurrencesFrom_text x hguards 0 []
    rwa [List.append_nil, occurrencesFrom] at htext
  rw [find, hfound, List.filter_cons_of_pos (by simpa [Inline.occurrence] using hcode)]
  rfl

/-- What is written behind a plain label is a link to its target, with its title. -/
theorem exists_inline_of_written {label : List Char} {l : Link} (hlabel : IsPlainLabel label)
    (hurl : Writable l.url.toList) (htitle : ∀ title ∈ l.title, title ≠ "" ∧ '\n' ∉ title.toList)
    (hinert : l.inert = false) (written : List Char) :
    ∃ x : Inline, x.label = label ∧ '(' :: x.tail = l.replacement written ∧
      x.destination = ⟨l.url.toList, l.title.map String.toList⟩ := by
  obtain ⟨tail, hwritten, hread⟩ := reads_writeDestination hurl (l.title.map String.toList)
    fun cs hcs => by
      obtain ⟨title, ht, rfl⟩ := Option.map_eq_some_iff.mp hcs
      exact (htitle title ht).2
  have hkept : (l.title.map String.toList).filter (fun cs => !cs.isEmpty) =
      l.title.map String.toList := by
    cases ht : l.title with
    | none => rfl
    | some title =>
      have hne : title.toList ≠ [] := fun he => (htitle title ht).1 (String.toList_eq_nil_iff.mp he)
      rw [Option.map_some, Option.filter_some_pos (by simpa using hne)]
  rw [hkept] at hread
  refine ⟨⟨label, tail, _, hlabel.reads, hread⟩, rfl, ?_, rfl⟩
  rw [replacement, hinert, if_neg Bool.false_ne_true, hwritten]

/-- A link with a plain label is found where it is written, and nothing else: its target and its
title are read back as they are, whatever quotes, brackets, backticks or links the title holds. -/
theorem find_written {label : List Char} {l : Link} (hlabel : IsPlainLabel label)
    (hurl : Writable l.url.toList) (htitle : ∀ title ∈ l.title, title ≠ "" ∧ '\n' ∉ title.toList)
    (hinert : l.inert = false) (written : List Char) :
    find ('[' :: (label ++ ']' :: l.replacement written)) 0 = [ofOrigin {
      url := l.url
      text := String.ofList label
      title := l.title
      line := some 1
      column := some 1
      span := some ⟨label.length + 2, label.length + 2 + (l.replacement written).length⟩ }] := by
  obtain ⟨x, rfl, htail, hdestination⟩ :=
    exists_inline_of_written hlabel hurl htitle hinert written
  have htext : '[' :: (x.label ++ ']' :: l.replacement written) = x.text := by
    rw [← htail]
    rfl
  have hspan : (x.occurrence 0).span =
      ⟨x.label.length + 2, x.label.length + 2 + (l.replacement written).length⟩ := by
    rw [← htail, Inline.occurrence, List.length_cons, Nat.zero_add, Nat.add_assoc _ 1,
      Nat.add_comm 1]
  have hplace : Text.positionOf x.text (x.occurrence 0).start = ⟨1, 1⟩ := rfl
  have htitle : (l.title.map String.toList).map String.ofList = l.title := by
    simp [Function.comp_def]
  rw [htext, find_text x hlabel.not_mem, ofOccurrence, hspan, hplace, Inline.occurrence,
    hdestination, htitle, String.ofList_toList]
  rfl

namespace Sample

/-- A link to a file with a blank in its name, under a title with all that could end it early. -/
def daring : Link :=
  { ofOrigin ⟨"ref:x", "a", none, none, none, none⟩ with
    url := "/a \x60b\x60 (1).md"
    title := some "say \"hi\" \\\\\") [c](ref:y) \x60d\\" }

/-- The link as it is written behind a label with a backtick and a backslash. -/
def daringText : List Char :=
  "[a \x60 \\](</a \x60b\x60 (1).md> \"say \\\"hi\\\" \\\\\\\\\\\") [c](ref:y) \x60d\\\\\")".toList

end Sample

theorem find_written_sample : IsPlainLabel "a \x60 \\".toList ∧
    Writable Sample.daring.url.toList ∧
    (∀ title ∈ Sample.daring.title, title ≠ "" ∧ '\n' ∉ title.toList) ∧
    Sample.daring.inert = false ∧
    find Sample.daringText 0 = [ofOrigin ⟨Sample.daring.url, "a \x60 \\", Sample.daring.title,
      some 1, some 1, some ⟨7, 61⟩⟩] := by
  have hlabel : IsPlainLabel "a \x60 \\".toList := by decide
  have hurl : Writable Sample.daring.url.toList := by decide
  have htitle : ∀ title ∈ Sample.daring.title, title ≠ "" ∧ '\n' ∉ title.toList := by
    rintro title ⟨⟩
    decide
  have htext : Sample.daringText = '[' :: ("a \x60 \\".toList ++
      ']' :: Sample.daring.replacement "(ref:x)".toList) := by decide +kernel
  exact ⟨hlabel, hurl, htitle, rfl,
    htext ▸ find_written hlabel hurl htitle rfl "(ref:x)".toList⟩

end Crosslink.Link
