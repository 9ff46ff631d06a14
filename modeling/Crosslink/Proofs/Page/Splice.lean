import Crosslink.Proofs.Page.Alignment
import Crosslink.Proofs.Page.CodeKept

/-!
# A rendered page piece by piece

The links of a page cut its text into pieces, of which each ends with the destination of one link.
Rendering goes from piece to piece: it keeps what is before the destination, and writes a new
destination exactly if the link is changed.
-/

namespace Crosslink.Page

open Text (Span)

/-- A piece of a text that ends with the destination of a link. -/
structure Piece where
  /-- What is before the destination. -/
  kept : List Char
  /-- The destination between its parentheses. -/
  inner : List Char
  link : Link

namespace Piece

/-- The piece as it is written. -/
def source (x : Piece) : List Char := x.kept ++ '(' :: x.inner ++ [')']

/-- The target of the link holds a blank. -/
def Spaced (x : Piece) : Prop := ∃ c ∈ x.link.url.toList, Text.isBlank c = true

instance (x : Piece) : Decidable x.Spaced := decidable_of_iff _ List.any_eq_true

/-- The target, in angle brackets if it holds a blank. -/
def target (x : Piece) : List Char :=
  if x.Spaced then '<' :: x.link.url.toList ++ ['>'] else x.link.url.toList

/-- A title in quotes behind a space, unless it is empty. -/
def title (x : Piece) : List Char :=
  match x.link.title with
  | none => []
  | some t =>
    let escaped := t.toList.flatMap fun c => if c = '\\' ∨ c = '"' then ['\\', c] else [c]
    if t = "" then [] else ' ' :: '"' :: escaped ++ ['"']

/-- The destination as it is rendered: as it is written if the link is unchanged, between escaped
parentheses if the link is plain text, and else with the target and the title of the link. -/
def destination (x : Piece) : List Char :=
  if x.link.changed = false then '(' :: x.inner ++ [')']
  else if x.link.inert then ['\\', '('] ++ x.inner ++ ['\\', ')']
  else '(' :: x.target ++ x.title ++ [')']

/-- The piece as it is rendered. -/
def rendered (x : Piece) : List Char := x.kept ++ x.destination

theorem length_source (x : Piece) : x.source.length = x.kept.length + x.inner.length + 2 := by
  simp [source]
  omega

end Piece

/-- The pieces lie one behind the other from an offset on, and their links stand at the ends. -/
def Placed : (offset : Nat) → List Piece → Prop
  | _, [] => True
  | offset, x :: rest =>
    x.link.origin.span = some ⟨offset + x.kept.length, offset + x.source.length⟩ ∧
      Placed (offset + x.source.length) rest

/-! ## New destinations -/

theorem writeTarget_eq (x : Piece) : Link.writeTarget x.link.url.toList = x.target := by
  rw [Link.writeTarget, Piece.target]
  exact if_congr List.any_eq_true rfl rfl

/-- What takes the place of a destination if the link is changed. -/
theorem replacement_eq {x : Piece} (h : x.link.changed = true) :
    x.link.replacement ('(' :: x.inner ++ [')']) = x.destination := by
  rw [Link.replacement, Piece.destination, h, if_neg (by decide : ¬ true = false)]
  cases x.link.inert with
  | true => simp [Link.escapeDestination]
  | false =>
    rw [if_neg Bool.false_ne_true, if_neg Bool.false_ne_true, ← writeTarget_eq, Piece.title]
    cases x.link.title with
    | none => simp [Link.writeDestination]
    | some t =>
      by_cases ht : t = ""
      · subst ht
        simp [Link.writeDestination]
      · obtain ⟨c, cs, hcs⟩ := List.exists_cons_of_ne_nil (mt String.toList_eq_nil_iff.mp ht)
        simp [Link.writeDestination, Link.quoteTitle, hcs, ht]

/-! ## From piece to piece -/

/-- What is asked for in pieces is asked for behind the offset at which they begin. -/
theorem Placed.le_start {offset : Nat} {pieces : List Piece} (h : Placed offset pieces)
    (text : List Char) :
    ∀ e ∈ (pieces.map Piece.link).filterMap (edit? text), offset ≤ e.1.start := by
  induction pieces generalizing offset with
  | nil => simp
  | cons x pieces ih =>
    obtain ⟨hspan, hplaced⟩ := h
    intro e he
    rw [List.map_cons, List.filterMap_cons] at he
    have hlater : e ∈ (pieces.map Piece.link).filterMap (edit? text) → offset ≤ e.1.start :=
      fun he => Nat.le_trans (Nat.le_add_right _ _) (ih hplaced e he)
    cases hedit : edit? text x.link with
    | none =>
      rw [hedit] at he
      exact hlater he
    | some own =>
      rw [hedit] at he
      rcases List.mem_cons.mp he with rfl | he
      · rw [edit?, hspan] at hedit
        split at hedit
        · cases hedit
          exact Nat.le_add_right _ _
        · cases hedit
      · exact hlater he

/-- A text is spliced piece by piece. -/
theorem splice_pieces {text : List Char} {pieces : List Piece} (pre : List Char)
    {rest : List Char} (h : Placed pre.length pieces) (htext : text = pre ++ (pieces.flatMap Piece.source ++ rest)) :
    splice text pre.length ((pieces.map Piece.link).filterMap (edit? text)) =
      pieces.flatMap Piece.rendered ++ rest := by
  induction pieces generalizing pre with
  | nil => simp [splice, htext]
  | cons x pieces ih =>
    obtain ⟨hspan, hplaced⟩ := h
    have hstart : pre.length + x.kept.length = (pre ++ x.kept).length := by simp
    have hstop : pre.length + x.source.length = (pre ++ x.source).length := by simp
    have hsource : text = pre ++ x.source ++ (pieces.flatMap Piece.source ++ rest) := by
      rw [htext, List.flatMap_cons, List.append_assoc, List.append_assoc]
    have hkept : text = pre ++ x.kept ++
        ('(' :: x.inner ++ [')'] ++ (pieces.flatMap Piece.source ++ rest)) := by
      rw [hsource, Piece.source]
      simp
    rw [hstart, hstop] at hspan
    rw [hstop] at hplaced
    have hbehind := hplaced.le_start text
    have hrest := ih _ hplaced hsource
    rw [List.map_cons, List.filterMap_cons, List.flatMap_cons, List.append_assoc, ← hrest]
    cases hchanged : x.link.changed with
    | false =>
      have hrendered : x.rendered = x.source := by
        rw [Piece.rendered, Piece.destination, if_pos hchanged, Piece.source, List.append_assoc]
      have hsplice := splice_of_le (pre ++ x.source) (pieces.flatMap Piece.source ++ rest)
        (k := pre.length) (by simp) hbehind
      rw [← hsource, List.drop_left] at hsplice
      rw [edit?, hchanged, hrendered]
      exact hsplice
    | true =>
      have hlabel : Span.slice ⟨pre.length, (pre ++ x.kept).length⟩ text = x.kept := by
        rw [hkept, Link.slice_prefix, List.drop_left]
      have hwritten : Span.slice ⟨(pre ++ x.kept).length, (pre ++ x.source).length⟩ text =
          '(' :: x.inner ++ [')'] := by
        rw [hsource, Link.slice_prefix, Piece.source]
        simp
      rw [edit?, hchanged, if_pos rfl, hspan]
      simp only [Option.map_some, splice, hlabel, hwritten, replacement_eq hchanged, Piece.rendered,
        List.append_assoc]

/-- The destination of a link stands in a text, between its parentheses. -/
def Enclosed (text : List Char) (l : Link) : Prop :=
  ∃ span inner, l.origin.span = some span ∧ span.stop ≤ text.length ∧
    span.slice text = '(' :: inner ++ [')']

theorem length_slice {s : Span} {text : List Char} (h : s.stop ≤ text.length) :
    (s.slice text).length = s.stop - s.start := by
  rw [Span.slice, List.length_take, List.length_drop]
  omega

/-- The rest of a text is cut at an offset in it. -/
theorem drop_eq_slice_append (s : Span) (h : s.start ≤ s.stop) (text : List Char) :
    text.drop s.start = s.slice text ++ text.drop s.stop := by
  have hdrop : text.drop s.stop = (text.drop s.start).drop (s.stop - s.start) := by
    rw [List.drop_drop, Nat.add_sub_cancel' h]
  rw [Span.slice, hdrop, List.take_append_drop]

/-- Links that stand one behind the other cut a text into pieces. -/
theorem exists_pieces {text : List Char} (offset : Nat) {links : List Link}
    (hlinks : ∀ l ∈ links, Enclosed text l)
    (hoffset : ∀ l ∈ links, ∀ s ∈ l.origin.span, offset ≤ s.start)
    (hpairs : links.Pairwise fun l m => ∀ s ∈ l.origin.span, ∀ t ∈ m.origin.span,
      s.stop ≤ t.start) :
    ∃ pieces rest, pieces.map Piece.link = links ∧ Placed offset pieces ∧
      text.drop offset = pieces.flatMap Piece.source ++ rest := by
  induction links generalizing offset with
  | nil => exact ⟨[], text.drop offset, rfl, trivial, rfl⟩
  | cons l links ih =>
    obtain ⟨⟨span, inner, hspan, hstop, hslice⟩, hlinks⟩ := List.forall_mem_cons.mp hlinks
    obtain ⟨hbehind, hpairs⟩ := List.pairwise_cons.mp hpairs
    have hstart := (List.forall_mem_cons.mp hoffset).1 span hspan
    obtain ⟨pieces, rest, hmap, hplaced, hdrop⟩ := ih span.stop hlinks
      (fun m hm t ht => hbehind m hm span hspan t ht) hpairs
    have hlength : span.stop - span.start = inner.length + 2 := by
      rw [← length_slice hstop, hslice]
      simp
    refine ⟨⟨Span.slice ⟨offset, span.start⟩ text, inner, l⟩ :: pieces, rest, ?_, ?_, ?_⟩
    · rw [List.map_cons, hmap]
    · have hkept : (Span.slice ⟨offset, span.start⟩ text).length = span.start - offset :=
        length_slice (by simp only; omega)
      have hbegin : offset + (span.start - offset) = span.start := Nat.add_sub_cancel' hstart
      have hend : offset + (span.start - offset + inner.length + 2) = span.stop := by omega
      rw [Placed, Piece.length_source, hkept, hbegin, hend]
      exact ⟨hspan, hplaced⟩
    · have hinner := drop_eq_slice_append span (by omega) text
      have hkept := drop_eq_slice_append ⟨offset, span.start⟩ hstart text
      rw [hinner, hslice, hdrop] at hkept
      rw [hkept, List.flatMap_cons, Piece.source]
      simp

/-! ## Pages -/

/-- A link that is written ends with a parenthesis. -/
theorem exists_tail_eq (x : Link.Inline) : ∃ inner, x.tail = inner ++ [')'] := by
  obtain ⟨used, htail, hlast, -⟩ := Link.of_destination? (x.tail_reads [])
  rw [List.append_nil, List.append_nil] at htail
  rw [htail]
  exact List.getLast?_eq_some_iff.mp hlast

/-- The links of a page stand in its text, behind the front matter. -/
theorem enclosed_of_mem {q : Page} (hoffset : q.bodyOffset ≤ q.text.length)
    (h : q.links.map (·.origin) = (Link.find q.text q.bodyOffset).map (·.origin)) {l : Link}
    (hl : l ∈ q.links) :
    Enclosed q.text l ∧ ∀ s ∈ l.origin.span, q.bodyOffset ≤ s.start := by
  have horigin : l.origin ∈ q.links.map (·.origin) := List.mem_map_of_mem hl
  rw [h] at horigin
  obtain ⟨m, hm, hml⟩ := List.mem_map.mp horigin
  obtain ⟨o, ho, rfl⟩ := Link.of_mem_find_occurrences hm
  have hspan : l.origin.span = some o.span := hml ▸ rfl
  constructor
  · obtain ⟨pre, x, rest, htext, rfl, -⟩ := Link.exists_inline_of_mem_occurrences hoffset ho
    obtain ⟨inner, htail⟩ := exists_tail_eq x
    refine ⟨_, inner, hspan, ?_, ?_⟩
    · rw [htext, List.length_append, List.length_append, x.length_text]
      simp only [Link.Inline.occurrence]
      omega
    · rw [htext, x.slice_span, htail]
      rfl
  · intro s hs
    cases hspan.symm.trans hs
    have hstart := Link.le_start_of_mem ho
    have hplace := Link.span_of_mem ho
    omega

/-- Whatever becomes of the links of a page, they cut its text into pieces, and the page is rendered
piece by piece. Their destinations lie one behind the other and behind the front matter, which is
kept. Without a changed link all of the text is kept. -/
theorem render_splices {file below : Path} {text : List Char} {p : Page}
    (h : ofText file below text = .ok p) (links : List Link)
    (hlinks : links.map (·.origin) = p.links.map (·.origin)) :
    (∃ pieces rest, pieces.map Piece.link = links ∧ Placed 0 pieces ∧
      text = pieces.flatMap Piece.source ++ rest ∧
      render { p with links := links } = pieces.flatMap Piece.rendered ++ rest) ∧
    (∀ l ∈ links, ∃ span, l.origin.span = some span ∧ p.bodyOffset ≤ span.start ∧
      span.start < span.stop ∧ span.stop ≤ text.length) ∧
    (links.Pairwise fun l m => ∀ s ∈ l.origin.span, ∀ t ∈ m.origin.span,
      s.start < t.start ∧ s.stop ≤ t.start) ∧
    (∃ behind, render { p with links := links } = text.take p.bodyOffset ++ behind) ∧
    ((∀ l ∈ links, l.changed = false) → render { p with links := links } = text) := by
  obtain ⟨rfl, hfound⟩ := of_ofText h
  have hoffset := bodyOffset_le_of_ofText h
  have horigins : links.map (·.origin) = (Link.find p.text p.bodyOffset).map (·.origin) :=
    hlinks.trans (congrArg _ hfound)
  have hplaces := fun l (hl : l ∈ links) =>
    enclosed_of_mem (q := { p with links := links }) hoffset horigins hl
  have hspans : ∀ l ∈ links, ∃ span, l.origin.span = some span ∧ p.bodyOffset ≤ span.start ∧
      span.start < span.stop ∧ span.stop ≤ p.text.length := by
    intro l hl
    obtain ⟨⟨span, inner, hspan, hstop, hslice⟩, hbehind⟩ := hplaces l hl
    have hlength := (length_slice hstop).symm.trans (congrArg List.length hslice)
    refine ⟨span, hspan, hbehind span hspan, ?_, hstop⟩
    rw [List.length_append, List.length_cons] at hlength
    omega
  have hpairs := pairwise_links (q := { p with links := links }) horigins
  obtain ⟨pieces, rest, hpieces, hplaced, htext⟩ := exists_pieces 0
    (fun l hl => (hplaces l hl).1) (fun _ _ _ _ => Nat.zero_le _)
    (hpairs.imp fun hlm s hs t ht => (hlm s hs t ht).2.1)
  refine ⟨⟨pieces, rest, hpieces, hplaced, htext, ?_⟩, hspans,
    hpairs.imp fun hlm s hs t ht => ?_, ?_, fun hkept => render_of_unchanged hkept⟩
  · exact hpieces ▸ splice_pieces [] hplaced htext
  · have := hlm s hs t ht
    omega
  · have hedits : ∀ e ∈ edits { p with links := links },
        (p.text.take p.bodyOffset).length ≤ e.1.start := by
      intro e he
      obtain ⟨l, hl, -, hspan⟩ := exists_of_mem_edits he
      rw [List.length_take_of_le hoffset]
      exact (hplaces l hl).2 e.1 hspan
    have hfront := splice_of_le _ (p.text.drop p.bodyOffset) (Nat.zero_le _) hedits
    rw [List.take_append_drop] at hfront
    exact ⟨_, hfront⟩

namespace Sample

/-- A page with front matter and three links. -/
def linked : List Char :=
  "---\nid: a\n---\n[x](ref:x) [y]( /y 't' ) \\[i](ref:i)\n[z](ref:z)\n".toList

/-- The first link of the page gets a target with a blank and a title, the last one becomes plain
text, and the one between is kept. -/
def mend (l : Link) : Link :=
  if l.url = "ref:x" then { l with url := "/a b", title := some "\"" }
  else { l with inert := l.url = "ref:z" }

end Sample

theorem render_splices_sample : ∃ p,
    ofText Sample.location Sample.location Sample.linked = .ok p ∧
    (p.links.map Sample.mend).map (·.origin) = p.links.map (·.origin) ∧
    ∃ pieces rest, pieces.map Piece.link = p.links.map Sample.mend ∧ Placed 0 pieces ∧
      Sample.linked = pieces.flatMap Piece.source ++ rest ∧
      pieces.flatMap Piece.rendered ++ rest =
        ("---\nid: a\n---\n[x](</a b> \"\\\"\") [y]( /y 't' ) \\[i](ref:i)\n" ++
          "[z]\\(ref:z\\)\n").toList := by
  have hread : (FrontMatter.metadata Sample.location Sample.linked).isOk = true := by
    decide +kernel
  obtain ⟨fields, hfields⟩ :
      ∃ fields, FrontMatter.metadata Sample.location Sample.linked = .ok fields := by
    cases hmetadata : FrontMatter.metadata Sample.location Sample.linked with
    | error f =>
      rw [hmetadata] at hread
      cases hread
    | ok fields => exact ⟨fields, rfl⟩
  obtain ⟨p, hp, -, hoffset⟩ := exists_of_metadata hfields Sample.location
  have horigin : ∀ l, (Sample.mend l).origin = l.origin := by
    intro l
    rw [Sample.mend]
    split <;> rfl
  have hlinks : (p.links.map Sample.mend).map (·.origin) = p.links.map (·.origin) := by
    rw [List.map_map]
    exact List.map_congr_left fun l _ => horigin l
  obtain ⟨⟨pieces, rest, hpieces, hplaced, htext, hrender⟩, -⟩ := render_splices hp _ hlinks
  refine ⟨p, hp, hlinks, pieces, rest, hpieces, hplaced, htext, hrender.symm.trans ?_⟩
  obtain ⟨htext, hfound⟩ := of_ofText hp
  rw [render, hfound, htext, hoffset]
  dsimp only
  decide +kernel

end Crosslink.Page
