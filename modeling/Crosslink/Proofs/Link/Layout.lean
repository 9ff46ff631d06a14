import Crosslink.Page.Basic
import Crosslink.Proofs.Link.Inline

/-!
# Texts laid out by their links

Between the links of a text there may be brackets that begin none. Whether one of them does may
depend on what comes after it, even on the destination of a later link. A text is laid out if this
is not so: no link begins in the stretches between links, whatever follows them. The links of such
a text are found one by one, and stay so when some of them get other destinations and others are
made plain text.
-/

namespace Crosslink.Link

open Text (Span)

/-- The character before what follows some characters. -/
def lastOf : (before : Option Char) → List Char → Option Char
  | before, [] => before
  | _, c :: cs => lastOf (some c) cs

/-- No link begins among the characters, whatever follows them. -/
def Barren : (before : Option Char) → List Char → Prop
  | _, [] => True
  | before, c :: cs =>
    (guards before = false →
      ∀ offset rest, occurrenceAt? offset (c :: cs ++ rest) = none) ∧ Barren (some c) cs

/-- Stretches in which no link begins, whatever follows, with links between them whose
destinations satisfy a condition. -/
inductive Laid (P : Destination → Prop) : (before : Option Char) → List Char → Prop
  | stretch {before : Option Char} {cs : List Char} (h : Barren before cs) : Laid P before cs
  | link {before : Option Char} {cs rest : List Char} (x : Inline) (h : Barren before cs)
      (hbefore : guards (lastOf before cs) = false) (hx : P x.destination)
      (hrest : Laid P (some ')') rest) : Laid P before (cs ++ (x.text ++ rest))

variable {P Q : Destination → Prop} {before : Option Char} {offset : Nat} {cs ds rest : List Char}

theorem lastOf_append (before : Option Char) (cs ds : List Char) :
    lastOf before (cs ++ ds) = lastOf (lastOf before cs) ds := by
  induction cs generalizing before with
  | nil => rfl
  | cons c cs ih => exact ih (some c)

theorem lastOf_eq (before : Option Char) (cs : List Char) :
    lastOf before cs = cs.getLast?.or before := by
  induction cs generalizing before with
  | nil => rfl
  | cons c cs ih =>
    rw [lastOf, ih, List.getLast?_cons]
    cases cs.getLast? <;> rfl

theorem lastOf_eq_of_getLast? {c : Char} (h : cs.getLast? = some c) :
    lastOf before cs = some c := by
  rw [lastOf_eq, h, Option.some_or]

namespace Barren

theorem append (h : Barren before cs) (hds : Barren (lastOf before cs) ds) :
    Barren before (cs ++ ds) := by
  induction cs generalizing before with
  | nil => exact hds
  | cons c cs ih =>
    refine ⟨fun hg offset rest => ?_, ih h.2 hds⟩
    have hnone := h.1 hg offset (ds ++ rest)
    rwa [← List.append_assoc] at hnone

/-- No link begins where there is no opening bracket. -/
theorem of_not_mem (h : '[' ∉ cs) : Barren before cs := by
  induction cs generalizing before with
  | nil => trivial
  | cons c cs ih =>
    refine ⟨fun _ offset rest => ?_, ih fun hmem => h (List.mem_cons_of_mem c hmem)⟩
    unfold occurrenceAt?
    split
    · rename_i heq
      cases heq
      exact absurd List.mem_cons_self h
    · rfl

/-- A link whose destination is escaped is none, and no other one begins in it if it holds no
other opening bracket. -/
theorem of_escaped {label tail : List Char} (hlabel : Reads (label? false) (label ++ [']']) label)
    (hno : '[' ∉ label ++ tail) : Barren before ('[' :: (label ++ ']' :: '\\' :: tail)) := by
  refine ⟨fun _ offset rest => ?_, of_not_mem (by simpa using hno)⟩
  have hread := hlabel ('\\' :: tail ++ rest)
  rw [List.append_assoc, List.singleton_append] at hread
  rw [List.cons_append, List.append_assoc, List.cons_append, occurrenceAt?, hread]
  rfl

end Barren

/-! ## Finding the links -/

/-- Characters that belong to a link are passed over. -/
theorem occurrencesFrom_skip (cs : List Char) (before : Option Char) (offset : Nat)
    (rest : List Char) : occurrencesFrom cs.length before offset (cs ++ rest) =
      occurrencesFrom 0 (lastOf before cs) (offset + cs.length) rest := by
  induction cs generalizing before offset with
  | nil => rfl
  | cons c cs ih =>
    rw [List.length_cons, List.cons_append, occurrencesFrom, ih, lastOf, Nat.add_right_comm,
      Nat.add_assoc]

/-- No link is found in a stretch in which none begins. -/
theorem occurrencesFrom_barren (h : Barren before cs) (offset : Nat) (rest : List Char) :
    occurrencesFrom 0 before offset (cs ++ rest) =
      occurrencesFrom 0 (lastOf before cs) (offset + cs.length) rest := by
  induction cs generalizing before offset with
  | nil => rfl
  | cons c cs ih =>
    have hnone : (if guards before then none else occurrenceAt? offset (c :: (cs ++ rest))) =
        none := by
      cases hg : guards before with
      | true => rfl
      | false => exact h.1 hg offset rest
    rw [List.cons_append, occurrencesFrom, hnone, lastOf, List.length_cons]
    simp only
    rw [ih h.2, Nat.add_right_comm, Nat.add_assoc]

/-- A link is found where it begins, and the search goes on after it. -/
theorem occurrencesFrom_text (x : Inline) (h : guards before = false) (offset : Nat)
    (rest : List Char) : occurrencesFrom 0 before offset (x.text ++ rest) =
      x.occurrence offset :: occurrencesFrom 0 (some ')') (offset + x.text.length) rest := by
  have hfound := x.occurrenceAt?_text offset rest
  have hlast : lastOf before x.text = some ')' := lastOf_eq_of_getLast? x.getLast?_text
  obtain ⟨cs, hcs⟩ : ∃ cs, x.text = '[' :: cs := ⟨_, rfl⟩
  have hskip : (x.occurrence offset).span.stop - offset - 1 = cs.length := by
    have hlength := x.length_text
    rw [hcs, List.length_cons] at hlength
    simp only [Inline.occurrence]
    omega
  rw [hcs, lastOf] at hlast
  rw [hcs, List.cons_append] at hfound ⊢
  rw [occurrencesFrom, h]
  simp only [hfound, Bool.false_eq_true, if_false]
  rw [hskip, occurrencesFrom_skip, hlast, List.length_cons, Nat.add_right_comm, Nat.add_assoc]

namespace Laid

/-- A link by itself is laid out. -/
theorem inline (x : Inline) (hx : P x.destination) : Laid P none x.text := by
  have h : Laid P none ([] ++ (x.text ++ [])) := .link x trivial rfl hx (.stretch trivial)
  rwa [List.nil_append, List.append_nil] at h

/-- All links of a text that is laid out satisfy the condition. -/
theorem of_mem (h : Laid P before cs) {o : Occurrence}
    (ho : o ∈ occurrencesFrom 0 before offset cs) : P o.destination := by
  induction h generalizing offset with
  | @stretch before cs h =>
    rw [← List.append_nil cs, occurrencesFrom_barren h] at ho
    cases ho
  | link x h hbefore hx _ ih =>
    rw [occurrencesFrom_barren h, occurrencesFrom_text x hbefore] at ho
    rcases List.mem_cons.mp ho with rfl | ho
    · exact hx
    · exact ih ho

/-- A stretch before a text that is laid out joins its first stretch. -/
theorem prepend (hcs : Barren before cs) (h : Laid P (lastOf before cs) rest) :
    Laid P before (cs ++ rest) := by
  cases h with
  | stretch h => exact .stretch (hcs.append h)
  | link x h hbefore hx hrest =>
    rw [← List.append_assoc]
    exact .link x (hcs.append h) (by rwa [lastOf_append]) hx hrest

end Laid

/-! ## Other destinations -/

/-- A link whose destination is replaced is a link to another destination, or no link. -/
inductive Settles (P : Destination → Prop) (o : Occurrence) : Option (List Char) → Prop
  | kept (h : P o.destination) : Settles P o none
  | moved {tail : List Char} {d : Destination} (hread : Reads destination? tail d) (h : P d) :
      Settles P o (some ('(' :: tail))
  | ended {new : List Char} (hnew : new.getLast? = some ')')
      (h : ∀ before, Barren before ('[' :: (o.text ++ ']' :: new))) : Settles P o (some new)

/-- What a span covers that ends with the first part of a text. -/
theorem slice_prefix (pre rest : List Char) (start : Nat) :
    Span.slice ⟨start, pre.length⟩ (pre ++ rest) = pre.drop start := by
  rw [Span.slice]
  rcases Nat.le_total start pre.length with h | h
  · rw [List.drop_append_of_le_length h, ← List.length_drop, List.take_left]
  · rw [Nat.sub_eq_zero_of_le h, List.take_zero, List.drop_eq_nil_of_le h]

/-- The label of a link in its brackets, which is kept. -/
def Inline.head (x : Inline) : List Char := '[' :: (x.label ++ [']'])

theorem Inline.text_eq (x : Inline) : x.text = x.head ++ '(' :: x.tail := by
  simp [text, head]

/-- Behind some characters the destination stands between the label and the end of the link. -/
theorem Inline.span_occurrence (x : Inline) (pre : List Char) :
    (x.occurrence pre.length).span = ⟨(pre ++ x.head).length, (pre ++ x.text).length⟩ := by
  simp [occurrence, head, text]
  omega

/-- Where a link gets a new destination, what is before it and its label stay, and the text goes on
behind the link. -/
theorem Inline.splice_cons (x : Inline) {pre : List Char} {start : Nat}
    (hstart : start ≤ pre.length) (rest new : List Char) (edits : List (Span × List Char)) :
    Page.splice (pre ++ x.text ++ rest) start (((x.occurrence pre.length).span, new) :: edits) =
      pre.drop start ++ (x.head ++ (new ++
        Page.splice (pre ++ x.text ++ rest) (pre ++ x.text).length edits)) := by
  have hfront : pre ++ x.text ++ rest = pre ++ x.head ++ ('(' :: x.tail ++ rest) := by
    simp [x.text_eq]
  rw [Page.splice, x.span_occurrence, hfront, slice_prefix,
    List.drop_append_of_le_length hstart]
  simp

/-- Where the links of a text that is laid out settle, the text with their new destinations is
laid out again. -/
theorem Laid.splice (h : Laid Q before cs) {pre : List Char} {start : Nat}
    (hstart : start ≤ pre.length) {new? : Occurrence → Option (List Char)}
    (hnew : ∀ o ∈ occurrencesFrom 0 before pre.length cs, Settles P o (new? o)) :
    ∃ cs', Laid P before cs' ∧
      Page.splice (pre ++ cs) start ((occurrencesFrom 0 before pre.length cs).filterMap
        fun o => (new? o).map (o.span, ·)) = pre.drop start ++ cs' := by
  induction h generalizing pre start with
  | @stretch before cs h =>
    have hnone : occurrencesFrom 0 before pre.length cs = [] := by
      rw [← List.append_nil cs, occurrencesFrom_barren h]
      rfl
    refine ⟨cs, .stretch h, ?_⟩
    rw [hnone, List.filterMap_nil, Page.splice, List.drop_append_of_le_length hstart]
  | @link before cs rest x h hbefore _ _ ih =>
    have hfound : occurrencesFrom 0 before pre.length (cs ++ (x.text ++ rest)) =
        x.occurrence (pre ++ cs).length ::
          occurrencesFrom 0 (some ')') (pre ++ cs ++ x.text).length rest := by
      rw [occurrencesFrom_barren h, occurrencesFrom_text x hbefore, ← List.length_append,
        ← List.length_append]
    rw [hfound] at hnew ⊢
    obtain ⟨hx, hrest⟩ := List.forall_mem_cons.mp hnew
    have htext : pre ++ (cs ++ (x.text ++ rest)) = pre ++ cs ++ x.text ++ rest := by simp
    have hdrop : (pre ++ cs).drop start = pre.drop start ++ cs :=
      List.drop_append_of_le_length hstart
    have hstart : start ≤ (pre ++ cs).length := by
      rw [List.length_append]
      omega
    rw [htext]
    generalize hn : new? (x.occurrence (pre ++ cs).length) = n at hx
    cases hx with
    | kept hP =>
      have hkept : start ≤ (pre ++ cs ++ x.text).length := by
        rw [List.length_append]
        omega
      obtain ⟨cs', hlaid, hsplice⟩ := ih hkept hrest
      refine ⟨cs ++ (x.text ++ cs'), .link x h hbefore hP hlaid, ?_⟩
      rw [List.filterMap_cons_none (by rw [hn]; rfl), hsplice,
        List.drop_append_of_le_length hstart, hdrop]
      simp
    | @moved tail d hread hP =>
      obtain ⟨cs', hlaid, hsplice⟩ := ih (Nat.le_refl _) hrest
      refine ⟨_, .link ⟨x.label, tail, d, x.label_reads, hread⟩ h hbefore hP hlaid, ?_⟩
      rw [List.filterMap_cons_some (by rw [hn]; rfl), x.splice_cons hstart, hsplice, hdrop,
        List.drop_length]
      simp [Inline.text, Inline.head]
    | @ended new hlast hbarren =>
      obtain ⟨cs', hlaid, hsplice⟩ := ih (Nat.le_refl _) hrest
      have hend : lastOf (lastOf before cs) (x.head ++ new) = some ')' :=
        lastOf_eq_of_getLast? (by simp [List.getLast?_append, hlast])
      have hpiece : Barren (lastOf before cs) (x.head ++ new) := by
        have h := hbarren (lastOf before cs)
        rwa [Inline.occurrence, ← List.singleton_append (l := new), ← List.append_assoc] at h
      refine ⟨cs ++ (x.head ++ new ++ cs'), .prepend h (.prepend hpiece (hend ▸ hlaid)), ?_⟩
      rw [List.filterMap_cons_some (by rw [hn]; rfl), x.splice_cons hstart, hsplice, hdrop,
        List.drop_length]
      simp

end Crosslink.Link
