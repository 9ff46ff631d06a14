import Mathlib.Data.String.Basic
import Crosslink.Path

/-!
# Normal paths

The paths that are read are normal: none of their names is empty, a single dot or holds a
separator. A normal path is read back from its written form, so its text and its parts
determine it, and both orders of paths, by text and by parts, are linear on normal paths.
-/

namespace Crosslink.Path

/-- A name that a path keeps when it is read. -/
def IsNormalName (name : String) : Prop := name ≠ "" ∧ name ≠ "." ∧ '/' ∉ name.toList

instance (name : String) : Decidable (IsNormalName name) :=
  inferInstanceAs (Decidable (name ≠ "" ∧ name ≠ "." ∧ '/' ∉ name.toList))

/-- The names are those that reading can give. -/
def IsNormal (p : Path) : Prop := ∀ name ∈ p.segments, IsNormalName name

instance (p : Path) : Decidable p.IsNormal :=
  inferInstanceAs (Decidable (∀ name ∈ p.segments, IsNormalName name))

/-- The pieces between separators hold no separator. -/
theorem not_mem_of_mem_splitOn {sep : Char} {cs piece : List Char} (h : piece ∈ cs.splitOn sep) :
    sep ∉ piece := by
  induction cs generalizing piece with
  | nil =>
    rw [List.splitOn_nil, List.mem_singleton] at h
    rw [h]
    exact List.not_mem_nil
  | cons c rest ih =>
    rw [List.splitOn_cons_eq_if_modifyHead] at h
    split at h
    · rcases List.mem_cons.mp h with rfl | h
      · exact List.not_mem_nil
      · exact ih h
    · rename_i hc
      rcases hs : rest.splitOn sep with _ | ⟨first, later⟩
      · exact absurd hs (List.splitOn_ne_nil _ _)
      · rw [hs, List.modifyHead_cons] at h
        rcases List.mem_cons.mp h with rfl | h
        · have hfirst := ih (hs ▸ List.mem_cons_self)
          have hne : sep ≠ c := fun e => hc (by simp [e])
          simp [hne, hfirst]
        · exact ih (hs ▸ List.mem_cons_of_mem _ h)

/-- Every path that is read is normal. -/
theorem isNormal_ofString (s : String) : (ofString s).IsNormal := by
  intro name hname
  change name ∈ readSegments s.toList at hname
  obtain ⟨hmem, hkept⟩ := List.mem_filter.mp hname
  obtain ⟨piece, hpiece, rfl⟩ := List.mem_map.mp hmem
  simp only [Bool.and_eq_true, bne_iff_ne] at hkept
  refine ⟨hkept.1, hkept.2, ?_⟩
  rw [String.toList_ofList]
  exact not_mem_of_mem_splitOn hpiece

/-- Names that are normal are read back from their text. -/
theorem readSegments_intercalate {names : List String}
    (h : ∀ name ∈ names, IsNormalName name) :
    readSegments (String.intercalate "/" names).toList = names := by
  have htext : (String.intercalate "/" names).toList =
      ['/'].intercalate (names.map String.toList) := by
    rw [String.toList_intercalate]
    rfl
  rw [readSegments, htext]
  cases names with
  | nil => rfl
  | cons name rest =>
    rw [List.splitOn_intercalate]
    · rw [List.map_map, List.filter_eq_self.mpr]
      · exact List.map_id'' (fun _ => String.ofList_toList) _
      · intro s hs
        obtain ⟨name', hname, rfl⟩ := List.mem_map.mp hs
        obtain ⟨h₁, h₂, -⟩ := h name' hname
        simp [h₁, h₂]
    · intro cs hcs
      obtain ⟨s, hs, rfl⟩ := List.mem_map.mp hcs
      exact (h s hs).2.2
    · simp

theorem readSegments_slash (cs : List Char) : readSegments ('/' :: cs) = readSegments cs := by
  rw [readSegments, List.splitOn_cons_eq_if_modifyHead]
  simp [readSegments]

theorem leadingSlashes_slash (cs : List Char) :
    leadingSlashes ('/' :: cs) = leadingSlashes cs + 1 := by
  simp [leadingSlashes]

/-- The text of normal names does not begin with a separator. -/
theorem leadingSlashes_intercalate {names : List String}
    (h : ∀ name ∈ names, IsNormalName name) :
    leadingSlashes (String.intercalate "/" names).toList = 0 := by
  cases names with
  | nil => rfl
  | cons name rest =>
    obtain ⟨hname, -, hslash⟩ := h name List.mem_cons_self
    rcases hcs : name.toList with _ | ⟨c, cs⟩
    · exact absurd (String.toList_eq_nil_iff.mp hcs) hname
    · have hc : c ≠ '/' := fun e => hslash (by simp [hcs, e])
      have hcut : ∀ tail, leadingSlashes (name.toList ++ tail) = 0 := by
        intro tail
        simp [leadingSlashes, hcs, hc]
      rw [String.toList_intercalate]
      cases rest with
      | nil => simpa [List.intercalate] using hcut []
      | cons other rest =>
        simpa [List.intercalate] using hcut _

/-- A normal path is read back from its written form. -/
theorem ofString_toString {p : Path} (h : p.IsNormal) : ofString p.toString = p := by
  obtain ⟨anchor, segments⟩ := p
  have hread := readSegments_intercalate h
  have hlead := leadingSlashes_intercalate h
  by_cases hempty : anchor = .relative ∧ segments = []
  · obtain ⟨rfl, rfl⟩ := hempty
    rfl
  · have htext : (Path.mk anchor segments).toString.toList =
        anchor.text.toList ++ (String.intercalate "/" segments).toList := by
      rw [toString, if_neg hempty, String.toList_append]
    rw [ofString, htext]
    cases anchor with
    | relative =>
      have hnone : Anchor.relative.text.toList = [] := rfl
      simp only [hnone, List.nil_append, hlead, hread]
    | root =>
      have hslash : Anchor.root.text.toList = ['/'] := rfl
      simp only [hslash, List.cons_append, List.nil_append, leadingSlashes_slash, hlead,
        readSegments_slash, hread]
    | doubleRoot =>
      have hslashes : Anchor.doubleRoot.text.toList = ['/', '/'] := rfl
      simp only [hslashes, List.cons_append, List.nil_append, leadingSlashes_slash, hlead,
        readSegments_slash, hread]

/-- Normal paths with the same text are the same. -/
theorem toString_inj {p q : Path} (hp : p.IsNormal) (hq : q.IsNormal)
    (h : p.toString = q.toString) : p = q := by
  rw [← ofString_toString hp, h, ofString_toString hq]

/-- Normal paths with the same parts are the same: no name is the text of a root. -/
theorem parts_inj {p q : Path} (hp : p.IsNormal) (hq : q.IsNormal) (h : p.parts = q.parts) :
    p = q := by
  have hroot : ∀ {names rest : List String} {a : Anchor}, a ≠ .relative →
      (∀ name ∈ names, IsNormalName name) → names ≠ a.text :: rest := by
    rintro names rest a ha hnames rfl
    have hslash := (hnames a.text List.mem_cons_self).2.2
    cases a with
    | relative => exact ha rfl
    | root => exact hslash (by decide)
    | doubleRoot => exact hslash (by decide)
  obtain ⟨a, names⟩ := p
  obtain ⟨b, names'⟩ := q
  cases a <;> cases b <;> simp only [parts] at h
  · rw [h]
  · exact absurd h (hroot (by decide) hp)
  · exact absurd h (hroot (by decide) hp)
  · exact absurd h.symm (hroot (by decide) hq)
  · rw [(List.cons.inj h).2]
  · exact absurd (List.cons.inj h).1 (by decide)
  · exact absurd h.symm (hroot (by decide) hq)
  · exact absurd (List.cons.inj h).1 (by decide)
  · rw [(List.cons.inj h).2]

theorem namesLe_total (as bs : List String) : (namesLe as bs || namesLe bs as) = true := by
  induction as generalizing bs with
  | nil => rfl
  | cons a as ih =>
    cases bs with
    | nil => rfl
    | cons b bs =>
      simp only [namesLe]
      by_cases h : a = b
      · simpa [h] using ih bs
      · have h' : ¬ b = a := fun e => h e.symm
        rcases lt_or_gt_of_ne h with hlt | hlt <;> simp [h, h', hlt]

theorem namesLe_trans {as bs cs : List String} (h : namesLe as bs = true)
    (h' : namesLe bs cs = true) : namesLe as cs = true := by
  induction as generalizing bs cs with
  | nil => rfl
  | cons a as ih =>
    rcases bs with _ | ⟨b, bs⟩
    · cases h
    rcases cs with _ | ⟨c, cs⟩
    · cases h'
    rw [namesLe] at h h' ⊢
    by_cases hab : a = b
    · subst hab
      by_cases hac : a = c
      · subst hac
        simp only [beq_self_eq_true, if_true] at h h' ⊢
        exact ih h h'
      · simpa [hac] using h'
    · have hlt : a < b := by simpa [hab] using h
      by_cases hbc : b = c
      · subst hbc
        simpa [hab] using hlt
      · have hlt' : b < c := by simpa [hbc] using h'
        simp [hlt.trans hlt', (hlt.trans hlt').ne]

theorem namesLe_antisymm {as bs : List String} (h : namesLe as bs = true)
    (h' : namesLe bs as = true) : as = bs := by
  induction as generalizing bs with
  | nil =>
    rcases bs with _ | ⟨b, bs⟩
    · rfl
    · cases h'
  | cons a as ih =>
    rcases bs with _ | ⟨b, bs⟩
    · cases h
    rw [namesLe] at h h'
    by_cases hab : a = b
    · subst hab
      simp only [beq_self_eq_true, if_true] at h h'
      rw [ih h h']
    · have hlt : a < b := by simpa [hab] using h
      have hgt : b < a := by simpa [Ne.symm hab] using h'
      exact absurd hgt hlt.asymm

theorem le_total (p q : Path) : (p.le q || q.le p) = true := namesLe_total _ _

theorem le_trans {p q r : Path} (h : p.le q = true) (h' : q.le r = true) : p.le r = true :=
  namesLe_trans h h'

/-- The order of paths by their parts is linear on normal paths. -/
theorem le_antisymm {p q : Path} (hp : p.IsNormal) (hq : q.IsNormal) (h : p.le q = true)
    (h' : q.le p = true) : p = q :=
  parts_inj hp hq (namesLe_antisymm h h')

/-- Normal paths have one order by their parts, however they are given. -/
theorem mergeSort_congr {ps qs : List Path} (hn : ∀ p ∈ ps, p.IsNormal) (h : ps.Perm qs) :
    ps.mergeSort le = qs.mergeSort le := by
  have hsorted : ∀ l : List Path, (l.mergeSort le).Pairwise fun p q => p.le q = true :=
    @List.pairwise_mergeSort _ le (fun _ _ _ => le_trans) le_total
  refine List.Perm.eq_of_pairwise ?_ (hsorted ps) (hsorted qs)
    ((List.mergeSort_perm ps le).trans (h.trans (List.mergeSort_perm qs le).symm))
  intro p q hp hq
  have hp' : p ∈ ps := (List.mergeSort_perm ps le).mem_iff.mp hp
  have hq' : q ∈ ps := h.mem_iff.mpr ((List.mergeSort_perm qs le).mem_iff.mp hq)
  exact le_antisymm (hn p hp') (hn q hq')

/-- The order of paths by their text. -/
def textLe (p q : Path) : Bool := !decide (q.toString < p.toString)

theorem textLe_iff {p q : Path} : p.textLe q = true ↔ p.toString ≤ q.toString := by
  rw [textLe, Bool.not_eq_true', decide_eq_false_iff_not, String.not_lt]

theorem textLe_total (p q : Path) : (p.textLe q || q.textLe p) = true := by
  rw [Bool.or_eq_true, textLe_iff, textLe_iff]
  exact String.le_total _ _

theorem textLe_trans {p q r : Path} (h : p.textLe q = true) (h' : q.textLe r = true) :
    p.textLe r = true :=
  textLe_iff.mpr (String.le_trans (textLe_iff.mp h) (textLe_iff.mp h'))

/-- The order of paths by their text is linear on normal paths. -/
theorem textLe_antisymm {p q : Path} (hp : p.IsNormal) (hq : q.IsNormal)
    (h : p.textLe q = true) (h' : q.textLe p = true) : p = q :=
  toString_inj hp hq (String.le_antisymm (textLe_iff.mp h) (textLe_iff.mp h'))

/-! ## What is sorted by a path -/

section Sorting

variable {α : Type} (f : α → Path) (before : Path → Path → Bool)

/-- Sorting keeps the order of what has the same path. -/
theorem filter_mergeSort
    (htrans : ∀ {p q r : Path}, before p q = true → before q r = true → before p r = true)
    (htotal : ∀ p q : Path, (before p q || before q p) = true) (xs : List α) (p : Path) :
    (xs.mergeSort fun x y => before (f x) (f y)).filter (fun x => decide (f x = p)) =
      xs.filter fun x => decide (f x = p) := by
  have hrefl : before p p = true := by simpa using htotal p p
  have hsorted : (xs.filter fun x => decide (f x = p)).Pairwise
      fun x y => before (f x) (f y) = true :=
    List.pairwise_of_forall_mem_list fun x hx y hy => by
      rw [of_decide_eq_true (List.mem_filter.mp hx).2, of_decide_eq_true (List.mem_filter.mp hy).2]
      exact hrefl
  have htrans' : ∀ x y z : α, before (f x) (f y) = true → before (f y) (f z) = true →
      before (f x) (f z) = true := fun _ _ _ => htrans
  have hkept := List.sublist_mergeSort htrans' (fun _ _ => htotal _ _) hsorted
    List.filter_sublist
  have hsub := hkept.filter fun x => decide (f x = p)
  rw [List.filter_filter] at hsub
  simp only [Bool.and_self] at hsub
  exact (hsub.eq_of_length ((List.mergeSort_perm xs _).symm.filter _).length_eq).symm

/-- Lists in the order of their normal paths are the same if they are the same path by path. -/
theorem eq_of_filter_eq
    (hanti : ∀ {p q : Path}, p.IsNormal → q.IsNormal → before p q = true → before q p = true →
      p = q)
    {xs ys : List α} (hn : ∀ x ∈ xs, (f x).IsNormal)
    (hxs : xs.Pairwise fun x y => before (f x) (f y) = true)
    (hys : ys.Pairwise fun x y => before (f x) (f y) = true)
    (h : ∀ p, xs.filter (fun x => decide (f x = p)) = ys.filter fun x => decide (f x = p)) :
    xs = ys := by
  induction xs generalizing ys with
  | nil =>
    cases ys with
    | nil => rfl
    | cons y ys => simpa using h (f y)
  | cons x xs ih =>
    cases ys with
    | nil => simpa using h (f x)
    | cons y ys =>
      have hmem : ∀ z, z ∈ x :: xs ↔ z ∈ y :: ys := fun z => by
        have hfilter : z ∈ (x :: xs).filter (fun w => decide (f w = f z)) ↔
            z ∈ (y :: ys).filter fun w => decide (f w = f z) := by rw [h]
        simpa using hfilter
      have hy : y ∈ x :: xs := (hmem y).mpr List.mem_cons_self
      have hpath : f x = f y := by
        rcases List.mem_cons.mp hy with rfl | hxy
        · rfl
        rcases List.mem_cons.mp ((hmem x).mp List.mem_cons_self) with rfl | hyx
        · rfl
        exact hanti (hn x List.mem_cons_self) (hn y hy)
          ((List.pairwise_cons.mp hxs).1 y hxy) ((List.pairwise_cons.mp hys).1 x hyx)
      have hheads := h (f y)
      rw [List.filter_cons_of_pos (by simpa using hpath), List.filter_cons_of_pos (by simp)]
        at hheads
      obtain rfl := (List.cons.inj hheads).1
      have hrest : ∀ p, xs.filter (fun z => decide (f z = p)) =
          ys.filter fun z => decide (f z = p) := fun p => by
        have hp := h p
        by_cases hx : f x = p
        · rw [List.filter_cons_of_pos (by simpa using hx),
            List.filter_cons_of_pos (by simpa using hx)] at hp
          exact (List.cons.inj hp).2
        · rwa [List.filter_cons_of_neg (by simpa using hx),
            List.filter_cons_of_neg (by simpa using hx)] at hp
      rw [ih (fun z hz => hn z (List.mem_cons_of_mem _ hz)) (List.pairwise_cons.mp hxs).2
        (List.pairwise_cons.mp hys).2 hrest]

end Sorting

/-- What is sorted by the text of paths stands in that order. -/
theorem pairwise_mergeSort_text {α : Type} (f : α → Path) (l : List α) :
    (l.mergeSort fun a b => (f a).textLe (f b)).Pairwise
      fun a b => (f a).textLe (f b) = true :=
  @List.pairwise_mergeSort _ (fun a b => (f a).textLe (f b)) (fun _ _ _ => textLe_trans)
    (fun _ _ => textLe_total _ _) l

end Crosslink.Path
