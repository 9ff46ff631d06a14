import Crosslink.Proofs.Build.Accounting
import Crosslink.Proofs.Build.Registration
import Crosslink.Proofs.Link.Inline
import Crosslink.Proofs.Link.Token
import Crosslink.Proofs.Text.PercentEncoding
import Crosslink.Proofs.Text.Strip

/-!
# Addresses that are written

The target of a link that is rewritten is made of a canonical path, which is percent-encoded, or of
the address of the repository, and of what its token holds. Blanks and parentheses end the parts of
a token, and no target that is read holds angle brackets, so the new target can stand without them.
-/

namespace Crosslink

namespace Text

/-- The characters of texts that are joined are those of the texts and of the separator. -/
theorem mem_intercalate {sep : List Char} {texts : List (List Char)} {c : Char}
    (h : c ∈ sep.intercalate texts) : c ∈ sep ∨ ∃ cs ∈ texts, c ∈ cs := by
  induction texts with
  | nil => cases h
  | cons cs texts ih =>
    cases texts with
    | nil => exact .inr ⟨cs, List.mem_cons_self, by simpa [List.intercalate] using h⟩
    | cons ds texts =>
      rw [List.intercalate_cons_cons] at h
      rcases List.mem_append.mp h with h | h
      · rcases List.mem_append.mp h with h | h
        · exact .inr ⟨cs, List.mem_cons_self, h⟩
        · exact .inl h
      · exact (ih h).imp_right fun ⟨es, hes, hc⟩ => ⟨es, List.mem_cons_of_mem _ hes, hc⟩

end Text

/-! ## Parts of a token -/

namespace Target

theorem mem_of_mem_unwrap {c : Char} {cs : List Char} (h : c ∈ unwrap cs) : c ∈ cs := by
  refine Text.mem_of_mem_trim ?_
  unfold unwrap at h
  split at h
  · rename_i rest hrest
    rw [hrest]
    split at h
    · exact List.mem_cons_of_mem _ ((List.dropLast_sublist _).subset (Text.mem_of_mem_trim h))
    · exact h
  · exact h

/-- The anchor or path of a target holds no break, and only characters of a text. -/
def PartsIn (cs : List Char) : Target → Prop
  | .reference _ part | .repository part =>
    ∀ s ∈ part, ∀ c ∈ s.toList, isBreak c = false ∧ c ∈ cs
  | .plain _ => True

/-- The parts that a text spells come from the text. -/
theorem Spells.partsIn {cs u : List Char} {t : Target} (h : Spells u t) (hu : ∀ c ∈ u, c ∈ cs) :
    t.PartsIn cs := by
  cases h with
  | reference | repository => nofun
  | anchored hmark hidentifier _ hanchor _ =>
    intro s hs c hc
    rw [(toList_of_mem_nonEmpty? hs).1] at hc
    refine ⟨by simpa using hanchor.all c hc, hu c ?_⟩
    rw [hmark, hidentifier.written, hanchor.written]
    simp [hc]
  | located hmark hpath _ =>
    intro s hs c hc
    rw [(toList_of_mem_nonEmpty? hs).1] at hc
    have hc := (List.dropWhile_sublist _).subset hc
    refine ⟨by simpa using hpath.all c hc, hu c ?_⟩
    rw [hmark, hpath.written]
    simp [hc]

/-- The parts of a target come from the text that it is read from. -/
theorem partsIn_ofString (raw : String) : (ofString raw).PartsIn raw.toList := by
  cases htarget : ofString raw with
  | plain url => trivial
  | reference identifier part | repository part =>
    exact ((ofString_eq_iff (by simp)).mp htarget).partsIn fun c => mem_of_mem_unwrap

end Target

/-! ## Bare addresses -/

/-- Letters, digits and the marks that are not escaped are bare. -/
theorem Link.isBareChar_of_isUnreserved {c : Char}
    (h : Text.PercentEncoding.isUnreserved c = true) : isBareChar c = true := by
  have hrange : 48 ≤ c.toNat ∧ c.toNat ≤ 57 ∨ 65 ≤ c.toNat ∧ c.toNat ≤ 90 ∨
      97 ≤ c.toNat ∧ c.toNat ≤ 122 → isBareChar c = true := by
    intro hc
    have hblank : Text.isBlank c = false := by
      simp only [Text.isBlank, Bool.or_eq_false_iff, Bool.and_eq_false_iff, decide_eq_false_iff_not,
        beq_eq_false_iff_ne]
      omega
    have hmark : c ≠ '(' ∧ c ≠ ')' ∧ c ≠ '<' ∧ c ≠ '>' := by
      refine ⟨?_, ?_, ?_, ?_⟩ <;> rintro rfl <;> exact absurd hc (by decide)
    simp [isBareChar, hblank, hmark]
  simp only [Text.PercentEncoding.isUnreserved, Bool.or_eq_true, beq_iff_eq] at h
  rcases h with (((h | rfl) | rfl) | rfl) | rfl
  · have hclass : c.isAlphanum = (decide (c.val ≥ 'A'.val ∧ c.val ≤ 'Z'.val) ||
        (decide (c.val ≥ 'a'.val) && decide (c.val ≤ 'z'.val)) ||
        (decide (c.val ≥ '0'.val) && decide (c.val ≤ '9'.val))) := rfl
    rw [hclass] at h
    simp only [Bool.or_eq_true, Bool.and_eq_true, decide_eq_true_eq, ge_iff_le,
      UInt32.le_iff_toNat_le, Char.reduceVal, UInt32.reduceToNat, Char.toNat_val] at h
    exact hrange (by omega)
  all_goals decide

namespace Link.Bare

theorem append {s t : String} (hs : Bare s) (ht : Bare t) : Bare (s ++ t) := by
  intro c hc
  rw [String.toList_append, List.mem_append] at hc
  exact hc.elim (hs c) (ht c)

/-- What holds neither breaks nor angle brackets is bare. -/
theorem of_part {cs : List Char} (hcs : ∀ c ∈ cs, c ≠ '<' ∧ c ≠ '>') {s : String}
    (h : ∀ c ∈ s.toList, Target.isBreak c = false ∧ c ∈ cs) : Bare s := by
  intro c hc
  obtain ⟨hbreak, hmem⟩ := h c hc
  obtain ⟨hopen, hclose⟩ := hcs c hmem
  simp_all [Target.isBreak, isBareChar]

/-- Percent-encoded text is bare. -/
theorem encodeString (s : String) : Bare (Text.PercentEncoding.encodeString s) := by
  intro c hc
  rw [Text.PercentEncoding.encodeString, String.toList_ofList] at hc
  rcases Text.PercentEncoding.of_mem_encode hc with hunreserved | rfl
  · exact isBareChar_of_isUnreserved hunreserved
  · decide

theorem sitePath (segments : List String) : Bare (Location.sitePath segments) := by
  refine append (by decide) fun c hc => ?_
  rw [String.toList_intercalate] at hc
  rcases Text.mem_intercalate hc with hc | ⟨cs, hcs, hc⟩
  · obtain rfl := List.mem_singleton.mp hc
    decide
  · rw [List.map_map] at hcs
    obtain ⟨s, -, rfl⟩ := List.mem_map.mp hcs
    exact encodeString s c hc

theorem urlFor {policy : Policy} (hbase : Bare policy.repoBaseUrl)
    (hbranch : Bare policy.defaultBranch) {path : Option String} (hpath : ∀ s ∈ path, Bare s) :
    Bare (policy.urlFor path) := by
  have hstrip : ∀ {c : Char} {s : String}, Bare s → Bare (Text.stripEnd c s) := by
    intro c s hs d hd
    exact hs d (Text.mem_of_mem_dropEndWhile (by simpa [Text.stripEnd] using hd))
  have hstrip' : ∀ {c : Char} {s : String}, Bare s → Bare (Text.stripStart c s) := by
    intro c s hs d hd
    exact hs d ((List.dropWhile_sublist _).subset (by simpa [Text.stripStart] using hd))
  cases path with
  | none => exact hstrip hbase
  | some s =>
    have htree : Bare "/tree/" := by decide
    have hslash : Bare "/" := by decide
    exact append (append (append (append (hstrip hbase) htree) (hstrip (hstrip' hbranch))) hslash)
      (hpath s rfl)

/-- The target of a token that is rewritten is bare. -/
theorem fate {policy : Policy} {r : Registry} {file : Path} (hbase : Bare policy.repoBaseUrl)
    (hbranch : Bare policy.defaultBranch) (hr : ∀ x ∈ r.records, Bare x.canonicalPath) {l m : Link}
    (hm : m = (Resolution.fate policy r file l).link l)
    (hl : ∀ c ∈ l.url.toList, c ≠ '<' ∧ c ≠ '>') (htoken : l.isToken = true)
    (hinert : m.inert = false) : Bare m.url := by
  have hparts := Target.partsIn_ofString l.url
  obtain ⟨n, is, hbecomes⟩ : ∃ n is, l.Becomes policy r file m n is :=
    ⟨_, _, hm ▸ becomes_fate l⟩
  cases hbecomes with
  | plain ht =>
    rw [isToken, ht] at htoken
    cases htoken
  | repository ht =>
    rw [ht] at hparts
    exact urlFor hbase hbranch fun s hs => of_part hl (hparts s hs)
  | @reference identifier anchor x ht hx =>
    rw [ht] at hparts
    have hpath := hr x (List.mem_of_find?_eq_some hx)
    cases anchor with
    | none => exact hpath
    | some s => exact append (append hpath (by decide)) (of_part hl (hparts s rfl))
  | missingReference | selfReference | missingPath => cases hinert

end Link.Bare

end Crosslink
