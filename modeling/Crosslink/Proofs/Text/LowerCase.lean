import Crosslink.Proofs.Text.Utf8
import Crosslink.Text.LowerCase

/-!
# Lower-casing twice

No lower-case letter has a lower-case form other than itself: the runs of letters that are shifted
lead out of all runs. So a text in lower case stays as it is, whatever the case of the letters was
that it came from.
-/

namespace Crosslink.Text

namespace CaseRun

/-- Is the code point one of those that the run shifts? -/
def covers (r : CaseRun) (n : Nat) : Bool :=
  r.first ≤ n && n ≤ r.last && (n - r.first) % r.step == 0

/-- The first code point that the run leads to. -/
def start (r : CaseRun) : Nat := ((r.first : Int) + r.shift).toNat

/-- The last code point that the run leads to. -/
def stop (r : CaseRun) : Nat := ((r.last : Int) + r.shift).toNat

/-- Does the first run lead to no letter of the second one? It ends below or begins above, or it
leads to what lies between the letters of the second one. -/
def misses (r s : CaseRun) : Bool :=
  Nat.blt r.stop s.first || Nat.blt s.last r.start ||
    ((r.step == 2 || r.first == r.last) && s.step == 2 && (r.start + s.first) % 2 == 1)

/-- The run leads to characters below the surrogates or above them, and never to the one that
lower-casing takes apart. -/
def Lands (r : CaseRun) : Prop :=
  0 ≤ r.first + r.shift ∧ (r.stop < 0xd800 ∨ (0xdfff < r.start ∧ r.stop < 0x110000)) ∧
    (r.stop < 0x130 ∨ 0x130 < r.start ∨ (r.step = 2 ∧ r.start % 2 = 1))

instance (r : CaseRun) : Decidable r.Lands := inferInstanceAs (Decidable (_ ∧ _ ∧ _))

/-- No run leads to a letter of a run. -/
theorem all_misses : (caseRuns.all fun r => caseRuns.all r.misses) = true := by decide +kernel

theorem lands {r : CaseRun} (hr : r ∈ caseRuns) : r.Lands := by
  have h : ∀ r ∈ caseRuns, r.Lands := by decide +kernel
  exact h r hr

theorem misses_iff {r s : CaseRun} : r.misses s = true ↔
    r.stop < s.first ∨ s.last < r.start ∨
      ((r.step = 2 ∨ r.first = r.last) ∧ s.step = 2 ∧ (r.start + s.first) % 2 = 1) := by
  simp [misses, and_assoc, or_assoc, Nat.blt_eq]

theorem covers_iff {r : CaseRun} {n : Nat} :
    r.covers n = true ↔ r.first ≤ n ∧ n ≤ r.last ∧ (n - r.first) % r.step = 0 := by
  simp [covers, and_assoc]

end CaseRun

/-- A character that lower-casing leaves as it is. -/
structure IsLower (c : Char) : Prop where
  uncovered : ∀ r ∈ caseRuns, r.covers c.toNat = false
  ne_sigma : c ≠ 'Σ'
  ne_dotted : c ≠ 'İ'

instance (c : Char) : Decidable (IsLower c) :=
  decidable_of_iff ((∀ r ∈ caseRuns, r.covers c.toNat = false) ∧ c ≠ 'Σ' ∧ c ≠ 'İ')
    ⟨fun ⟨h, hs, hd⟩ => ⟨h, hs, hd⟩, fun ⟨h, hs, hd⟩ => ⟨h, hs, hd⟩⟩

theorem lowerChar_eq (c : Char) : lowerChar c =
    match caseRuns.find? (CaseRun.covers · c.toNat) with
    | some r => Char.ofNat ((c.toNat : Int) + r.shift).toNat
    | none => c := rfl

theorem IsLower.lowerChar {c : Char} (h : IsLower c) : lowerChar c = c := by
  have hnone : caseRuns.find? (CaseRun.covers · c.toNat) = none :=
    List.find?_eq_none.mpr fun r hr => by simp [h.uncovered r hr]
  rw [lowerChar_eq, hnone]

/-- What a run shifts lands outside of all runs. -/
theorem isLower_shift {r : CaseRun} {n : Nat} (hr : r ∈ caseRuns) (hn : r.covers n = true) :
    IsLower (Char.ofNat ((n : Int) + r.shift).toNat) := by
  obtain ⟨hfirst, hlast, hstep⟩ := CaseRun.covers_iff.mp hn
  obtain ⟨hle, hvalid, hdotted⟩ := CaseRun.lands hr
  have hstart : r.start ≤ ((n : Int) + r.shift).toNat := by simp only [CaseRun.start]; omega
  have hstop : ((n : Int) + r.shift).toNat ≤ r.stop := by simp only [CaseRun.stop]; omega
  -- Every other letter is shifted to every other place.
  have hparity : r.step = 2 ∨ r.first = r.last →
      ((n : Int) + r.shift).toNat % 2 = r.start % 2 := by
    simp only [CaseRun.start]
    rintro (h | h)
    · rw [h] at hstep
      omega
    · omega
  have hto : (Char.ofNat ((n : Int) + r.shift).toNat).toNat = ((n : Int) + r.shift).toNat := by
    refine Utf8.toNat_ofNat ?_
    rcases hvalid with h | h
    · exact .inl (by omega)
    · exact .inr (by omega)
  have huncovered : ∀ s ∈ caseRuns, s.covers ((n : Int) + r.shift).toNat = false := by
    intro s hs
    rw [← Bool.not_eq_true, CaseRun.covers_iff]
    rintro ⟨hsfirst, hslast, hsstep⟩
    have hmisses := List.all_eq_true.mp (List.all_eq_true.mp CaseRun.all_misses r hr) s hs
    rcases CaseRun.misses_iff.mp hmisses with h | h | ⟨hr2, hs2, hodd⟩
    · omega
    · omega
    · have hsame := hparity hr2
      rw [hs2] at hsstep
      omega
  refine ⟨by rwa [hto], fun hc => ?_, fun hc => ?_⟩
  · -- The capital sigma belongs to a run.
    have hsigma : (⟨0x3a3, 0x3ab, 1, 32⟩ : CaseRun) ∈ caseRuns := by decide +kernel
    have hcovers := huncovered _ hsigma
    rw [← hto, hc] at hcovers
    exact absurd hcovers (by decide)
  · have hdot := congrArg Char.toNat hc
    rw [hto, show ('İ').toNat = 0x130 from rfl] at hdot
    rcases hdotted with h | h | ⟨hr2, hodd⟩
    · omega
    · omega
    · have hsame := hparity (.inl hr2)
      omega

/-- The lower-case form of a character that has a single one is in lower case. -/
theorem isLower_lowerChar {c : Char} (hs : c ≠ 'Σ') (hd : c ≠ 'İ') : IsLower (lowerChar c) := by
  rw [lowerChar_eq]
  cases hrun : caseRuns.find? (CaseRun.covers · c.toNat) with
  | some r =>
    have hcovers : r.covers c.toNat = true := by simpa using List.find?_some hrun
    exact isLower_shift (List.mem_of_find?_eq_some hrun) hcovers
  | none => exact ⟨fun r hr => by simpa using List.find?_eq_none.mp hrun r hr, hs, hd⟩

/-- A text in lower case stays as it is. -/
theorem lowerFrom_of_isLower {cs : List Char} (h : ∀ c ∈ cs, IsLower c) (before : List Char) :
    lowerFrom before cs = cs := by
  induction cs generalizing before with
  | nil => rfl
  | cons c cs ih =>
    obtain ⟨hc, hcs⟩ := List.forall_mem_cons.mp h
    rw [lowerFrom, ih hcs]
    simp [hc.ne_sigma, hc.ne_dotted, hc.lowerChar]

/-- A lower-cased text is in lower case. -/
theorem isLower_of_mem_lowerFrom {before cs : List Char} {c : Char} (h : c ∈ lowerFrom before cs) :
    IsLower c := by
  induction cs generalizing before with
  | nil => cases h
  | cons d cs ih =>
    rw [lowerFrom] at h
    rcases List.mem_append.mp h with h | h
    · split at h
      · -- Both forms of the small sigma are in lower case.
        obtain rfl := List.mem_singleton.mp h
        split <;> decide +kernel
      · rename_i hs
        split at h
        · rcases List.mem_cons.mp h with rfl | h
          · decide +kernel
          · obtain rfl := List.mem_singleton.mp h
            decide +kernel
        · rename_i hd
          obtain rfl := List.mem_singleton.mp h
          exact isLower_lowerChar (by simpa using hs) (by simpa using hd)
    · exact ih h

/-- Lower-casing twice is lower-casing once. -/
theorem lowerString_lowerString (s : String) : lowerString (lowerString s) = lowerString s := by
  rw [lowerString, lowerString, String.toList_ofList,
    lowerFrom_of_isLower fun c hc => isLower_of_mem_lowerFrom hc]

/-- A text keeps the character at its front that is in lower case. -/
theorem head?_lowerString {s : String} {c : Char} (hc : IsLower c) (h : s.toList.head? = some c) :
    (lowerString s).toList.head? = some c := by
  obtain ⟨cs, hcs⟩ := List.head?_eq_some_iff.mp h
  rw [lowerString, String.toList_ofList, hcs, lowerFrom]
  simp [hc.ne_sigma, hc.ne_dotted, hc.lowerChar]

end Crosslink.Text
