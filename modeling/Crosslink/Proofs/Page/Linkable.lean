import Crosslink.Page.Identity
import Crosslink.Proofs.Link.Token
import Crosslink.Proofs.Text.Strip

/-!
# Identifiers that references can name

A page declares whatever text its field has as its identifier, but in a reference an identifier ends
at a number sign, at a parenthesis and at a blank. A page whose identifier holds one of these is
registered, and no reference leads to it: the target is read as plain text or as a reference to
another page.
-/

namespace Crosslink

open Text (isBlank trim)

/-- No character ends the identifier of a reference. -/
def IsLinkable (identifier : List Char) : Prop :=
  ∀ c ∈ identifier, c ≠ '#' ∧ c ≠ '(' ∧ c ≠ ')' ∧ isBlank c = false

instance (identifier : List Char) : Decidable (IsLinkable identifier) :=
  List.decidableBAll (fun c => c ≠ '#' ∧ c ≠ '(' ∧ c ≠ ')' ∧ isBlank c = false) identifier

@[simp] theorem isLinkable_nil : IsLinkable [] := nofun

@[simp] theorem isLinkable_cons {c : Char} {cs : List Char} : IsLinkable (c :: cs) ↔
    (c ≠ '#' ∧ c ≠ '(' ∧ c ≠ ')' ∧ isBlank c = false) ∧ IsLinkable cs :=
  List.forall_mem_cons

@[simp] theorem isLinkable_append {xs ys : List Char} :
    IsLinkable (xs ++ ys) ↔ IsLinkable xs ∧ IsLinkable ys :=
  List.forall_mem_append

theorem IsLinkable.take {cs : List Char} (h : IsLinkable cs) (n : Nat) : IsLinkable (cs.take n) :=
  fun c hc => h c (List.mem_of_mem_take hc)

theorem IsLinkable.drop {cs : List Char} (h : IsLinkable cs) (n : Nat) : IsLinkable (cs.drop n) :=
  fun c hc => h c (List.mem_of_mem_drop hc)

/-! ## References -/

namespace Target

theorem isIdentifierChar_iff {c : Char} : isIdentifierChar c = true ↔
    c ≠ '#' ∧ c ≠ '(' ∧ c ≠ ')' ∧ isBlank c = false := by
  simp only [isIdentifierChar, isBreak, Bool.and_eq_true, Bool.not_eq_true', Bool.or_eq_false_iff,
    bne_iff_ne, beq_eq_false_iff_ne]
  constructor
  · rintro ⟨⟨⟨hblank, hopen⟩, hclose⟩, hsign⟩
    exact ⟨hsign, hopen, hclose, hblank⟩
  · rintro ⟨hsign, hopen, hclose, hblank⟩
    exact ⟨⟨⟨hblank, hopen⟩, hclose⟩, hsign⟩

/-- What a reference names has no character that would end it. -/
theorem isLinkable_of_ofString {raw identifier : String} {anchor : Option String}
    (h : ofString raw = .reference identifier anchor) : IsLinkable identifier.toList := by
  obtain ⟨-, hall, -⟩ := ((ofString_eq_iff (by simp)).mp h).spellable
  exact fun c hc => isIdentifierChar_iff.mp (hall c hc)

theorem ofString_of_isLinkable {identifier : String} (hne : identifier ≠ "")
    (h : IsLinkable identifier.toList) :
    ofString ("ref:" ++ identifier) = .reference identifier none := by
  have hspellable : Spellable (.reference identifier none) :=
    ⟨hne, fun c hc => isIdentifierChar_iff.mpr (h c hc), nofun⟩
  exact hspellable.spells.ofString hspellable.not_blank

end Target

/-! ## Numbers and days -/

theorem isLinkable_of_isDigit {cs : List Char} (h : ∀ c ∈ cs, c.isDigit = true) :
    IsLinkable cs := by
  intro c hc
  have hdigit := h c hc
  simp only [Char.isDigit, Bool.and_eq_true, decide_eq_true_eq, ge_iff_le,
    UInt32.le_iff_toNat_le] at hdigit
  obtain ⟨hlow, hhigh⟩ : 48 ≤ c.toNat ∧ c.toNat ≤ 57 := hdigit
  have hne : ∀ d : Char, d.toNat < 48 → c ≠ d := fun d hd he => by
    rw [he] at hlow
    omega
  refine ⟨hne _ (by decide), hne _ (by decide), hne _ (by decide), ?_⟩
  simp only [isBlank, Bool.or_eq_false_iff, Bool.and_eq_false_iff, decide_eq_false_iff_not,
    beq_eq_false_iff_ne]
  omega

theorem isLinkable_toDigits (n : Nat) : IsLinkable (Nat.toDigits 10 n) :=
  isLinkable_of_isDigit fun _ hc => Nat.isDigit_of_mem_toDigits (by decide) (by decide) hc

theorem isLinkable_zeros (n : Nat) : IsLinkable (List.replicate n '0') :=
  isLinkable_of_isDigit fun c hc => by rw [List.eq_of_mem_replicate hc]; rfl

theorem toList_padNumber (width n : Nat) : (padNumber width n).toList =
    List.replicate (width - (Nat.toDigits 10 n).length) '0' ++ Nat.toDigits 10 n :=
  String.toList_ofList

@[simp] theorem isLinkable_padNumber (width n : Nat) : IsLinkable (padNumber width n).toList := by
  rw [toList_padNumber]
  exact isLinkable_append.mpr ⟨isLinkable_zeros _, isLinkable_toDigits n⟩

theorem isLinkable_date (d : Date) : IsLinkable d.text.toList := by
  simp [Date.text, isBlank]

theorem isLinkable_int (n : Int) : IsLinkable (toString n).toList := by
  cases n with
  | ofNat n => exact Nat.toList_repr ▸ isLinkable_toDigits n
  | negSucc n =>
    have htext : (toString (Int.negSucc n)).toList = '-' :: Nat.toDigits 10 n.succ :=
      (String.toList_append).trans (congrArg _ Nat.toList_repr)
    rw [htext, isLinkable_cons]
    exact ⟨by decide, isLinkable_toDigits _⟩

/-- The digits of a number stay linkable wherever its point and its exponent stand. -/
theorem isLinkable_layout (s : Number.Significand) : IsLinkable s.layout.toList := by
  have hdigits := isLinkable_toDigits s.digits
  rw [Number.Significand.layout]
  dsimp only
  split
  · split
    · simp [isBlank, isLinkable_zeros, hdigits]
    split
    · simp [isBlank, hdigits.take, hdigits.drop]
    · simp [isBlank, isLinkable_zeros, hdigits]
  · have hpower := isLinkable_toDigits (s.point - 1).natAbs
    have hsign : IsLinkable [if s.point - 1 < 0 then '-' else '+'] := by
      split <;> decide
    rw [isLinkable_cons] at hsign
    rw [String.toList_ofList, isLinkable_append, isLinkable_cons, isLinkable_cons,
      isLinkable_append]
    refine ⟨?_, by decide, hsign.1, isLinkable_zeros _, hpower⟩
    split
    · exact isLinkable_nil
    · rename_i hds
      exact hds ▸ hdigits
    · rename_i d rest _ hds
      rw [hds, isLinkable_cons] at hdigits
      exact isLinkable_cons.mpr ⟨hdigits.1, isLinkable_cons.mpr ⟨by decide, hdigits.2⟩⟩

theorem isLinkable_float (x : Number.Binary64) : IsLinkable x.text.toList := by
  cases x with
  | nan => decide
  | infinite s => cases s <;> decide
  | finite s m e =>
    have hlayout := isLinkable_layout (Number.shortest m e)
    generalize hshortest : Number.shortest m e = shortest at hlayout
    have hbody : IsLinkable (if m = 0 then "0.0" else shortest.layout).toList := by
      split
      · decide
      · exact hlayout
    simp only [Number.Binary64.text, hshortest]
    split
    · rw [String.toList_append, isLinkable_append]
      exact ⟨by decide, hbody⟩
    · exact hbody

/-! ## Identifiers by the kind of their value -/

/-- A truth value, a number or a day. -/
def Value.isNumeral : Value → Bool
  | .bool _ | .int _ | .float _ | .date _ => true
  | _ => false

theorem isLinkable_plainText {v : Value} (h : v.isNumeral = true) :
    IsLinkable v.plainText.toList := by
  cases v with
  | bool b => cases b <;> decide
  | int n => exact isLinkable_int n
  | float x => exact isLinkable_float x
  | date d => exact isLinkable_date d
  | _ => cases h

/-- A character between two that are not blank is not trimmed. -/
theorem Text.mem_trim_of_between {a b c : Char} (ha : isBlank a = false) (hb : isBlank b = false)
    (xs ys : List Char) : c ∈ trim (a :: (xs ++ c :: b :: ys)) := by
  have hstart : trimStart (a :: (xs ++ c :: b :: ys)) = (a :: (xs ++ [c])) ++ b :: ys := by
    rw [trimStart, List.dropWhile_cons_of_neg (by simpa using ha)]
    simp
  rw [trim, hstart, trimEnd, dropEndWhile_append_cons hb]
  simp

/-- A padded number begins with a digit. -/
theorem exists_padNumber (width n : Nat) :
    ∃ c cs, (padNumber width n).toList = c :: cs ∧ isBlank c = false := by
  have hne : (padNumber width n).toList ≠ [] := by
    rw [toList_padNumber]
    simp [Nat.toDigits_ne_nil]
  obtain ⟨c, cs, hcs⟩ := List.exists_cons_of_ne_nil hne
  have hlinkable := isLinkable_padNumber width n
  rw [hcs, isLinkable_cons] at hlinkable
  exact ⟨c, cs, hcs, hlinkable.1.2.2.2⟩

/-- A blank stands between the day and the time of a timestamp. -/
theorem not_isLinkable_timestamp (t : Timestamp) :
    ¬ IsLinkable (trim (t.textWith " ").toList) := by
  obtain ⟨y, ys, hyear, hy⟩ := exists_padNumber 4 t.date.year
  obtain ⟨h, hs, hhour, hh⟩ := exists_padNumber 2 t.hour
  obtain ⟨day, hday⟩ : ∃ day, t.date.text.toList = y :: day := by
    simp only [Date.text, String.toList_append, hyear, List.cons_append]
    exact ⟨_, rfl⟩
  obtain ⟨tail, htail⟩ : ∃ tail, (t.textWith " ").toList =
      t.date.text.toList ++ ' ' :: ((padNumber 2 t.hour).toList ++ tail) := by
    simp only [Timestamp.textWith, String.toList_append, List.append_assoc]
    exact ⟨_, rfl⟩
  have hblank : ' ' ∈ trim (t.textWith " ").toList := by
    rw [htail, hday, hhour]
    exact Text.mem_trim_of_between hy hh day _
  exact fun hlinkable => absurd (hlinkable ' ' hblank).2.2.2 (by decide)

/-- What is declared is the text of a value without the blanks around it. -/
theorem exists_of_declaredIdentifier {metadata : Fields} {identifier : String}
    (h : declaredIdentifier metadata = .ok (some identifier)) :
    identifier ≠ "" ∧ ∃ v, metadata.get? identifierField = some v ∧
      identifier = Text.trimString v.plainText := by
  rw [declaredIdentifier, fieldText] at h
  split at h
  · cases h
  · cases h
  · rename_i v _ hv
    have hplain : identityText v = .ok v.plainText ∨ ∃ f, identityText v = .error f := by
      rw [identityText]
      split
      · exact .inr ⟨_, rfl⟩
      split
      · exact .inr ⟨_, rfl⟩
      · exact .inl rfl
    rcases hplain with htext | ⟨f, htext⟩
    · rw [htext] at h
      obtain ⟨hid, hne⟩ := Option.filter_eq_some_iff.mp (Except.ok.inj h)
      cases hid
      exact ⟨bne_iff_ne.mp hne, v, hv, rfl⟩
    · rw [htext] at h
      cases h

namespace Sample

/-- The metadata of a page with a number for its identifier. -/
def numbered : Fields := [(identifierField, .int (-7))]

/-- The metadata of a page whose identifier ends with a number sign. -/
def sharp : Fields := [(identifierField, .text " C#\n")]

end Sample

end Crosslink
