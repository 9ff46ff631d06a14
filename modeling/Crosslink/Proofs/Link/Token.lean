import Crosslink.Link.Target
import Crosslink.Proofs.Text.Run

/-!
# The grammar of tokens

What spells a token is said by rules: where the maximal runs of its parts lie and what follows
them. A target is read as the token that its unwrapped text spells, as no other one, and as plain
text if it spells none. What is read is written in one way, which is read back.
-/

namespace Crosslink

namespace Target

open Text (Run Trimmed)

/-- A text without the blanks around it and, if it then stands in angle brackets, without them and
the blanks inside. -/
inductive Unwrapped (cs : List Char) : List Char → Prop
  | angled {inner u : List Char} (h : Trimmed cs ('<' :: (inner ++ ['>']))) (hu : Trimmed inner u) :
      Unwrapped cs u
  | bare {u : List Char} (h : Trimmed cs u) (hu : ∀ inner, u ≠ '<' :: (inner ++ ['>'])) :
      Unwrapped cs u

/-- Nothing follows a token but the parenthesis of the link around it. -/
def Ends (rest : List Char) : Prop := rest = [] ∨ rest.head? = some ')'

/-- The text spells the target. -/
inductive Spells (u : List Char) : Target → Prop
  | reference {cs identifier rest : List Char} (hmark : u = referenceMark ++ cs)
      (hidentifier : Run isIdentifierChar cs identifier rest) (hne : identifier ≠ [])
      (hend : Ends rest) : Spells u (.reference (String.ofList identifier) none)
  | anchored {cs identifier tail anchor rest : List Char} (hmark : u = referenceMark ++ cs)
      (hidentifier : Run isIdentifierChar cs identifier ('#' :: tail)) (hne : identifier ≠ [])
      (hanchor : Run (!isBreak ·) tail anchor rest) (hend : Ends rest) :
      Spells u (.reference (String.ofList identifier) (nonEmpty? anchor))
  | repository {rest : List Char} (hmark : u = repositoryMark ++ rest) (hend : Ends rest) :
      Spells u (.repository none)
  | located {tail path rest : List Char} (hmark : u = repositoryMark ++ ':' :: tail)
      (hpath : Run (!isBreak ·) tail path rest) (hend : Ends rest) :
      Spells u (.repository (nonEmpty? (path.dropWhile (· == '/'))))

/-! ## Unwrapping -/

theorem unwrapped_unwrap (cs : List Char) : Unwrapped cs (unwrap cs) := by
  have htrim := Text.trimmed_trim cs
  unfold unwrap
  split
  · rename_i rest hrest
    rw [hrest] at htrim
    by_cases hclose : rest.getLast? = some '>'
    · obtain ⟨inner, rfl⟩ := List.getLast?_eq_some_iff.mp hclose
      rw [if_pos (by simp), List.dropLast_concat]
      exact .angled htrim (Text.trimmed_trim inner)
    · rw [if_neg (by simpa using hclose)]
      refine .bare htrim fun inner h => hclose ?_
      rw [(List.cons.inj h).2, List.getLast?_concat]
  · rename_i hopen
    exact .bare htrim fun inner h => hopen _ h

/-- There is one way to unwrap a text. -/
theorem unwrapped_iff {cs u : List Char} : Unwrapped cs u ↔ u = unwrap cs := by
  refine ⟨fun h => ?_, fun h => h ▸ unwrapped_unwrap cs⟩
  cases h with
  | angled h hu => rw [unwrap, ← h.eq, hu.eq]; simp
  | bare h hu =>
    rw [unwrap, ← h.eq]
    split
    · rename_i rest
      rw [if_neg]
      intro hclose
      obtain ⟨inner, rfl⟩ := List.getLast?_eq_some_iff.mp (by simpa using hclose)
      exact hu inner rfl
    · rfl

/-! ## Reading -/

theorem nonEmpty?_nil : nonEmpty? [] = none := rfl

theorem nonEmpty?_of_ne_nil {cs : List Char} (h : cs ≠ []) :
    nonEmpty? cs = some (String.ofList cs) := by
  rw [nonEmpty?, if_neg (by simpa using h)]

theorem ends_iff {rest : List Char} : ends rest = true ↔ Ends rest := by
  cases rest <;> simp [ends, Ends]

theorem token?_referenceMark (cs : List Char) : token? (referenceMark ++ cs) = reference? cs := by
  rfl

theorem token?_repositoryMark (cs : List Char) :
    token? (repositoryMark ++ cs) = repository? cs := by
  rfl

theorem spells_of_reference? {cs : List Char} {t : Target} (h : reference? cs = some t) :
    Spells (referenceMark ++ cs) t := by
  have hidentifier := Text.run_takeWhile isIdentifierChar cs
  simp only [reference?] at h
  split at h
  · rename_i tail htail
    rw [htail] at hidentifier
    split at h
    · rename_i hcond
      simp only [Bool.and_eq_true, Bool.not_eq_true', List.isEmpty_eq_false_iff, ends_iff] at hcond
      cases h
      exact .anchored rfl hidentifier hcond.1 (Text.run_takeWhile _ tail) hcond.2
    · cases h
  · split at h
    · rename_i hcond
      simp only [Bool.and_eq_true, Bool.not_eq_true', List.isEmpty_eq_false_iff, ends_iff] at hcond
      cases h
      exact .reference rfl hidentifier hcond.1 hcond.2
    · cases h

theorem spells_of_repository? {cs : List Char} {t : Target} (h : repository? cs = some t) :
    Spells (repositoryMark ++ cs) t := by
  simp only [repository?] at h
  split at h
  · rename_i tail
    split at h
    · rename_i hend
      cases h
      exact .located rfl (Text.run_takeWhile _ tail) (ends_iff.mp hend)
    · cases h
  · split at h
    · rename_i hend
      cases h
      exact .repository rfl (ends_iff.mp hend)
    · cases h

/-- A token is read from exactly the texts that spell it. -/
theorem token?_eq_some_iff {u : List Char} {t : Target} : token? u = some t ↔ Spells u t := by
  constructor
  · intro h
    rw [token?] at h
    split at h
    · rename_i hmark
      obtain ⟨cs, rfl⟩ := List.isPrefixOf_iff_prefix.mp hmark
      exact spells_of_reference? (by simpa using h)
    · split at h
      · rename_i hmark
        obtain ⟨cs, rfl⟩ := List.isPrefixOf_iff_prefix.mp hmark
        exact spells_of_repository? (by simpa using h)
      · cases h
  · intro h
    cases h with
    | @reference cs identifier rest hmark hidentifier hne hend =>
      obtain ⟨htake, hdrop⟩ := hidentifier.eq
      -- nothing that ends a token begins an anchor
      have hanchor : ∀ tail, rest ≠ '#' :: tail := by
        rintro tail rfl
        simp [Ends] at hend
      rw [hmark, token?_referenceMark, reference?, htake, hdrop]
      simp [hne, ends_iff.mpr hend, nonEmpty?_nil]
    | @anchored cs identifier tail anchor rest hmark hidentifier hne hanchor hend =>
      obtain ⟨htake, hdrop⟩ := hidentifier.eq
      obtain ⟨htake', hdrop'⟩ := hanchor.eq
      rw [hmark, token?_referenceMark, reference?, htake, hdrop]
      simp [hne, htake', hdrop', ends_iff.mpr hend]
    | @repository rest hmark hend =>
      have hrest : rest = [] ∨ ∃ tail, rest = ')' :: tail := by
        rcases rest with _ | ⟨c, tail⟩
        · exact .inl rfl
        · exact .inr ⟨tail, by simpa [Ends] using hend⟩
      rw [hmark, token?_repositoryMark]
      rcases hrest with rfl | ⟨tail, rfl⟩ <;> rfl
    | @located tail path rest hmark hpath hend =>
      obtain ⟨htake, hdrop⟩ := hpath.eq
      rw [hmark, token?_repositoryMark, repository?]
      simp [htake, hdrop, ends_iff.mpr hend]

/-! ## Writing -/

/-- Nothing is unwrapped of a text without blanks and angle brackets around it. -/
theorem unwrap_eq_self {u : List Char} (hblank : ∀ c ∈ u, Text.isBlank c = false)
    (hopen : u.head? ≠ some '<') : unwrap u = u := by
  refine (unwrapped_iff.mp (.bare ⟨⟨[], [], by simp, nofun, nofun⟩, fun c hc => ?_, fun c hc => ?_⟩
    fun inner h => ?_)).symm
  · exact hblank c (List.mem_of_head? hc)
  · exact hblank c (List.mem_of_getLast? hc)
  · exact hopen (by rw [h]; rfl)

theorem Spells.head? {u : List Char} {t : Target} (h : Spells u t) : u.head? = some 'r' := by
  cases h <;> subst_vars <;> rfl

/-- What is spelled without blanks is read without any unwrapping. -/
theorem Spells.ofString {raw : String} {t : Target} (h : Spells raw.toList t)
    (hblank : ∀ c ∈ raw.toList, Text.isBlank c = false) : ofString raw = t := by
  have hopen : raw.toList.head? ≠ some '<' := by
    rw [h.head?]
    decide
  rw [Target.ofString, unwrap_eq_self hblank hopen, token?_eq_some_iff.mpr h, Option.getD_some]

theorem not_blank_of_not_break {c : Char} (h : (!isBreak c) = true) : Text.isBlank c = false := by
  simp_all [isBreak]

theorem not_blank_of_isIdentifierChar {c : Char} (h : isIdentifierChar c = true) :
    Text.isBlank c = false :=
  not_blank_of_not_break (Bool.and_eq_true _ _ ▸ h).1

/-- A token whose parts can be spelled. -/
def Spellable : Target → Prop
  | .reference identifier anchor =>
    identifier ≠ "" ∧ (∀ c ∈ identifier.toList, isIdentifierChar c = true) ∧
      ∀ s ∈ anchor, s ≠ "" ∧ ∀ c ∈ s.toList, (!isBreak c) = true
  | .repository path =>
    ∀ s ∈ path, s ≠ "" ∧ s.toList.head? ≠ some '/' ∧ ∀ c ∈ s.toList, (!isBreak c) = true
  | .plain _ => False

theorem toList_of_mem_nonEmpty? {cs : List Char} {s : String} (h : s ∈ nonEmpty? cs) :
    s.toList = cs ∧ s ≠ "" := by
  rw [nonEmpty?] at h
  split at h
  · cases h
  · rename_i hne
    cases h
    refine ⟨String.toList_ofList, fun he => hne ?_⟩
    rw [← String.toList_ofList (l := cs), he]
    rfl

/-- Of what is spelled the parts can be spelled. -/
theorem Spells.spellable {u : List Char} {t : Target} (h : Spells u t) : t.Spellable := by
  have hne : ∀ {cs : List Char}, cs ≠ [] → String.ofList cs ≠ "" := by
    intro cs hcs he
    rw [← String.toList_ofList (l := cs), he] at hcs
    exact hcs rfl
  cases h with
  | reference _ hidentifier hid _ =>
    exact ⟨hne hid, by simpa using hidentifier.all, nofun⟩
  | anchored _ hidentifier hid hanchor _ =>
    refine ⟨hne hid, by simpa using hidentifier.all, fun s hs => ?_⟩
    obtain ⟨hcs, hs⟩ := toList_of_mem_nonEmpty? hs
    exact ⟨hs, hcs ▸ hanchor.all⟩
  | repository _ _ => nofun
  | @located tail path rest _ hpath _ =>
    intro s hs
    obtain ⟨hcs, hs⟩ := toList_of_mem_nonEmpty? hs
    refine ⟨hs, fun hslash => ?_, fun c hc => ?_⟩
    · have hhead := List.head?_dropWhile_not (· == '/') path
      rw [← hcs, hslash] at hhead
      cases hhead
    · rw [hcs] at hc
      exact hpath.all c ((List.dropWhile_sublist _).subset hc)

theorem toList_toString (t : Target) : t.toString.toList = match t with
    | .reference identifier none => referenceMark ++ identifier.toList
    | .reference identifier (some anchor) =>
      referenceMark ++ (identifier.toList ++ '#' :: anchor.toList)
    | .repository none => repositoryMark
    | .repository (some path) => repositoryMark ++ ':' :: path.toList
    | .plain url => url.toList := by
  rcases t with ⟨identifier, _ | anchor⟩ | (_ | path) | url <;>
    simp [Target.toString, referenceMark, repositoryMark, String.toList_append]

/-- A token is spelled by its canonical form. -/
theorem Spellable.spells {t : Target} (h : t.Spellable) : Spells t.toString.toList t := by
  have hend : Ends [] := .inl rfl
  have hrun : ∀ {p : Char → Bool} {cs : List Char}, (∀ c ∈ cs, p c = true) → Run p cs cs [] :=
    fun hcs => ⟨(List.append_nil _).symm, hcs, nofun⟩
  have hne : ∀ {s : String}, s ≠ "" → s.toList ≠ [] := fun hs he =>
    hs (String.toList_eq_nil_iff.mp he)
  have hpart : ∀ {s : String}, s ≠ "" → nonEmpty? s.toList = some s := fun hs => by
    rw [nonEmpty?_of_ne_nil (hne hs), String.ofList_toList]
  rw [toList_toString]
  match t, h with
  | .reference identifier none, ⟨hid, hall, _⟩ =>
    have hspells := Spells.reference rfl (hrun hall) (hne hid) hend
    rwa [String.ofList_toList] at hspells
  | .reference identifier (some anchor), ⟨hid, hall, hanchor⟩ =>
    obtain ⟨hanchor, hall'⟩ := hanchor anchor rfl
    have hspells := Spells.anchored rfl ⟨rfl, hall, by simp [isIdentifierChar]⟩ (hne hid)
      (hrun hall') hend
    rwa [String.ofList_toList, hpart hanchor] at hspells
  | .repository none, _ => exact .repository rfl hend
  | .repository (some path), h =>
    obtain ⟨hpath, hslash, hall⟩ := h path rfl
    have hspells := Spells.located rfl (hrun hall) hend
    have hkept : path.toList.dropWhile (· == '/') = path.toList := by
      rcases hcs : path.toList with _ | ⟨c, cs⟩
      · rfl
      · rw [hcs] at hslash
        exact List.dropWhile_cons_of_neg (by simpa using hslash)
    rwa [hkept, hpart hpath] at hspells

theorem Spellable.not_blank {t : Target} (h : t.Spellable) :
    ∀ c ∈ t.toString.toList, Text.isBlank c = false := by
  have hmarks : ∀ c ∈ referenceMark ++ repositoryMark ++ ['#', ':'], Text.isBlank c = false := by
    have hall : (referenceMark ++ repositoryMark ++ ['#', ':']).all (!Text.isBlank ·) = true := rfl
    exact fun c hc => by simpa using List.all_eq_true.mp hall c hc
  intro c hc
  rw [toList_toString] at hc
  match t, h with
  | .reference identifier none, ⟨_, hall, _⟩ =>
    rcases List.mem_append.mp hc with hc | hc
    · exact hmarks c (by simp [hc])
    · exact not_blank_of_isIdentifierChar (hall c hc)
  | .reference identifier (some anchor), ⟨_, hall, hanchor⟩ =>
    simp only [List.mem_append, List.mem_cons] at hc
    rcases hc with hc | hc | rfl | hc
    · exact hmarks c (by simp [hc])
    · exact not_blank_of_isIdentifierChar (hall c hc)
    · exact hmarks _ (by simp)
    · exact not_blank_of_not_break ((hanchor anchor rfl).2 c hc)
  | .repository none, _ => exact hmarks c (by simp [hc])
  | .repository (some path), h =>
    simp only [List.mem_append, List.mem_cons] at hc
    rcases hc with hc | rfl | hc
    · exact hmarks c (by simp [hc])
    · exact hmarks _ (by simp)
    · exact not_blank_of_not_break ((h path rfl).2.2 c hc)

/-! ## Targets -/

/-- A token is read from the texts that spell it when they are unwrapped. -/
theorem ofString_eq_iff {raw : String} {t : Target} (ht : ∀ url, t ≠ .plain url) :
    Target.ofString raw = t ↔ Spells (unwrap raw.toList) t := by
  rw [← token?_eq_some_iff, Target.ofString]
  cases token? (unwrap raw.toList) with
  | none => simpa using (ht raw).symm
  | some t' => simp

/-- What spells no token is plain text, and nothing else is. -/
theorem ofString_eq_plain_iff {raw url : String} :
    Target.ofString raw = .plain url ↔ url = raw ∧ ∀ t, ¬ Spells (unwrap raw.toList) t := by
  simp only [← token?_eq_some_iff]
  rw [Target.ofString]
  cases htoken : token? (unwrap raw.toList) with
  | none => simp [eq_comm]
  | some t =>
    have hspellable := (token?_eq_some_iff.mp htoken).spellable
    have hplain : t ≠ .plain url := by
      rintro rfl
      exact hspellable
    simp [hplain]

/-- Every target is read back from its canonical form. -/
theorem ofString_toString (raw : String) :
    Target.ofString (Target.ofString raw).toString = Target.ofString raw := by
  cases htarget : Target.ofString raw with
  | plain url =>
    obtain ⟨rfl, -⟩ := ofString_eq_plain_iff.mp htarget
    exact htarget
  | reference identifier anchor | repository path =>
    have hspellable := ((ofString_eq_iff (by simp)).mp htarget).spellable
    exact hspellable.spells.ofString hspellable.not_blank

/-- A text is unwrapped in one way. It is read as the reference or the link to the repository that
the unwrapped text spells and, as it stands, as plain text if that spells no token. The canonical
form of what is read is read as the same again. -/
theorem ofString_grammar (raw : String) :
    ∃ u, (∀ v, Unwrapped raw.toList v ↔ v = u) ∧
      (∀ identifier anchor, Target.ofString raw = .reference identifier anchor ↔
        Spells u (.reference identifier anchor)) ∧
      (∀ path, Target.ofString raw = .repository path ↔ Spells u (.repository path)) ∧
      (∀ url, Target.ofString raw = .plain url ↔ url = raw ∧ ∀ t, ¬ Spells u t) ∧
      Target.ofString (Target.ofString raw).toString = Target.ofString raw :=
  ⟨unwrap raw.toList, fun _ => unwrapped_iff, fun _ _ => ofString_eq_iff (by simp),
    fun _ => ofString_eq_iff (by simp), fun _ => ofString_eq_plain_iff, ofString_toString raw⟩

/-- Blanks and angle brackets around a token do not count. -/
example : Target.ofString " <ref:start#step-2 > " = .reference "start" (some "step-2") := by
  decide +kernel

end Target

end Crosslink
