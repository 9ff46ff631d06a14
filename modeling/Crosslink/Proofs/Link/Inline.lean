import Crosslink.Link.Basic
import Crosslink.Proofs.Link.Destination

/-!
# Reading inline links

The parts of a link are read off the front of a text. What is read depends on the characters that
are read alone, so a part that was read once is read again before any other rest: a label up to its
bracket, and a destination because the grammar says what spells it. What is written for a
destination spells it.
-/

namespace Crosslink.Link

open Text (Span)

/-- The characters `used` are read as `a` before every rest. -/
def Reads {α : Type} (read : List Char → Option (α × List Char)) (used : List Char) (a : α) :
    Prop :=
  ∀ rest, read (used ++ rest) = some (a, rest)

/-! ## Labels -/

/-- Whether a blank line begins is settled by the first character that is no blank. -/
theorem startsBlankLine_append_bracket (cs rest rest' : List Char) :
    Text.startsBlankLine (cs ++ ']' :: rest) = Text.startsBlankLine (cs ++ ']' :: rest') := by
  induction cs with
  | nil => rfl
  | cons c cs ih =>
    by_cases hc : Text.isGap c = true
    · rw [Text.startsBlankLine, Text.startsBlankLine, List.cons_append, List.cons_append,
        List.dropWhile_cons_of_pos hc, List.dropWhile_cons_of_pos hc]
      exact ih
    · rw [Text.startsBlankLine, Text.startsBlankLine, List.cons_append, List.cons_append,
        List.dropWhile_cons_of_neg hc, List.dropWhile_cons_of_neg hc]
      cases cs <;> grind

/-- A label is read up to its closing bracket. -/
theorem of_label? {inner : Bool} {cs text rest : List Char}
    (h : label? inner cs = some (text, rest)) :
    cs = text ++ ']' :: rest ∧ Reads (label? inner) (text ++ [']']) text := by
  induction cs generalizing inner text with
  | nil => cases h
  | cons c cs ih =>
    have hstep : ∀ {inner' : Bool}, (label? inner' cs).map (fun x => (c :: x.1, x.2)) =
        some (text, rest) → ∃ tail, text = c :: tail ∧ cs = tail ++ ']' :: rest ∧
          Reads (label? inner') (tail ++ [']']) tail := by
      intro inner' h
      obtain ⟨⟨tail, rest'⟩, hl, he⟩ := Option.map_eq_some_iff.mp h
      cases he
      exact ⟨tail, rfl, ih hl⟩
    rw [label?] at h
    by_cases hclose : (c == ']') = true
    · rw [if_pos hclose] at h
      cases inner with
      | false =>
        cases h
        obtain rfl := eq_of_beq hclose
        exact ⟨rfl, fun rest => rfl⟩
      | true =>
        obtain ⟨tail, rfl, rfl, htail⟩ := hstep h
        refine ⟨rfl, fun rest => ?_⟩
        rw [List.cons_append, List.cons_append, label?, if_pos hclose, if_pos rfl, htail]
        rfl
    rw [if_neg hclose] at h
    by_cases hopen : (c == '[') = true
    · rw [if_pos hopen] at h
      cases inner with
      | true => cases h
      | false =>
        obtain ⟨tail, rfl, rfl, htail⟩ := hstep h
        refine ⟨rfl, fun rest => ?_⟩
        rw [List.cons_append, List.cons_append, label?, if_neg hclose, if_pos hopen,
          if_neg Bool.false_ne_true, htail]
        rfl
    rw [if_neg hopen] at h
    by_cases hline : (c == '\n' && (inner || Text.startsBlankLine cs)) = true
    · rw [if_pos hline] at h
      cases h
    · rw [if_neg hline] at h
      obtain ⟨tail, rfl, rfl, htail⟩ := hstep h
      refine ⟨rfl, fun rest' => ?_⟩
      rw [startsBlankLine_append_bracket tail rest rest'] at hline
      rw [List.cons_append, List.cons_append, label?, if_neg hclose, if_neg hopen, htail,
        List.append_assoc, List.singleton_append, if_neg hline]
      rfl

/-! ## Destinations -/

/-- What spells a destination is read as it, with the closing parenthesis. -/
theorem Spells.reads {inside : List Char} {d : Destination} (h : Spells inside d) :
    Reads Link.destination? (inside ++ [')']) d := fun rest => by
  rw [List.append_assoc, List.singleton_append]
  exact h.destination? rest

/-- A destination is read up to its closing parenthesis. -/
theorem of_destination? {cs rest : List Char} {d : Destination}
    (h : destination? cs = some (d, rest)) :
    ∃ used, cs = used ++ rest ∧ used.getLast? = some ')' ∧ Reads destination? used d := by
  obtain ⟨inside, rfl, hspells⟩ := spells_of_destination? h
  exact ⟨inside ++ [')'], by simp, by simp, hspells.reads⟩

/-- The title of a destination that is read holds no line feed. -/
theorem not_mem_title_of_destination? {cs rest title : List Char} {d : Destination}
    (h : destination? cs = some (d, rest)) (ht : d.title = some title) : '\n' ∉ title := by
  obtain ⟨inside, -, hspells⟩ := spells_of_destination? h
  exact hspells.not_mem_title ht

/-- The target of a destination that is read holds no angle bracket. -/
theorem ne_angle_of_destination? {cs rest : List Char} {d : Destination}
    (h : destination? cs = some (d, rest)) : ∀ c ∈ d.url, c ≠ '<' ∧ c ≠ '>' := by
  obtain ⟨inside, -, hspells⟩ := spells_of_destination? h
  obtain ⟨_, _, _, -, -, htarget⟩ := hspells.exists_target
  exact htarget.ne_angle

/-! ## Written destinations -/

/-- The text can stand in a target without angle brackets. -/
def Bare (s : String) : Prop := ∀ c ∈ s.toList, isBareChar c = true

instance (s : String) : Decidable (Bare s) :=
  decidable_of_iff (s.toList.all isBareChar = true) List.all_eq_true

/-- A target that is read back as it is: without blanks, parentheses and angle brackets, or with
blanks, and then with anything but line feeds and angle brackets. -/
def Writable (url : List Char) : Prop :=
  url ≠ [] ∧ (url.all isBareChar = true ∨
    url.any Text.isBlank = true ∧ url.all isAngledChar = true)

instance (url : List Char) : Decidable (Writable url) :=
  inferInstanceAs (Decidable (_ ∧ _))

/-- A written target spells the target. -/
theorem spellsTarget_writeTarget {url : List Char} (h : Writable url) :
    SpellsTarget (writeTarget url) url := by
  obtain ⟨hne, hbare | ⟨hblanks, hangled⟩⟩ := h
  · have hbare : ∀ c ∈ url, isBareChar c = true := List.all_eq_true.mp hbare
    have hblanks : ¬ url.any Text.isBlank = true := by
      intro hany
      obtain ⟨c, hc, hblank⟩ := List.any_eq_true.mp hany
      have hno := hbare c hc
      simp [isBareChar, hblank] at hno
    rw [writeTarget, if_neg hblanks]
    exact .bare hne hbare
  · rw [writeTarget, if_pos hblanks]
    exact .angled (List.all_eq_true.mp hangled)

/-- What is escaped in a title can stand in quotes and says the title again. -/
theorem quotable_escaped {title : List Char} (h : '\n' ∉ title) :
    let escaped := title.flatMap fun c => if c == '\\' || c == '"' then ['\\', c] else [c]
    Quotable '"' escaped ∧ unescape escaped = title := by
  induction title with
  | nil => exact ⟨.nil, rfl⟩
  | cons c tail ih =>
    have hc : c ≠ '\n' := fun he => h (he ▸ List.mem_cons_self)
    obtain ⟨hquotable, hunescape⟩ := ih fun hmem => h (List.mem_cons_of_mem c hmem)
    rw [List.flatMap_cons]
    split
    · exact ⟨.escaped hc hquotable, (unescape_escaped hc _).trans (congrArg _ hunescape)⟩
    · rename_i hescape
      obtain ⟨hslash, hquote⟩ : c ≠ '\\' ∧ c ≠ '"' := by simpa using hescape
      exact ⟨.plain hquote hslash hc hquotable,
        (unescape_cons hslash _).trans (congrArg _ hunescape)⟩

theorem spellsTitle_quoteTitle {title : List Char} (h : '\n' ∉ title) :
    SpellsTitle (quoteTitle title) title := by
  obtain ⟨hquotable, hunescape⟩ := quotable_escaped h
  have hspells := SpellsTitle.quoted (.inl rfl) hquotable
  rwa [hunescape] at hspells

/-- A written destination is read back, with its title unless that is empty. -/
theorem reads_writeDestination {url : List Char} (hurl : Writable url)
    (title : Option (List Char)) (htitle : ∀ t, title = some t → '\n' ∉ t) :
    ∃ tail, writeDestination url title = '(' :: tail ∧
      Reads destination? tail ⟨url, title.filter fun t => !t.isEmpty⟩ := by
  have hnone : Gaps [] := fun _ hc => absurd hc List.not_mem_nil
  have hspace : Gaps [' '] := fun c hc => List.mem_singleton.mp hc ▸ rfl
  have htarget := spellsTarget_writeTarget hurl
  have huntitled : Reads destination? (writeTarget url ++ [')']) ⟨url, none⟩ := by
    simpa using (Spells.untitled hnone htarget hnone).reads
  rcases title with _ | (_ | ⟨c, cs⟩)
  · exact ⟨_, rfl, huntitled⟩
  · exact ⟨_, rfl, huntitled⟩
  · refine ⟨writeTarget url ++ [' '] ++ quoteTitle (c :: cs) ++ [')'], rfl, ?_⟩
    have hquoted := spellsTitle_quoteTitle (htitle _ rfl)
    have htitled :=
      (Spells.titled hnone htarget hspace (List.cons_ne_nil _ _) hquoted hnone).reads
    simp only [List.nil_append, List.append_nil, List.append_assoc] at htitled ⊢
    exact htitled

/-- An empty target that is written is not read back. -/
theorem ne_nil_of_writeDestination {title : Option (List Char)} {tail rest after : List Char}
    {d : Destination} (hwritten : writeDestination [] title = '(' :: tail)
    (h : destination? (tail ++ rest) = some (d, after)) : d.url ≠ [] := by
  have hhead : ((tail ++ rest).dropWhile Text.isGap).head? ≠ some '<' := by
    rcases title with _ | (_ | ⟨c, cs⟩) <;> cases hwritten <;>
      simp [quoteTitle, writeTarget, Text.isGap]
  obtain ⟨inside, he, hspells⟩ := spells_of_destination? h
  obtain ⟨before, target, more, rfl, hbefore, htarget⟩ := hspells.exists_target
  cases htarget with
  | bare hne _ => exact hne
  | angled _ =>
    refine absurd ?_ hhead
    rw [he, List.append_assoc, List.cons_append, List.cons_append, hbefore.dropWhile rfl]
    rfl

/-! ## Links -/

/-- An inline link as it is written: a label that can be read up to its bracket, and a destination
that can be read up to its parenthesis. -/
structure Inline where
  label : List Char
  /-- The destination after its opening parenthesis, with its closing one. -/
  tail : List Char
  destination : Destination
  label_reads : Reads (label? false) (label ++ [']']) label
  tail_reads : Reads destination? tail destination

namespace Inline

/-- The characters of the link. -/
def text (x : Inline) : List Char := '[' :: x.label ++ ']' :: '(' :: x.tail

/-- The link as it occurs at an offset. -/
def occurrence (x : Inline) (offset : Nat) : Occurrence where
  start := offset
  text := x.label
  destination := x.destination
  span := ⟨offset + x.label.length + 2, offset + x.label.length + 2 + 1 + x.tail.length⟩

/-- A link is found before every rest. -/
theorem occurrenceAt?_text (x : Inline) (offset : Nat) (rest : List Char) :
    occurrenceAt? offset (x.text ++ rest) = some (x.occurrence offset) := by
  have hlabel := x.label_reads ('(' :: (x.tail ++ rest))
  rw [List.append_assoc, List.singleton_append] at hlabel
  rw [text, List.append_assoc, List.cons_append, List.cons_append, List.cons_append,
    occurrenceAt?, hlabel]
  simp only [x.tail_reads rest, List.length_append, Nat.add_sub_cancel]
  rfl

/-- What occurs at the front of a text is a link of which the text begins with the characters. -/
theorem of_occurrenceAt? {offset : Nat} {cs : List Char} {o : Occurrence}
    (h : occurrenceAt? offset cs = some o) :
    ∃ (x : Inline) (rest : List Char), cs = x.text ++ rest ∧ o = x.occurrence offset := by
  unfold occurrenceAt? at h
  split at h
  · rename_i inner
    split at h
    · rename_i label rest hlabel
      obtain ⟨rfl, hreads⟩ := of_label? hlabel
      split at h
      · rename_i d after hdestination
        obtain ⟨tail, rfl, -, htail⟩ := of_destination? hdestination
        cases h
        refine ⟨⟨label, tail, d, hreads, htail⟩, after, by simp [text], ?_⟩
        simp only [occurrence, List.length_append, Nat.add_sub_cancel]
      · cases h
    · cases h
  · cases h

/-- What is found where a link may begin is a link, and nothing guards its bracket. -/
theorem of_found {before : Option Char} {offset : Nat} {cs : List Char} {o : Occurrence}
    (h : (if guards before then none else occurrenceAt? offset cs) = some o) :
    guards before = false ∧
      ∃ (x : Inline) (rest : List Char), cs = x.text ++ rest ∧ o = x.occurrence offset := by
  split at h
  · cases h
  · rename_i hguards
    exact ⟨Bool.not_eq_true _ ▸ hguards, of_occurrenceAt? h⟩

theorem length_text (x : Inline) : x.text.length = x.label.length + 3 + x.tail.length := by
  simp [text]
  omega

/-- A link ends with the parenthesis of its destination. -/
theorem getLast?_text (x : Inline) : x.text.getLast? = some ')' := by
  obtain ⟨used, htail, hlast, -⟩ := of_destination? (x.tail_reads [])
  rw [List.append_nil, List.append_nil] at htail
  simp [text, List.getLast?_append, List.getLast?_cons, htail, hlast]

end Inline

end Crosslink.Link
