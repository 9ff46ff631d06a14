import Crosslink.Link.Inline
import Crosslink.Proofs.Text.Run

/-!
# The grammar of destinations

What spells a target with its title is said by rules: the target is bare or stands in angle
brackets, the title stands in quotes behind it, and what a title in quotes says is found by taking
its escapes away. A destination is read from exactly the texts that spell it, and a text spells at
most one.
-/

namespace Crosslink.Link

open Text (Run)

/-- What an escaped text says: a backslash makes way for the character behind it, unless that is a
line feed. -/
def unescape : List Char → List Char
  | '\\' :: c :: cs => if c == '\n' then '\\' :: c :: unescape cs else c :: unescape cs
  | c :: cs => c :: unescape cs
  | [] => []

/-- Characters that can stand between quotes: one that ends the title only behind a backslash, and
no line feed. -/
inductive Quotable (quote : Char) : List Char → Prop
  | nil : Quotable quote []
  | plain {c : Char} {cs : List Char} (hquote : c ≠ quote) (hslash : c ≠ '\\') (hfeed : c ≠ '\n')
      (h : Quotable quote cs) : Quotable quote (c :: cs)
  | escaped {c : Char} {cs : List Char} (hfeed : c ≠ '\n') (h : Quotable quote cs) :
      Quotable quote ('\\' :: c :: cs)

/-- The characters are a target as it is written. -/
inductive SpellsTarget : (written url : List Char) → Prop
  | bare {url : List Char} (hne : url ≠ []) (h : ∀ c ∈ url, isBareChar c = true) :
      SpellsTarget url url
  | angled {url : List Char} (h : ∀ c ∈ url, isAngledChar c = true) :
      SpellsTarget ('<' :: (url ++ ['>'])) url

/-- The characters are a title in quotes. -/
inductive SpellsTitle : (written title : List Char) → Prop
  | quoted {quote : Char} {body : List Char} (hquote : quote = '"' ∨ quote = '\'')
      (h : Quotable quote body) : SpellsTitle (quote :: (body ++ [quote])) (unescape body)

/-- The characters are gaps. -/
def Gaps (cs : List Char) : Prop := ∀ c ∈ cs, Text.isGap c = true

theorem Gaps.dropWhile {gaps : List Char} (h : Gaps gaps) {c : Char} (hc : Text.isGap c = false)
    (rest : List Char) : (gaps ++ c :: rest).dropWhile Text.isGap = c :: rest :=
  (Text.run_append_cons h hc rest).eq.2

/-- What stands between the parentheses of a link spells its target and its title. -/
inductive Spells : (inside : List Char) → Destination → Prop
  | untitled {before target after url : List Char} (hbefore : Gaps before)
      (htarget : SpellsTarget target url) (hafter : Gaps after) :
      Spells (before ++ (target ++ after)) ⟨url, none⟩
  | titled {before target between quoted after url title : List Char} (hbefore : Gaps before)
      (htarget : SpellsTarget target url) (hbetween : Gaps between) (hne : between ≠ [])
      (htitle : SpellsTitle quoted title) (hafter : Gaps after) :
      Spells (before ++ (target ++ (between ++ (quoted ++ after)))) ⟨url, some title⟩

/-! ## Titles -/

theorem unescape_cons {c : Char} (h : c ≠ '\\') (cs : List Char) :
    unescape (c :: cs) = c :: unescape cs := by
  rw [unescape]
  rintro _ _ rfl
  exact absurd rfl h

theorem unescape_escaped {c : Char} (h : c ≠ '\n') (cs : List Char) :
    unescape ('\\' :: c :: cs) = c :: unescape cs := by
  rw [unescape, if_neg (by simpa using h)]

/-- A title is read up to its quote, without its escapes. -/
theorem titleBody?_of_quotable {quote : Char} (hquote : quote ≠ '\\') {body : List Char}
    (h : Quotable quote body) (rest : List Char) :
    titleBody? quote (body ++ quote :: rest) = some (unescape body, rest) := by
  induction h with
  | nil =>
    rw [List.nil_append, titleBody?, if_pos (beq_self_eq_true _)]
    · rfl
    · exact fun _ _ he _ => hquote he
  | plain hne hslash hfeed _ ih =>
    rw [List.cons_append, titleBody?, if_neg (by simpa using hne), if_neg (by simp [hfeed, hslash]),
      ih, unescape_cons hslash]
    · rfl
    · exact fun _ _ he _ => hslash he
  | escaped hfeed _ ih =>
    rw [List.cons_append, List.cons_append, titleBody?, if_neg (by simpa using hfeed), ih,
      unescape_escaped hfeed]
    rfl

theorem quotable_of_titleBody? {quote : Char} {cs title rest : List Char}
    (h : titleBody? quote cs = some (title, rest)) :
    ∃ body, cs = body ++ quote :: rest ∧ Quotable quote body ∧ title = unescape body := by
  fun_induction titleBody? quote cs generalizing title with
  | case1 => cases h
  | case2 cs => cases h
  | case3 c cs hc ih =>
    obtain ⟨⟨tail, rest'⟩, ht, he⟩ := Option.map_eq_some_iff.mp h
    cases he
    obtain ⟨body, rfl, hbody, rfl⟩ := ih ht
    have hc : c ≠ '\n' := by simpa using hc
    exact ⟨'\\' :: c :: body, rfl, .escaped hc hbody, (unescape_escaped hc body).symm⟩
  | case4 c cs hesc hc =>
    cases h
    obtain rfl := eq_of_beq hc
    exact ⟨[], rfl, .nil, rfl⟩
  | case5 => cases h
  | case6 c cs hesc hc hend ih =>
    obtain ⟨⟨tail, rest'⟩, ht, he⟩ := Option.map_eq_some_iff.mp h
    cases he
    obtain ⟨body, rfl, hbody, rfl⟩ := ih ht
    obtain ⟨hfeed, hslash⟩ : c ≠ '\n' ∧ c ≠ '\\' := by simpa using hend
    exact ⟨c :: body, rfl, .plain (by simpa using hc) hslash hfeed hbody,
      (unescape_cons hslash body).symm⟩

theorem Quotable.not_mem {quote : Char} {body : List Char} (h : Quotable quote body) :
    '\n' ∉ body := by
  induction h with
  | nil => exact List.not_mem_nil
  | plain _ _ hfeed _ ih => simp [hfeed.symm, ih]
  | escaped hfeed _ ih => simp [hfeed.symm, ih]

/-- What a title says has no line feed either. -/
theorem Quotable.not_mem_unescape {quote : Char} {body : List Char} (h : Quotable quote body) :
    '\n' ∉ unescape body := by
  induction h with
  | nil => exact List.not_mem_nil
  | plain _ hslash hfeed _ ih => simp [unescape_cons hslash, hfeed.symm, ih]
  | escaped hfeed _ ih => simp [unescape_escaped hfeed, hfeed.symm, ih]

/-- A title in quotes is read behind its gaps. -/
theorem title?_of_spells {between quoted title : List Char} (hbetween : Gaps between)
    (hne : between ≠ []) (h : SpellsTitle quoted title) (rest : List Char) :
    title? (between ++ (quoted ++ rest)) = some (title, rest) ∧
      closing? (between ++ (quoted ++ rest)) = none := by
  obtain ⟨hquote, hbody⟩ := h
  rename_i quote body
  have hgap : Text.isGap quote = false := by rcases hquote with rfl | rfl <;> rfl
  have hdrop := hbetween.dropWhile hgap (body ++ quote :: rest)
  have hread := titleBody?_of_quotable (by rcases hquote with rfl | rfl <;> decide) hbody rest
  obtain ⟨gap, gaps, rfl⟩ := List.exists_cons_of_ne_nil hne
  have hfirst : Text.isGap gap = true := hbetween gap List.mem_cons_self
  simp only [List.cons_append, List.append_assoc, List.nil_append] at hdrop hread ⊢
  constructor
  · rw [title?, if_pos hfirst, hdrop]
    simpa [hquote] using hread
  · rw [closing?, hdrop]
    rcases hquote with rfl | rfl <;> rfl

theorem spells_of_title? {cs title rest : List Char} (h : title? cs = some (title, rest)) :
    ∃ between quoted, cs = between ++ (quoted ++ rest) ∧ Gaps between ∧ between ≠ [] ∧
      SpellsTitle quoted title := by
  unfold title? at h
  split at h
  · rename_i gap tail
    split at h
    · rename_i hgap
      obtain ⟨hcs, hall, -⟩ := Text.run_takeWhile Text.isGap (gap :: tail)
      split at h
      · rename_i quote after hafter
        split at h
        · rename_i hquote
          obtain ⟨body, rfl, hbody, rfl⟩ := quotable_of_titleBody? h
          refine ⟨_, quote :: (body ++ [quote]), ?_, hall, ?_,
            .quoted (by simpa using hquote) hbody⟩
          · rw [hafter] at hcs
            simpa using hcs
          · rw [List.takeWhile_cons_of_pos hgap]
            exact List.cons_ne_nil _ _
        · cases h
      · cases h
    · cases h
  · cases h

/-! ## Targets -/

/-- Characters without blanks are no gaps. -/
theorem isGap_of_isBareChar {c : Char} (h : isBareChar c = true) : Text.isGap c = false := by
  cases hgap : Text.isGap c with
  | false => rfl
  | true =>
    rw [Text.isGap, Bool.or_eq_true, beq_iff_eq, beq_iff_eq] at hgap
    rcases hgap with rfl | rfl <;> exact absurd h (by decide)

/-- What spells a target begins with no gap. -/
theorem SpellsTarget.exists_cons {written url : List Char} (h : SpellsTarget written url) :
    ∃ c cs, written = c :: cs ∧ Text.isGap c = false := by
  cases h with
  | bare hne h =>
    obtain ⟨c, cs, rfl⟩ := List.exists_cons_of_ne_nil hne
    exact ⟨c, cs, rfl, isGap_of_isBareChar (h c List.mem_cons_self)⟩
  | angled h => exact ⟨_, _, rfl, rfl⟩

theorem SpellsTarget.ne_angle {written url : List Char} (h : SpellsTarget written url) :
    ∀ c ∈ url, c ≠ '<' ∧ c ≠ '>' := by
  intro c hc
  cases h with
  | bare _ h =>
    have := h c hc
    simp_all [isBareChar]
  | angled h =>
    have := h c hc
    simp_all [isAngledChar]

/-- A target is read where it is spelled, up to what cannot belong to it. -/
theorem target?_of_spells {before written url : List Char} (hbefore : Gaps before)
    (h : SpellsTarget written url) {rest : List Char}
    (hend : ∀ c ∈ rest.head?, isBareChar c = false) :
    target? ((before ++ (written ++ rest)).dropWhile Text.isGap) = some (url, rest) := by
  obtain ⟨c, cs, hcs, hgap⟩ := h.exists_cons
  have hdrop := hbefore.dropWhile hgap (cs ++ rest)
  rw [← List.cons_append, ← hcs] at hdrop
  rw [hdrop]
  cases h with
  | bare hne hbare =>
    obtain ⟨htake, hdrop⟩ := Run.eq ⟨rfl, hbare, hend⟩
    obtain rfl := hcs
    have hc : isBareChar c = true := hbare c List.mem_cons_self
    unfold target?
    split
    · rename_i heq
      cases heq
      exact absurd hc (by decide)
    · simp only [htake, hdrop]
      rfl
  | angled hangled =>
    obtain ⟨htake, hdrop⟩ := (Text.run_append_cons hangled (c := '>') rfl rest).eq
    rw [List.cons_append, List.append_assoc, List.singleton_append, target?, hdrop]
    simp only [htake]

theorem spells_of_target? {cs url rest : List Char} (h : target? cs = some (url, rest)) :
    ∃ written, cs = written ++ rest ∧ SpellsTarget written url := by
  unfold target? at h
  split at h
  · rename_i inner
    obtain ⟨hinner, hall, -⟩ := Text.run_takeWhile isAngledChar inner
    split at h
    · rename_i rest' hclose
      cases h
      refine ⟨'<' :: (inner.takeWhile isAngledChar ++ ['>']), ?_, .angled hall⟩
      rw [hclose] at hinner
      simpa using hinner
    · cases h
  · obtain ⟨hcs, hall, -⟩ := Text.run_takeWhile isBareChar cs
    dsimp only at h
    split at h
    · cases h
    · rename_i hempty
      cases h
      exact ⟨_, hcs, .bare (fun he => hempty (by rw [he]; rfl)) hall⟩

/-! ## Destinations -/

/-- A destination is a target, a title unless the target is closed at once, and the end. -/
theorem destination?_eq_some {cs after : List Char} {d : Destination} :
    destination? cs = some (d, after) ↔
      ∃ url rest, target? (cs.dropWhile Text.isGap) = some (url, rest) ∧
        (closing? rest = some after ∧ d = ⟨url, none⟩ ∨
          closing? rest = none ∧ ∃ title rest', title? rest = some (title, rest') ∧
            closing? rest' = some after ∧ d = ⟨url, some title⟩) := by
  constructor
  · intro h
    rw [destination?] at h
    rcases htarget : target? (cs.dropWhile Text.isGap) with _ | ⟨url, rest⟩ <;> rw [htarget] at h
    · cases h
    rcases hclose : closing? rest with _ | rest' <;>
      simp only [Option.bind_eq_bind, Option.bind_some, hclose] at h
    · rcases htitle : title? rest with _ | ⟨title, rest'⟩ <;> rw [htitle] at h
      · cases h
      rcases hclose' : closing? rest' with _ | rest'' <;>
        simp only [Option.bind_some, hclose'] at h <;> cases h
      exact ⟨url, rest, rfl, .inr ⟨hclose, title, rest', htitle, hclose', rfl⟩⟩
    · cases h
      exact ⟨url, rest, rfl, .inl ⟨hclose, rfl⟩⟩
  · rintro ⟨url, rest, htarget, ⟨hclose, rfl⟩ | ⟨hclose, title, rest', htitle, hclose', rfl⟩⟩
    · rw [destination?, htarget]
      simp only [Option.bind_eq_bind, Option.bind_some, hclose]
      rfl
    · rw [destination?, htarget]
      simp only [Option.bind_eq_bind, Option.bind_some, hclose, htitle, hclose']
      rfl

theorem closing?_of_gaps {after : List Char} (h : Gaps after) (rest : List Char) :
    closing? (after ++ ')' :: rest) = some rest := by
  rw [closing?, h.dropWhile (by rfl)]
  rfl

theorem gaps_of_closing? {cs rest : List Char} (h : closing? cs = some rest) :
    ∃ after, cs = after ++ ')' :: rest ∧ Gaps after := by
  obtain ⟨hcs, hall, -⟩ := Text.run_takeWhile Text.isGap cs
  rw [closing?] at h
  split at h
  · rename_i hclose
    cases h
    exact ⟨_, hclose ▸ hcs, hall⟩
  · cases h

/-- No gap and no parenthesis stands in a target without angle brackets. -/
theorem not_isBareChar_of_gaps {gaps rest : List Char} (hgaps : Gaps gaps)
    (hrest : gaps = [] → ∀ c ∈ rest.head?, isBareChar c = false) :
    ∀ c ∈ (gaps ++ rest).head?, isBareChar c = false := by
  intro c hc
  rcases gaps with _ | ⟨gap, gaps⟩
  · exact hrest rfl c hc
  · obtain rfl : gap = c := by simpa using hc
    cases hbare : isBareChar gap with
    | false => rfl
    | true =>
      have hgap := hgaps gap List.mem_cons_self
      rw [isGap_of_isBareChar hbare] at hgap
      cases hgap

/-- A destination is read where it is spelled, up to the parenthesis that closes it. -/
theorem Spells.destination? {inside : List Char} {d : Destination} (h : Spells inside d)
    (rest : List Char) : destination? (inside ++ ')' :: rest) = some (d, rest) := by
  cases h with
  | untitled hbefore htarget hafter =>
    simp only [List.append_assoc]
    refine destination?_eq_some.mpr ⟨_, _, target?_of_spells hbefore htarget ?_,
      .inl ⟨closing?_of_gaps hafter rest, rfl⟩⟩
    exact not_isBareChar_of_gaps hafter fun _ => by simp [isBareChar]
  | titled hbefore htarget hbetween hne htitle hafter =>
    simp only [List.append_assoc]
    obtain ⟨hread, hopen⟩ := title?_of_spells hbetween hne htitle (_ ++ ')' :: rest)
    refine destination?_eq_some.mpr ⟨_, _, target?_of_spells hbefore htarget ?_,
      .inr ⟨hopen, _, _, hread, closing?_of_gaps hafter rest, rfl⟩⟩
    exact not_isBareChar_of_gaps hbetween fun he => absurd he hne

theorem spells_of_destination? {cs rest : List Char} {d : Destination}
    (h : destination? cs = some (d, rest)) :
    ∃ inside, cs = inside ++ ')' :: rest ∧ Spells inside d := by
  obtain ⟨hcs, hbefore, -⟩ := Text.run_takeWhile Text.isGap cs
  obtain ⟨url, after, htarget, hend⟩ := destination?_eq_some.mp h
  obtain ⟨written, hwritten, hspells⟩ := spells_of_target? htarget
  rw [hwritten] at hcs
  rcases hend with ⟨hclose, rfl⟩ | ⟨-, title, rest', htitle, hclose, rfl⟩
  · obtain ⟨after, rfl, hafter⟩ := gaps_of_closing? hclose
    exact ⟨_, by simpa using hcs, .untitled hbefore hspells hafter⟩
  · obtain ⟨between, quoted, rfl, hbetween, hne, hquoted⟩ := spells_of_title? htitle
    obtain ⟨after, rfl, hafter⟩ := gaps_of_closing? hclose
    exact ⟨_, by simpa using hcs, .titled hbefore hspells hbetween hne hquoted hafter⟩

/-- A destination is read from exactly the texts that spell it. -/
theorem destination?_iff_spells {inside rest : List Char} {d : Destination} :
    destination? (inside ++ ')' :: rest) = some (d, rest) ↔ Spells inside d := by
  refine ⟨fun h => ?_, fun h => h.destination? rest⟩
  obtain ⟨inside', he, hspells⟩ := spells_of_destination? h
  rwa [List.append_cancel_right he]

/-- A text spells at most one destination. -/
theorem Spells.unique {inside : List Char} {d d' : Destination} (h : Spells inside d)
    (h' : Spells inside d') : d' = d := by
  have hread := h'.destination? []
  rw [h.destination? []] at hread
  exact (Prod.mk.inj (Option.some.inj hread)).1.symm

/-- The target is spelled behind gaps. -/
theorem Spells.exists_target {inside : List Char} {d : Destination} (h : Spells inside d) :
    ∃ before target after, inside = before ++ (target ++ after) ∧ Gaps before ∧
      SpellsTarget target d.url := by
  cases h with
  | untitled hbefore htarget _ => exact ⟨_, _, _, rfl, hbefore, htarget⟩
  | titled hbefore htarget _ _ _ _ => exact ⟨_, _, _, rfl, hbefore, htarget⟩

theorem Spells.not_mem_title {inside title : List Char} {d : Destination} (h : Spells inside d)
    (ht : d.title = some title) : '\n' ∉ title := by
  cases h with
  | untitled _ _ _ => cases ht
  | titled _ _ _ _ htitle _ =>
    cases ht
    obtain ⟨-, hbody⟩ := htitle
    exact hbody.not_mem_unescape

theorem Gaps.not_mem {cs : List Char} (h : Gaps cs) : '\n' ∉ cs :=
  fun hmem => absurd (h _ hmem) (by decide)

theorem SpellsTarget.not_mem {written url : List Char} (h : SpellsTarget written url) :
    '\n' ∉ written := by
  cases h with
  | bare _ h => exact fun hmem => absurd (h _ hmem) (by decide)
  | angled h =>
    have hurl : '\n' ∉ url := fun hmem => absurd (h _ hmem) (by decide)
    simp [hurl]

theorem SpellsTitle.not_mem {quoted title : List Char} (h : SpellsTitle quoted title) :
    '\n' ∉ quoted := by
  obtain ⟨hquote, hbody⟩ := h
  rename_i quote body
  have hquote : quote ≠ '\n' := by rcases hquote with rfl | rfl <;> decide
  simp [hquote.symm, hbody.not_mem]

/-- A destination is spelled on one line. -/
theorem Spells.not_mem {inside : List Char} {d : Destination} (h : Spells inside d) :
    '\n' ∉ inside := by
  cases h with
  | untitled hbefore htarget hafter =>
    simp [hbefore.not_mem, htarget.not_mem, hafter.not_mem]
  | titled hbefore htarget hbetween _ htitle hafter =>
    simp [hbefore.not_mem, htarget.not_mem, hbetween.not_mem, htitle.not_mem, hafter.not_mem]

end Crosslink.Link
