import Crosslink.Proofs.Link.Inline
import Crosslink.Proofs.Text.LineBreak

/-!
# Links and the ends of lines

A destination stands on one line. Whether one is read at the front of a text, and which, is settled
before the first line break, so it does not matter how the line ends and what follows. The label of
a link may wrap, but neither it nor a code span goes on behind a blank line.
-/

namespace Crosslink.Link

/-- The text begins with a line break. -/
def StartsBreak (cs : List Char) : Prop :=
  ∃ rest, cs = '\n' :: rest ∨ cs = '\r' :: '\n' :: rest

/-- A text that begins with a line break begins with one of its two characters. -/
theorem StartsBreak.exists_cons {cs : List Char} (h : StartsBreak cs) :
    ∃ c rest, cs = c :: rest ∧ (c = '\n' ∨ c = '\r') := by
  obtain ⟨rest, rfl | rfl⟩ := h
  · exact ⟨_, _, rfl, .inl rfl⟩
  · exact ⟨_, _, rfl, .inr rfl⟩

variable {brk : List Char}

/-! ## Destinations -/

/-- Gaps end before a line break. -/
theorem dropGaps_append_break (h : StartsBreak brk) (cs : List Char) :
    (cs ++ brk).dropWhile Text.isGap = cs.dropWhile Text.isGap ++ brk := by
  obtain ⟨c, rest, rfl, rfl | rfl⟩ := h.exists_cons
  · exact (Text.takeWhile_append_cons rfl cs rest).2
  · exact (Text.takeWhile_append_cons rfl cs rest).2

/-- Before a character that is not of the break, the line feed of the break has come. -/
theorem StartsBreak.mem_of_append {held rest : List Char} {c : Char} (hfeed : c ≠ '\n')
    (hreturn : c ≠ '\r') (h : StartsBreak (held ++ c :: rest)) : '\n' ∈ held := by
  obtain ⟨more, he | he⟩ := h <;> rcases held with _ | ⟨a, _ | ⟨b, held⟩⟩ <;> simp_all

/-- What spells a destination is closed before the line ends. -/
theorem Spells.exists_eq_append {inside cs rest : List Char} {d : Destination}
    (h : Spells inside d) (hbreak : StartsBreak brk) (he : cs ++ brk = inside ++ ')' :: rest) :
    ∃ after, cs = inside ++ ')' :: after ∧ rest = after ++ brk := by
  rcases List.append_eq_append_iff.mp he with ⟨held, rfl, rfl⟩ | ⟨after, rfl, hafter⟩
  · exact absurd (List.mem_append_right cs (hbreak.mem_of_append (by decide) (by decide))) h.not_mem
  · rcases after with _ | ⟨c, after⟩
    · rw [List.nil_append] at hafter
      subst hafter
      have hmem : '\n' ∈ [] := hbreak.mem_of_append (by decide) (by decide)
      cases hmem
    · obtain ⟨rfl, rfl⟩ := List.cons.inj hafter
      exact ⟨after, rfl, rfl⟩

/-- A destination is read before a line break as it is at the end of the text. -/
theorem destination?_append_break (h : StartsBreak brk) (cs : List Char) :
    destination? (cs ++ brk) = (destination? cs).map fun x => (x.1, x.2 ++ brk) := by
  cases hread : destination? cs with
  | some x =>
    obtain ⟨inside, rfl, hspells⟩ := spells_of_destination? hread
    rw [List.append_assoc, List.cons_append, hspells.destination?]
    rfl
  | none =>
    cases hbreak : destination? (cs ++ brk) with
    | none => rfl
    | some x =>
      obtain ⟨inside, he, hspells⟩ := spells_of_destination? hbreak
      obtain ⟨after, rfl, -⟩ := hspells.exists_eq_append h he
      rw [hspells.destination?] at hread
      cases hread

end Crosslink.Link
