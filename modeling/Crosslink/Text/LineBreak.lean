/-!
# Line breaks and positions

Files are read with every line break as a single line feed. Positions are one-based
lines and columns that count line feeds and code points only.
-/

namespace Crosslink.Text

/-- Replace a carriage return with an optional line feed after it by one line feed. -/
def unifyBreaks : List Char → List Char
  | [] => []
  | '\r' :: '\n' :: cs => '\n' :: unifyBreaks cs
  | '\r' :: cs => '\n' :: unifyBreaks cs
  | c :: cs => c :: unifyBreaks cs

/-- Replace each carriage return and line feed pair by the line feed alone. -/
def joinBreaks : List Char → List Char
  | [] => []
  | '\r' :: '\n' :: cs => '\n' :: joinBreaks cs
  | c :: cs => c :: joinBreaks cs

/-- A place in a text, counted from one. -/
structure Position where
  line : Nat
  column : Nat
  deriving DecidableEq, Repr

/-- The place reached after reading `cs` from `p`. -/
def Position.advance (p : Position) (cs : List Char) : Position :=
  cs.foldl (fun p c => if c == '\n' then ⟨p.line + 1, 1⟩ else ⟨p.line, p.column + 1⟩) p

/-- The place of an offset in a text. -/
def positionOf (cs : List Char) (offset : Nat) : Position :=
  Position.advance ⟨1, 1⟩ (cs.take offset)

theorem Position.advance_append (p : Position) (xs ys : List Char) :
    p.advance (xs ++ ys) = (p.advance xs).advance ys := by
  simp only [Position.advance, List.foldl_append]

/-- Text without carriage returns is left as it is. -/
theorem unifyBreaks_of_not_mem {cs : List Char} (h : '\r' ∉ cs) : unifyBreaks cs = cs := by
  induction cs with
  | nil => rfl
  | cons c cs ih =>
    have hc : c ≠ '\r' := fun e => h (e ▸ List.mem_cons_self)
    have ht := ih fun m => h (List.mem_cons_of_mem _ m)
    unfold unifyBreaks
    split <;> simp_all

end Crosslink.Text
