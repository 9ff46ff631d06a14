import Crosslink.Text.Blank
import Crosslink.Text.Span

/-!
# Inline links

The form `[text](target "title")`. The text may hold one level of brackets and may wrap,
but not across a blank line; the target may stand in angle brackets, and the title in
either kind of quotes. No choice has to be undone, so one pass from left to right decides.
-/

namespace Crosslink.Link

open Text (Span)

/-- The text of a link after its opening bracket, and what follows its closing one.
`inner` tells whether a nested bracket is open. -/
def label? : (inner : Bool) → List Char → Option (List Char × List Char)
  | _, [] => none
  | inner, c :: cs =>
    if c == ']' then
      if inner then (label? false cs).map fun (text, rest) => (c :: text, rest)
      else some ([], cs)
    else if c == '[' then
      if inner then none else (label? true cs).map fun (text, rest) => (c :: text, rest)
    else if c == '\n' && (inner || Text.startsBlankLine cs) then none
    else (label? inner cs).map fun (text, rest) => (c :: text, rest)

/-- May the character stand in a target without angle brackets? -/
def isBareChar (c : Char) : Bool :=
  !Text.isBlank c && c != '(' && c != ')' && c != '<' && c != '>'

/-- May the character stand in a target with angle brackets? -/
def isAngledChar (c : Char) : Bool := c != '<' && c != '>' && c != '\n'

/-- A target without its angle brackets, and what follows it. -/
def target? (cs : List Char) : Option (List Char × List Char) :=
  match cs with
  | '<' :: inner =>
    match inner.dropWhile isAngledChar with
    | '>' :: rest => some (inner.takeWhile isAngledChar, rest)
    | _ => none
  | _ =>
    let bare := cs.takeWhile isBareChar
    if bare.isEmpty then none else some (bare, cs.dropWhile isBareChar)

/-- A title after its opening quote, without escapes, and what follows its closing one. -/
def titleBody? (quote : Char) : List Char → Option (List Char × List Char)
  | [] => none
  | '\\' :: c :: cs =>
    if c == '\n' then none
    else (titleBody? quote cs).map fun (title, rest) => (c :: title, rest)
  | c :: cs =>
    if c == quote then some ([], cs)
    else if c == '\n' || c == '\\' then none
    else (titleBody? quote cs).map fun (title, rest) => (c :: title, rest)

/-- Target and title of a link. -/
structure Destination where
  url : List Char
  title : Option (List Char)
  deriving DecidableEq, Repr

/-- What follows gaps and a closing parenthesis, if they come first. -/
def closing? (cs : List Char) : Option (List Char) :=
  match cs.dropWhile Text.isGap with
  | ')' :: rest => some rest
  | _ => none

/-- A title that follows at least one gap, and what follows the title. -/
def title? (cs : List Char) : Option (List Char × List Char) :=
  match cs with
  | gap :: _ =>
    if Text.isGap gap then
      match cs.dropWhile Text.isGap with
      | quote :: body => if quote == '"' || quote == '\'' then titleBody? quote body else none
      | [] => none
    else none
  | [] => none

/-- A destination after its opening parenthesis, and what follows its closing one. -/
def destination? (cs : List Char) : Option (Destination × List Char) := do
  let (url, rest) ← target? (cs.dropWhile Text.isGap)
  match closing? rest with
  | some rest => return (⟨url, none⟩, rest)
  | none =>
    let (title, rest) ← title? rest
    let rest ← closing? rest
    return (⟨url, some title⟩, rest)

/-- A link as it stands in a text. -/
structure Occurrence where
  /-- The offset of the opening bracket. -/
  start : Nat
  text : List Char
  destination : Destination
  /-- The destination with its parentheses. -/
  span : Span
  deriving DecidableEq, Repr

/-- The link that begins at `offset`, where `cs` begins. -/
def occurrenceAt? (offset : Nat) (cs : List Char) : Option Occurrence :=
  match cs with
  | '[' :: inner =>
    match label? false inner with
    | some (text, '(' :: rest) =>
      match destination? rest with
      | some (destination, after) =>
        let opening := offset + text.length + 2
        some ⟨offset, text, destination, ⟨opening, opening + 1 + (rest.length - after.length)⟩⟩
      | none => none
    | _ => none
  | _ => none

/-- Does the character before an opening bracket make it no link? -/
def guards (before : Option Char) : Bool := before == some '!' || before == some '\\'

/-- The links of a text that begins at `offset` after the character `before`. The first
`skip` characters belong to the link before. -/
def occurrencesFrom : (skip : Nat) → (before : Option Char) → (offset : Nat) → List Char →
    List Occurrence
  | _, _, _, [] => []
  | skip + 1, _, offset, c :: cs => occurrencesFrom skip (some c) (offset + 1) cs
  | 0, before, offset, c :: cs =>
    let found := if guards before then none else occurrenceAt? offset (c :: cs)
    match found with
    | some o => o :: occurrencesFrom (o.span.stop - offset - 1) (some c) (offset + 1) cs
    | none => occurrencesFrom 0 (some c) (offset + 1) cs

/-- The links of a text from an offset on, code included. -/
def occurrences (text : List Char) (offset : Nat) : List Occurrence :=
  let before := if offset = 0 then none else text[offset - 1]?
  occurrencesFrom 0 before offset (text.drop offset)

end Crosslink.Link
