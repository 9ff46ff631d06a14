import Crosslink.Console.Text
import Crosslink.Text.Blank

/-!
# Wrapping

Text is broken into lines of a given width. Tabs go to the next multiple of eight columns. A
line is broken before a word that does not fit on what is left of it, and blanks that stick out
at its end are cut off. A word that is wider than a line is folded, or it is cut with an
ellipsis.
-/

namespace Crosslink.Console

/-- The distance of tab stops. -/
def tabStop : Nat := 8

/-- Replace tabs by spaces, at least one each, `column` columns having been shown. -/
def expandTabsFrom (column : Nat) : (part : List Char) → List Char → List Char
  | part, [] => part.reverse
  | part, c :: cs =>
    if c == '\t' then
      let part := ' ' :: part
      let there := column + Text.charsWidth part.reverse
      let gap := (tabStop - there % tabStop) % tabStop
      part.reverse ++ List.replicate gap ' ' ++ expandTabsFrom (there + gap) [] cs
    else expandTabsFrom column (c :: part) cs

/-- Replace the tabs of a line by spaces. -/
def expandTabs (cs : List Char) : List Char := expandTabsFrom 0 [] cs

/-- A word with the blanks around it at the front, and what follows it; nothing if only blanks
are left. -/
def word? (cs : List Char) : Option (List Char × List Char) :=
  let before := cs.takeWhile Text.isBlank
  let body := (cs.drop before.length).takeWhile (!Text.isBlank ·)
  let rest := cs.drop (before.length + body.length)
  if body.isEmpty then none
  else some (before ++ body ++ rest.takeWhile Text.isBlank, rest.dropWhile Text.isBlank)

/-- Cut a word into pieces of at most `width` columns. -/
def chop (width : Nat) : (piece : List Char) → List Char → List (List Char)
  | piece, [] => if piece.isEmpty then [] else [piece.reverse]
  | piece, c :: cs =>
    if width < Text.charsWidth (c :: piece).reverse && !piece.isEmpty then
      piece.reverse :: chop width [c] cs
    else chop width (c :: piece) cs

/-- Break a line into lines: `line` is what the current one holds so far, which takes `column`
columns, and `start` tells whether nothing has been placed yet. -/
def breakFrom (width : Nat) (fold : Bool) :
    (fuel : Nat) → (line : List Char) → (column : Nat) → (start : Bool) → List Char →
      List (List Char)
  | 0, line, _, _, _ => [line]
  | fuel + 1, line, column, start, cs =>
    match word? cs with
    | none => [line ++ cs]
    | some (word, rest) =>
      let wordWidth := Text.charsWidth (Text.trimEnd word)
      let fullWidth := Text.charsWidth word
      if wordWidth + column ≤ width then
        breakFrom width fold fuel (line ++ word) (column + fullWidth) false rest
      else if width < wordWidth then
        let before := if start then [] else [line]
        if fold then
          let pieces := chop width [] word
          let last := pieces.getLast?.getD []
          before ++ pieces.dropLast
            ++ breakFrom width fold fuel last (Text.charsWidth last) false rest
        else before ++ breakFrom width fold fuel word fullWidth false rest
      else if column != 0 && !start then
        line :: breakFrom width fold fuel word fullWidth false rest
      else breakFrom width fold fuel (line ++ word) column false rest

/-- A line without blanks that stick out, as counted in characters. -/
def cutBlanks (width : Nat) (cs : List Char) : List Char :=
  let blanks := cs.length - (Text.trimEnd cs).length
  cs.take (cs.length - min blanks (cs.length - width))

/-- The longest beginning of at most `width` columns, filled up with spaces. -/
def crop (width : Nat) (cs : List Char) : List Char :=
  let fits (n : Nat) : Bool := Text.charsWidth (cs.take n) ≤ width
  let n := (List.range (cs.length + 1)).foldl (fun best n => if fits n then n else best) 0
  let kept := cs.take n
  kept ++ List.replicate (width - Text.charsWidth kept) ' '

/-- Cut a line that is too wide: with an ellipsis at its end unless words are folded. -/
def truncate (width : Nat) (fold : Bool) (cs : List Char) : List Char :=
  if Text.charsWidth cs ≤ width then cs
  else if fold then crop width cs
  else crop (width - 1) cs ++ ['…']

/-- The lines of a text in a given width. -/
def wrap (width : Nat) (fold : Bool) (text : String) : List String :=
  (text.toList.splitOn '\n').flatMap fun line =>
    let cs := expandTabs line
    (breakFrom width fold (cs.length + 1) [] 0 true cs).map fun l =>
      String.ofList (truncate width fold (cutBlanks width l))

end Crosslink.Console
