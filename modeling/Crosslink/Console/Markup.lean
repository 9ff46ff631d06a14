import Crosslink.Console.Emoji
import Crosslink.Console.Text

/-!
# Markup

Text with the names of styles in brackets. A backslash before such a name makes it text, and
backslashes before that one are halved. Elsewhere a backslash before a bracket is dropped. Emoji
can be written by name inside one run of text, which ends where a style does.
-/

namespace Crosslink.Console.Markup

/-- May the character begin the name of a style? -/
def isStyleStart (c : Char) : Bool :=
  ('a' ≤ c && c ≤ 'z') || c == '#' || c == '/' || c == '@'

/-- The number of characters of a style in brackets at the front, or nothing. -/
def styleLength? (cs : List Char) : Option Nat :=
  match cs with
  | '[' :: c :: rest =>
    if isStyleStart c then
      let name := rest.takeWhile fun d => d != '[' && d != ']'
      match rest.drop name.length with
      | ']' :: _ => some (name.length + 3)
      | _ => none
    else none
  | _ => none

/-- The backslashes at the front and the style after them, if one is there. -/
def splitStyle? (cs : List Char) : Option (Nat × List Char × List Char) :=
  let slashes := (cs.takeWhile (· == '\\')).length
  let body := cs.drop slashes
  (styleLength? body).map fun n => (slashes, body.take n, body.drop n)

/-- Protect everything that looks like a style. The first `skip` characters are done. -/
def protectFrom : (skip : Nat) → List Char → List Char
  | _, [] => []
  | skip + 1, _ :: cs => protectFrom skip cs
  | 0, c :: cs =>
    match splitStyle? (c :: cs) with
    | some (slashes, style, _) =>
      List.replicate (2 * slashes + 1) '\\' ++ style
        ++ protectFrom (slashes + style.length - 1) cs
    | none => c :: protectFrom 0 cs

/-- Double a backslash that stands alone at the end. -/
def doubleLast (cs : List Char) : List Char :=
  match cs.reverse with
  | ['\\'] => ['\\', '\\']
  | '\\' :: c :: _ => if c == '\\' then cs else cs ++ ['\\']
  | _ => cs

/-- Text as markup without styles. -/
def escape (s : String) : String := String.ofList (doubleLast (protectFrom 0 s.toList))

/-- Drop a backslash before each bracket. -/
def dropEscapes : List Char → List Char
  | [] => []
  | '\\' :: '[' :: cs => '[' :: dropEscapes cs
  | c :: cs => c :: dropEscapes cs

/-- The runs of text in markup, of which `run` is the beginning of the first in reverse. -/
def runsFrom : (fuel : Nat) → (run : List Char) → List Char → List (List Char)
  | 0, run, _ => [run.reverse]
  | fuel + 1, run, cs =>
    match splitStyle? cs, cs with
    | some (slashes, style, rest), _ =>
      run.reverse :: List.replicate (slashes / 2) '\\'
        :: (if slashes % 2 = 1 then [style] else []) ++ runsFrom fuel [] rest
    | none, c :: cs => runsFrom fuel (c :: run) cs
    | none, [] => [run.reverse]

/-- The text of markup as the console shows it. Each character is gone past once, so the length
of the markup is fuel enough. -/
def text (markup : String) : String :=
  let runs := runsFrom (markup.length + 1) [] markup.toList
  visible (String.ofList (runs.flatMap fun run => Emoji.replace (dropEscapes run)))

end Crosslink.Console.Markup
