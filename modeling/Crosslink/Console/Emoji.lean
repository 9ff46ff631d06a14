import Crosslink.Console.EmojiNames
import Crosslink.Number.Decimal
import Crosslink.Text.Blank
import Crosslink.Text.LowerCase

/-!
# Emoji by name

A name between two colons stands for an emoji, and it may ask for a style at its end. What is
between colons and names nothing stays as it is, its colons used up.
-/

namespace Crosslink.Console.Emoji

/-- The characters of code points in hexadecimal with dots between them. -/
def charsOf (codes : String) : List Char :=
  (codes.toList.splitOn '.').filterMap fun ds => (Number.natOfDigits? 16 ds).map Char.ofNat

/-- The names of emoji with their code points. -/
def entries : List (String × String) :=
  ((emojiNames.splitOn "\n").flatMap (·.splitOn " ")).filterMap fun entry =>
    match entry.splitOn "=" with
    | [name, codes] => some (name, codes)
    | _ => none

/-- The characters of the emoji with a name in lower case. -/
def find? (name : String) : Option (List Char) :=
  (entries.find? fun e => e.1 == name).map fun e => charsOf e.2

/-- Drop a suffix. -/
def dropSuffix? (suffix cs : List Char) : Option (List Char) :=
  if suffix.isSuffixOf cs then some (cs.take (cs.length - suffix.length)) else none

/-- A name without the style that it asks for, and the selector of that style. -/
def splitStyle (cs : List Char) : List Char × List Char :=
  match dropSuffix? "-emoji".toList cs, dropSuffix? "-text".toList cs with
  | some name, _ => (name, ['\ufe0f'])
  | none, some name => (name, ['\ufe0e'])
  | none, none => (cs, [])

/-- The characters that what is between colons stands for, in any case of letters. -/
def named? (cs : List Char) : Option (List Char) :=
  let (name, selector) := splitStyle cs
  (find? (Text.lowerString (String.ofList name))).map (· ++ selector)

/-- What is up to the next colon, if no blank comes before it. -/
def upToColon? (cs : List Char) : Option (List Char) :=
  let name := cs.takeWhile fun c => c != ':' && !Text.isBlank c
  match cs.drop name.length with
  | ':' :: _ => some name
  | _ => none

/-- Replace names between colons by emoji. The first `skip` characters are kept or left out with
what is before them. -/
def replaceFrom : (skip : Nat) → List Char → List Char
  | _, [] => []
  | skip + 1, _ :: cs => replaceFrom skip cs
  | 0, c :: cs =>
    if c == ':' then
      match upToColon? cs with
      | some name =>
        (named? name).getD (':' :: name ++ [':']) ++ replaceFrom (name.length + 1) cs
      | none => c :: replaceFrom 0 cs
    else c :: replaceFrom 0 cs

/-- Text with emoji in place of their names. -/
def replace (cs : List Char) : List Char := replaceFrom 0 cs

/-- Text without colons has no names. -/
theorem replace_of_not_mem {cs : List Char} (h : ':' ∉ cs) : replace cs = cs := by
  unfold replace
  induction cs with
  | nil => rfl
  | cons c cs ih =>
    have hc : (c == ':') = false := by
      simpa using fun e : c = ':' => h (e ▸ List.mem_cons_self)
    rw [replaceFrom, hc]
    simpa using ih fun m => h (List.mem_cons_of_mem _ m)

end Crosslink.Console.Emoji
