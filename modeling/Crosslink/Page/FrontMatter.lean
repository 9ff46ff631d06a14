import Crosslink.Error
import Crosslink.Json.Reader
import Crosslink.Text.Blank
import Crosslink.Text.LineBreak
import Crosslink.Yaml.Document

/-!
# Front matter

The block of metadata at the beginning of a page. Two questions are asked of a text: where
its body begins, which is decided by a block of dashes alone, and which metadata it has,
which may also stand between braces and tolerates blanks before the block.
-/

namespace Crosslink.FrontMatter

/-! ## Where the body begins -/

/-- What follows a line break at the front. -/
def dropBreak? : List Char → Option (List Char)
  | '\n' :: rest => some rest
  | '\r' :: '\n' :: rest => some rest
  | _ => none

/-- What follows the opening line: a byte-order mark may precede it. -/
def dropOpening? (cs : List Char) : Option (List Char) :=
  let cs := match cs with
    | '\ufeff' :: rest => rest
    | cs => cs
  match cs with
  | '-' :: '-' :: '-' :: rest => dropBreak? (rest.dropWhile Text.isGap)
  | _ => none

/-- What follows a closing line of dashes or dots. -/
def dropClosing? (cs : List Char) : Option (List Char) :=
  let tail? := match cs with
    | '-' :: '-' :: '-' :: rest => some rest
    | '.' :: '.' :: '.' :: rest => some rest
    | _ => none
  tail?.bind fun tail =>
    match tail.dropWhile Text.isGap with
    | [] => some []
    | rest => dropBreak? rest

/-- What follows the first closing line that stands after a line feed. -/
def dropLines? : List Char → Option (List Char)
  | [] => none
  | c :: cs =>
    if c == '\n' then
      match dropClosing? cs with
      | some rest => some rest
      | none => dropLines? cs
    else dropLines? cs

/-- What follows the block at the front of a text. A closing line right after the opening
one counts only if there is no later one. -/
def dropBlock? (text : List Char) : Option (List Char) :=
  (dropOpening? text).bind fun rest => (dropLines? rest).orElse fun _ => dropClosing? rest

/-- The offset at which the body of a text begins. -/
def bodyOffset (text : List Char) : Nat :=
  match dropBlock? text with
  | some body => text.length - body.length
  | none => 0

/-! ## Metadata -/

/-- What follows a line of dashes with the blanks after it, up to the last line feed among
them. -/
def dropDashes? (cs : List Char) : Option (List Char) :=
  if (cs.takeWhile (· == '-')).length < 3 then none
  else
    let rest := cs.dropWhile (· == '-')
    let blanks := rest.takeWhile Text.isBlank
    let after := rest.dropWhile Text.isBlank
    if after.isEmpty then some []
    else if blanks.contains '\n' then
      some ('\n' :: (blanks.reverse.takeWhile (· != '\n')).reverse ++ after)
    else none

/-- What follows a brace that is alone on its line. -/
def dropBrace? (cs : List Char) : Option (List Char) :=
  match cs with
  | c :: rest =>
    if c == '\x7b' || c == '\x7d' then
      match rest with
      | [] => some []
      | d :: _ => if d == '\n' then some rest else none
    else none
  | [] => none

/-- The text before the first fence that begins a line, and the text after it.
`lineStart` tells whether the first character begins one. -/
def splitFence? (fence : List Char → Option (List Char)) :
    (lineStart : Bool) → List Char → Option (List Char × List Char)
  | _, [] => none
  | lineStart, c :: cs =>
    match if lineStart then fence (c :: cs) else none with
    | some rest => some ([], rest)
    | none => (splitFence? fence (c == '\n') cs).map fun (before, rest) => (c :: before, rest)

/-- The text between the first two fences. -/
def between? (fence : List Char → Option (List Char)) (text : List Char) : Option (List Char) :=
  (splitFence? fence true text).bind fun (_, rest) =>
    (splitFence? fence false rest).map (·.1)

/-- The styles of metadata. -/
inductive Style where
  | dashes
  | braces
  deriving DecidableEq, Repr

/-- The fence of a style. -/
def Style.dropFence? : Style → List Char → Option (List Char)
  | .dashes => dropDashes?
  | .braces => dropBrace?

/-- The style whose fence begins a text. -/
def styleOf? (text : List Char) : Option Style :=
  if (dropDashes? text).isSome then some .dashes
  else if (dropBrace? text).isSome then some .braces
  else none

/-- The value of metadata in YAML. -/
def ofYaml (file : Path) (block : List Char) : Except Failure Value :=
  (Yaml.load .page block).mapError (Failure.ofDocument (.malformedFrontMatter file))

/-- The value of metadata in braces. -/
def ofJson (block : List Char) : Except Failure Value :=
  (Json.read ('\x7b' :: block ++ ['\x7d'])).mapError fun
    | .malformed => .fault .malformedJson
    | .longNumber => .fault .impossibleValue
    | .tooDeep => .fault .tooDeep

/-- The names that pages use for themselves. -/
def reserved : List String := ["content", "handler", "self"]

/-- The fields of a mapping; every key must be a name that is not reserved. -/
def fieldsOf : List (Value × Value) → Except Failure Fields
  | [] => .ok []
  | (.text name, v) :: rest =>
    if reserved.contains name then .error (.fault .reservedField)
    else (fieldsOf rest).map ((name, v) :: ·)
  | _ :: _ => .error (.fault .reservedField)

/-- The metadata of a text; a text without a block, or whose block is no mapping, has none.
The style is looked for in the text as it is and then without blanks around it. -/
def metadata (file : Path) (text : List Char) : Except Failure Fields :=
  let joined := Text.joinBreaks text
  let trimmed := Text.trim joined
  match (styleOf? joined).orElse fun _ => styleOf? trimmed with
  | none => .ok []
  | some style =>
    match between? style.dropFence? trimmed with
    | none => .ok []
    | some block => do
      let value ← match style with
        | .dashes => ofYaml file block
        | .braces => ofJson block
      match value with
      | .map entries => fieldsOf entries
      | _ => return []

end Crosslink.FrontMatter
