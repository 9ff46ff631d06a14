import Crosslink.Yaml.Token
import Crosslink.Number.Decimal
import Crosslink.Text.Utf8
import Crosslink.Yaml.Fault

/-!
# Reading YAML tokens

A lexer keeps the columns of open block collections, the depth of flow collections and,
for each depth, the place where a key without a question mark may have begun. When a
colon shows that it did, the key token is inserted at that place. Every refuse is one:
the stream is malformed.
-/

namespace Crosslink.Yaml

/-- A place where a key without a question mark may have begun. -/
structure PossibleKey where
  /-- Depth of flow collections there. -/
  level : Nat
  /-- Number of tokens before it. -/
  tokenNumber : Nat
  /-- Must it turn out to be a key? -/
  required : Bool
  index : Nat
  line : Nat
  column : Nat
  deriving DecidableEq, Repr

/-- The state of reading. -/
structure Lexer where
  dialect : Dialect
  rest : List Char
  index : Nat
  line : Nat
  column : Nat
  flowLevel : Nat
  indent : Int
  indents : List Int
  keyAllowed : Bool
  keys : List PossibleKey
  tokens : Array Token

/-- A step of reading. -/
abbrev Lex := StateT Lexer (Except Fault)

namespace Lex

/-- The stream is malformed. -/
def refuse {α : Type} : Lex α := throw .malformed

/-- The character `k` places ahead. -/
def peekAt (k : Nat) : Lex (Option Char) := do return (← get).rest[k]?

/-- The next character. -/
def peek : Lex (Option Char) := peekAt 0

/-- Is the next character `c`? -/
def at? (c : Char) : Lex Bool := do return (← peek) == some c

/-- Go past one character. -/
def skip : Lex Unit := modify fun s =>
  match s.rest with
  | [] => s
  | c :: rest =>
    let s := { s with rest := rest, index := s.index + 1 }
    if c == '\r' && rest.head? == some '\n' then { s with column := s.column + 1 }
    else if isBreak c then { s with line := s.line + 1, column := 0 }
    else if c == '\ufeff' && !s.dialect.wideMark then s
    else { s with column := s.column + 1 }

/-- Go past `n` characters. -/
def skipMany : Nat → Lex Unit
  | 0 => pure ()
  | n + 1 => do skip; skipMany n

/-- Read the longest run of characters that satisfy `p`. -/
def readWhile (p : Char → Bool) : Lex (List Char) := do
  let run := (← get).rest.takeWhile p
  skipMany run.length
  return run

/-- Go past a line break, if one is next, and say what it stands for. -/
def readBreak : Lex (List Char) := do
  match ← peek with
  | some '\r' =>
    skip
    if ← at? '\n' then skip
    return ['\n']
  | some c =>
    if isBreak c then
      skip
      return [if c == '\n' || c == '\x85' then '\n' else c]
    else return []
  | none => return []

/-- Add a token. -/
def emit (t : Token) : Lex Unit := modify fun s => { s with tokens := s.tokens.push t }

/-- Insert a token before the token numbered `n`. -/
def insertToken (n : Nat) (t : Token) : Lex Unit :=
  modify fun s => { s with tokens := s.tokens.insertIdxIfInBounds n t }

/-- Set whether a key without a question mark may begin here. -/
def allowKey (allowed : Bool) : Lex Unit := modify fun s => { s with keyAllowed := allowed }

/-- Is the next token a document marker, three of `c` at the start of a line? -/
def atMarker (c : Char) : Lex Bool := do
  let s ← get
  return s.column == 0 && s.rest.take 3 == [c, c, c] && isBlankOrEnd s.rest[3]?

/-- Is either document marker next? -/
def atAnyMarker : Lex Bool := do return (← atMarker '-') || (← atMarker '.')

/-! ## Possible keys and indentation -/

/-- Forget the possible key of the current depth, which must not be a required one. -/
def dropKey : Lex Unit := do
  let s ← get
  if s.keys.any fun k => k.level == s.flowLevel && k.required then refuse
  set { s with keys := s.keys.filter fun k => k.level != s.flowLevel }

/-- Forget possible keys on earlier lines or more than 1024 characters back. -/
def dropStaleKeys : Lex Unit := do
  let s ← get
  let stale (k : PossibleKey) : Bool := k.line != s.line || 1024 < s.index - k.index
  if s.keys.any fun k => stale k && k.required then refuse
  set { s with keys := s.keys.filter fun k => !stale k }

/-- Note that a key may begin here. -/
def noteKey : Lex Unit := do
  let s ← get
  if s.keyAllowed then
    dropKey
    modify fun t => { t with keys :=
      ⟨s.flowLevel, s.tokens.size, s.flowLevel == 0 && s.indent == s.column,
        s.index, s.line, s.column⟩ :: t.keys }

/-- Close block collections that are indented more than `column`. -/
def closeTo (column : Int) : List Int → Lex Unit
  | [] => pure ()
  | outer :: indents => do
    let s ← get
    if s.flowLevel == 0 && column < s.indent then
      set { s with indent := outer, indents := indents, tokens := s.tokens.push .blockEnd }
      closeTo column indents

/-- Close block collections that end before `column`. -/
def unwind (column : Int) : Lex Unit := do closeTo column (← get).indents

/-- Open a block collection at a column that is indented more than the current one. -/
def indentTo (column : Nat) : Lex Bool := do
  let s ← get
  if s.indent < column then
    set { s with indents := s.indent :: s.indents, indent := column }
    return true
  else return false

/-! ## Names, tags and directives -/

/-- Go past spaces, and past tabs where the dialect allows. -/
def skipBlanks : Lex Unit := do
  let tabs := (← get).dialect.tabs
  let _ ← readWhile fun c => c == ' ' || (tabs && c == '\t')

/-- The rest of a line that holds only blanks and a comment. -/
def skipLineEnd : Lex Unit := do
  skipBlanks
  if ← at? '#' then
    let _ ← readWhile fun c => !isBreak c
  if !isBreakOrEnd (← peek) then refuse
  let _ ← readBreak

/-- The name after an anchor or alias indicator. -/
def readName : Lex String := do
  skip
  let name ← readWhile isWord
  if name.isEmpty then refuse
  let next ← peek
  if !(isBlankOrEnd next || next.any fun c => "?:,]\x7d%@".toList.contains c || c.toNat == 0x60) then
    refuse
  return String.ofList name

/-- Characters of a tag or of the beginning that a tag directive names. -/
def isTagChar (whole brackets : Bool) (c : Char) : Bool :=
  isWord c || ";/?:@&=+$.!~*'()%".toList.contains c
    || ((whole || brackets) && ",[]".toList.contains c)

/-- Two hexadecimal digits after a percent sign, as a byte. -/
def percentByte? : List Char → Option (UInt8 × List Char)
  | '%' :: a :: b :: rest => (Number.natOfDigits? 16 [a, b]).map fun n => (UInt8.ofNat n, rest)
  | _ => none

/-- Undo percent escapes, which must spell characters. -/
def unescapeTag : (fuel : Nat) → List UInt8 → List Char → Option (List Char)
  | 0, _, _ => none
  | fuel + 1, pending, cs =>
    match cs with
    | '%' :: _ => do
      let (b, rest) ← percentByte? cs
      unescapeTag fuel (pending ++ [b]) rest
    | _ => do
      let spelled ← (Text.Utf8.decode pending).toOption
      match cs with
      | [] => return spelled
      | c :: rest => return spelled ++ c :: (← unescapeTag fuel [] rest)

/-- The text of a tag, which may not be empty. -/
def readTagText (whole : Bool) : Lex String := do
  let brackets := (← get).dialect.tagBrackets
  let run ← readWhile (isTagChar whole brackets)
  if run.isEmpty then refuse
  match unescapeTag (run.length + 1) [] run with
  | some cs => return String.ofList cs
  | none => refuse

/-- A tag handle: an exclamation mark, or a word between two of them. -/
def readHandle : Lex String := do
  if !(← at? '!') then refuse
  skip
  let word ← readWhile isWord
  if ← at? '!' then
    skip
    return String.ofList ('!' :: word ++ ['!'])
  else if word.isEmpty then return "!"
  else refuse

/-- Does the tag with these characters after its exclamation mark begin with a handle? The
strict rule is content with an exclamation mark before the next space, and leaves it to
reading the handle to refuse what stands between. -/
def hasHandle (strict : Bool) (cs : List Char) : Bool :=
  if strict then (cs.takeWhile fun c => !(isSpaceOrEnd (some c))).contains '!'
  else (cs.dropWhile isWord).head? == some '!'

/-- A tag: verbatim, the lone mark, or a handle with the rest. -/
def readTag : Lex Token := do
  let s ← get
  let found ← match ← peekAt 1 with
    | some '<' => do
      skipMany 2
      let suffix ← readTagText true
      if !(← at? '>') then refuse
      skip
      pure (Token.tag none suffix)
    | next => do
      if isBlankOrEnd next || (s.dialect.tagComma && s.flowLevel != 0 && next == some ',') then
        skip
        pure (Token.tag none "!")
      else if hasHandle s.dialect.strictHandles (s.rest.drop 1) then
        let handle ← readHandle
        if handle == "!" then refuse
        let suffix ← readTagText false
        pure (Token.tag (some handle) suffix)
      else
        skip
        let suffix ← readTagText false
        pure (Token.tag (some "!") suffix)
  let next ← peek
  let s ← get
  if isSpaceOrEnd next || (s.dialect.tabs && next == some '\t')
      || (s.dialect.tagComma && s.flowLevel != 0 && next == some ',') then
    return found
  else refuse

/-- A number of a version directive. -/
def readVersionNumber : Lex Nat := do
  let ds ← readWhile Number.isDigit
  if (← get).dialect.shortVersions && 9 < ds.length then refuse
  match Number.natOfDigits? 10 ds with
  | some n => return n
  | none => refuse

/-- A directive, from its percent sign to the end of its line. -/
def readDirective : Lex Directive := do
  let dialect := (← get).dialect
  let ends (next : Option Char) : Bool :=
    isSpaceOrEnd next || (dialect.tabs && next == some '\t')
  skip
  let name ← readWhile isWord
  if name.isEmpty || !ends (← peek) then refuse
  let found ←
    if name == "YAML".toList then do
      skipBlanks
      let major ← readVersionNumber
      if !(← at? '.') then refuse
      skip
      let minor ← readVersionNumber
      if !(dialect.shortVersions || ends (← peek)) then refuse
      pure (Directive.version major minor)
    else if name == "TAG".toList then do
      skipBlanks
      let handle ← readHandle
      if !ends (← peek) then refuse
      skipBlanks
      let leading ← readTagText true
      if !ends (← peek) then refuse
      pure (Directive.tag handle leading)
    else if dialect.otherDirectives then do
      let _ ← readWhile fun c => !isBreak c
      pure Directive.other
    else refuse
  skipLineEnd
  return found

/-! ## Scalars -/

/-- Blanks and breaks between two pieces of a scalar. -/
structure Gap where
  /-- Blanks before the first break. -/
  blanks : List Char
  /-- Has a break been read? -/
  broken : Bool
  /-- What the first break stands for; nothing if it was escaped. -/
  lead : List Char
  /-- What later breaks stand for. -/
  trail : List Char

/-- The characters a gap folds to: a single break becomes a space, several lose one. -/
def Gap.fold (g : Gap) : List Char :=
  if !g.broken then g.blanks
  else if g.lead == ['\n'] then (if g.trail.isEmpty then [' '] else g.trail)
  else g.lead ++ g.trail

/-- Read blanks and breaks. After a break a document marker ends the gap, and a tab left of
`indent` is refused if one is given. -/
def readGap (tabs : Bool) (indent : Option Int) : (fuel : Nat) → Gap → Lex Gap
  | 0, g => pure g
  | fuel + 1, g => do
    match ← peek with
    | none => return g
    | some c =>
      if c == ' ' || (tabs && c == '\t') then
        let column : Int := (← get).column
        if c == '\t' && g.broken && indent.any fun i => column < i then refuse
        skip
        readGap tabs indent fuel (if g.broken then g else { g with blanks := g.blanks ++ [c] })
      else if isBreak c then
        let b ← readBreak
        let g := if g.broken then { g with trail := g.trail ++ b }
          else { g with broken := true, lead := b }
        if ← atAnyMarker then return g else readGap tabs indent fuel g
      else return g

/-- Does unquoted text end at the front of `cs`? Nothing if that is an error. -/
def endsPlain (d : Dialect) (flow : Bool) : List Char → Option Bool
  | [] => some true
  | c :: rest =>
    let next := rest.head?
    if isBlankOrEnd (some c) then some true
    else if c == ':' && isBlankOrEnd next then some true
    else if !flow then some false
    else if c == ':' && next.any fun n => ",[]\x7b\x7d".toList.contains n
        || (n == '?' && !d.flowQuestion) then
      if d.flowQuestion then some true else none
    else some (",[]\x7b\x7d".toList.contains c || (c == '?' && d.flowQuestion))

/-- Read unquoted text without blanks. -/
def readPlainChunk (d : Dialect) (flow : Bool) : (fuel : Nat) → Lex (List Char)
  | 0 => pure []
  | fuel + 1 => do
    let cs := (← get).rest
    match endsPlain d flow cs, cs with
    | some false, c :: _ =>
      skip
      return c :: (← readPlainChunk d flow fuel)
    | some _, _ => return []
    | none, _ => refuse

/-- Read further chunks of unquoted text after `text` and a gap. -/
def readPlain (indent : Int) : (fuel : Nat) → (text gap : List Char) → Lex (List Char)
  | 0, text, _ => pure text
  | fuel + 1, text, gap => do
    let s ← get
    if ← at? '#' then return text
    let chunk ← readPlainChunk s.dialect (s.flowLevel != 0) (s.rest.length + 1)
    if chunk.isEmpty then return text
    allowKey false
    let text := text ++ gap ++ chunk
    let before := (← get).index
    let tabs := s.dialect.tabs
    let gap ← readGap tabs (if tabs then some indent else none) ((← get).rest.length + 1)
      ⟨[], false, [], []⟩
    if gap.broken then allowKey true
    let t ← get
    if t.index == before || (gap.broken && (← atAnyMarker))
        || (t.flowLevel == 0 && (t.column : Int) < indent) then
      return text
    readPlain indent fuel text gap.fold

/-- The character of a one-letter escape. -/
def escape? : Char → Option Char
  | '0' => some '\x00'
  | 'a' => some '\x07'
  | 'b' => some '\x08'
  | 't' => some '\t'
  | '\t' => some '\t'
  | 'n' => some '\n'
  | 'v' => some '\x0b'
  | 'f' => some '\x0c'
  | 'r' => some '\r'
  | 'e' => some '\x1b'
  | ' ' => some ' '
  | '"' => some '"'
  | '\\' => some '\\'
  | '/' => some '/'
  | 'N' => some '\x85'
  | '_' => some '\u00a0'
  | 'L' => some '\u2028'
  | 'P' => some '\u2029'
  | _ => none

/-- The number of digits of a numeric escape. -/
def escapeDigits? : Char → Option Nat
  | 'x' => some 2
  | 'u' => some 4
  | 'U' => some 8
  | _ => none

/-- The character of a number in an escape. Where the dialect is loose, half of a pair stands for
the replacement character, and a number past the last character is a fault of its own. -/
def namedChar (d : Dialect) (code : Nat) : Lex Char :=
  if code.isValidChar then return Char.ofNat code
  else if !d.looseEscapes then refuse
  else if code < 0x110000 then return '\ufffd'
  else throw (if code < 0x80000000 then .impossible else .overflow)

/-- Read the inside of a quoted scalar up to its closing quote. -/
def readQuoted (double : Bool) : (fuel : Nat) → List Char → Lex (List Char)
  | 0, _ => refuse
  | fuel + 1, text => do
    match ← peek with
    | none => refuse
    | some c =>
      if c == '\'' && !double then
        skip
        if ← at? '\'' then
          skip
          readQuoted double fuel (text ++ ['\''])
        else return text
      else if c == '"' && double then
        skip
        return text
      else if c == '\\' && double then
        skip
        match ← peek with
        | none => refuse
        | some e =>
          if isBreak e then
            let _ ← readBreak
            if ← atAnyMarker then refuse
            let gap ← readGap true none ((← get).rest.length + 1) ⟨[], true, [], []⟩
            if ← atAnyMarker then refuse
            readQuoted double fuel (text ++ gap.fold)
          else match escape? e, escapeDigits? e with
            | some ch, _ =>
              skip
              readQuoted double fuel (text ++ [ch])
            | none, some n =>
              skip
              let digits := (← get).rest.take n
              if digits.length != n then refuse
              match Number.natOfDigits? 16 digits with
              | none => refuse
              | some code =>
                skipMany n
                let ch ← namedChar (← get).dialect code
                readQuoted double fuel (text ++ [ch])
            | none, none => refuse
      else if isBlankOrEnd (some c) then
        let gap ← readGap true none ((← get).rest.length + 1) ⟨[], false, [], []⟩
        if gap.broken && (← atAnyMarker) then refuse
        readQuoted double fuel (text ++ gap.fold)
      else
        skip
        readQuoted double fuel (text ++ [c])

/-- How the breaks at the end of a block scalar are kept. -/
inductive Chomping where
  | clip
  | strip
  | keep
  deriving DecidableEq, Repr

/-- The chomping indicator, if one is next. -/
def readChomping : Lex (Option Chomping) := do
  match ← peek with
  | some '+' => skip; return some .keep
  | some '-' => skip; return some .strip
  | _ => return none

/-- The indentation indicator, if one is next; it is not zero. -/
def readIncrement : Lex (Option Nat) := do
  match ← peek with
  | some c =>
    match Number.digit? 10 c with
    | some 0 => refuse
    | some n => skip; return some n
    | none => return none
  | none => return none

/-- Indentation and blank lines before the next line of a block scalar. Without a given
indentation the greatest column reached is found too. -/
def readIndentation (indent : Option Int) :
    (fuel : Nat) → (breaks : List Char) → (deepest : Nat) → Lex (List Char × Nat)
  | 0, breaks, deepest => pure (breaks, deepest)
  | fuel + 1, breaks, deepest => do
    let s ← get
    let inside := match indent with
      | some i => decide ((s.column : Int) < i)
      | none => true
    match s.rest.head? with
    | some c =>
      if c == ' ' && inside then
        skip
        readIndentation indent fuel breaks (max deepest (← get).column)
      else if c == '\t' && inside && s.dialect.tabs then refuse
      else if isBreak c then
        let b ← readBreak
        readIndentation indent fuel (breaks ++ b) deepest
      else return (breaks, deepest)
    | none => return (breaks, deepest)

/-- The lines of a block scalar: `breaks` are the blank lines before the next one and
`last` the break that ended the line before, with `spaced` if that line began blank. -/
def readBlockLines (folded : Bool) (indent : Int) :
    (fuel : Nat) → (text last breaks : List Char) → (spaced first : Bool) →
      Lex (List Char × List Char × List Char)
  | 0, text, last, breaks, _, _ => pure (text, last, breaks)
  | fuel + 1, text, last, breaks, spaced, first => do
    let s ← get
    if (s.column : Int) != indent || s.rest.isEmpty then return (text, last, breaks)
    let blankStart := s.rest.head?.any fun c => c == ' ' || c == '\t'
    let joint :=
      if first then []
      else if folded && last == ['\n'] && !spaced && !blankStart then
        (if breaks.isEmpty then [' '] else [])
      else last
    let line ← readWhile fun c => !isBreak c
    let ending ← readBreak
    let (after, _) ← readIndentation (some indent) ((← get).rest.length + 1) [] 0
    readBlockLines folded indent fuel (text ++ joint ++ breaks ++ line) ending after
      blankStart false

/-- A block scalar from its indicator on. -/
def readBlockScalar (folded : Bool) : Lex Token := do
  skip
  let (chomping, increment) ← (do
    match ← readChomping with
    | some c => return (some c, ← readIncrement)
    | none =>
      let n ← readIncrement
      match n with
      | some _ => return (← readChomping, n)
      | none => return (none, none) : Lex (Option Chomping × Option Nat))
  let s ← get
  let next ← peek
  if !(isSpaceOrEnd next || (s.dialect.tabs && (next == some '\t' || next == some '#'))) then
    refuse
  skipLineEnd
  let least : Int := max 1 (s.indent + 1)
  let fuel := (← get).rest.length + 1
  let (indent, breaks) ← match increment with
    | some n => do
      let indent := least + n - 1
      let (breaks, _) ← readIndentation (some indent) fuel [] 0
      pure (indent, breaks)
    | none => do
      let (breaks, deepest) ← readIndentation none fuel [] 0
      pure (max least deepest, breaks)
  let (text, last, after) ← readBlockLines folded indent fuel [] [] breaks false true
  let ending := match chomping with
    | some .strip => []
    | some .keep => last ++ after
    | _ => last
  return .scalar false (String.ofList (text ++ ending))

/-! ## Tokens -/

/-- Go past blanks, comments and breaks to the next token. A break in block context makes a
key possible. -/
def skipToToken : (fuel : Nat) → Lex Unit
  | 0 => pure ()
  | fuel + 1 => do
    let s ← get
    if s.dialect.wideMark && s.column == 0 && (← at? '\ufeff') then skip
    let tabs := s.dialect.tabs && (s.flowLevel != 0 || !s.keyAllowed)
    let _ ← readWhile fun c => c == ' ' || (tabs && c == '\t')
    if ← at? '#' then
      let _ ← readWhile fun c => !isBreak c
    if (← readBreak).isEmpty then pure ()
    else
      if s.flowLevel == 0 then allowKey true
      skipToToken fuel

/-- A token of one character. -/
def single (t : Token) : Lex Unit := do skip; emit t

/-- The start of a flow collection. -/
def openFlow (t : Token) : Lex Unit := do
  noteKey
  modify fun s => { s with flowLevel := s.flowLevel + 1, keyAllowed := true }
  single t

/-- The end of a flow collection. -/
def closeFlow (t : Token) : Lex Unit := do
  dropKey
  modify fun s => { s with flowLevel := s.flowLevel - 1, keyAllowed := false }
  single t

/-- An entry indicator of a block sequence. -/
def blockEntry : Lex Unit := do
  let s ← get
  if s.flowLevel == 0 then
    if !s.keyAllowed then refuse
    if ← indentTo s.column then emit .blockSequenceStart
  allowKey true
  dropKey
  single .blockEntry

/-- A key indicator. -/
def keyMark : Lex Unit := do
  let s ← get
  if s.flowLevel == 0 then
    if !s.keyAllowed then refuse
    if ← indentTo s.column then emit .blockMappingStart
  allowKey (s.flowLevel == 0)
  dropKey
  single .key

/-- A value indicator: after a possible key that key becomes one. -/
def valueMark : Lex Unit := do
  let s ← get
  match s.keys.find? fun k => k.level == s.flowLevel with
  | some k =>
    set { s with keys := s.keys.filter fun k => k.level != s.flowLevel }
    insertToken k.tokenNumber .key
    if s.flowLevel == 0 then
      if ← indentTo k.column then insertToken k.tokenNumber .blockMappingStart
    allowKey false
  | none =>
    if s.flowLevel == 0 then
      if !s.keyAllowed then refuse
      if ← indentTo s.column then emit .blockMappingStart
    allowKey (s.flowLevel == 0)
    dropKey
  single .value

/-- A document marker. -/
def marker (t : Token) : Lex Unit := do
  unwind (-1)
  dropKey
  allowKey false
  skipMany 3
  emit t

/-- May unquoted text begin with `c` before `next`? -/
def startsPlain (flow : Bool) (c : Char) (next : Option Char) : Bool :=
  (!isBlankOrEnd (some c) && !"-?:,[]\x7b\x7d#&*!|>'\"%@".toList.contains c && c.toNat != 0x60)
    || (!isBlankOrEnd next && (c == '-' || (!flow && (c == '?' || c == ':'))))

/-- Read a scalar, tag, anchor or alias, before which a key may begin. -/
def content (read : Lex Token) : Lex Unit := do
  noteKey
  allowKey false
  emit (← read)

/-- Read the next token; the answer is whether there may be more. -/
def next : Lex Bool := do
  skipToToken ((← get).rest.length + 1)
  dropStaleKeys
  unwind (← get).column
  let s ← get
  let flow := s.flowLevel != 0
  match s.rest with
  | [] =>
    unwind (-1)
    dropKey
    emit .streamEnd
    return false
  | c :: rest =>
    let ahead := rest.head?
    if c == '%' && s.column == 0 then
      unwind (-1)
      dropKey
      allowKey false
      emit (.directive (← readDirective))
    else if ← atMarker '-' then marker .documentStart
    else if ← atMarker '.' then marker .documentEnd
    else if c == '[' then openFlow .flowSequenceStart
    else if c == '\x7b' then openFlow .flowMappingStart
    else if c == ']' then closeFlow .flowSequenceEnd
    else if c == '\x7d' then closeFlow .flowMappingEnd
    else if c == ',' then
      allowKey true
      dropKey
      single .flowEntry
    else if c == '-' && isBlankOrEnd ahead then blockEntry
    else if c == '?' && (flow || isBlankOrEnd ahead) then keyMark
    else if c == ':' && (flow || isBlankOrEnd ahead) then valueMark
    else if c == '*' then content do return .alias (← readName)
    else if c == '&' then content do return .anchor (← readName)
    else if c == '!' then content readTag
    else if (c == '|' || c == '>') && !flow then
      allowKey true
      dropKey
      emit (← readBlockScalar (c == '>'))
    else if c == '\'' || c == '"' then
      content do
        skip
        return .scalar false (String.ofList (← readQuoted (c == '"') (rest.length + 1) []))
    else if startsPlain flow c ahead then
      content do
        return .scalar true (String.ofList
          (← readPlain (s.indent + 1) (s.rest.length + 1) [] []))
    else refuse
    return true

/-- Read all tokens. Every token but the last takes a character. -/
def all : (fuel : Nat) → Lex Unit
  | 0 => refuse
  | fuel + 1 => do
    if ← next then all fuel

end Lex

/-- The tokens of a stream. -/
def Token.ofText (d : Dialect) (cs : List Char) : Except Fault (List Token) := do
  if !cs.all isAllowed then throw .malformed
  let cs := if cs.head? == some '\ufeff' then cs.drop 1 else cs
  let (_, s) ← (Lex.all (cs.length + 2)).run ⟨d, cs, 0, 0, 0, 0, -1, [], true, [], #[]⟩
  return s.tokens.toList

end Crosslink.Yaml
