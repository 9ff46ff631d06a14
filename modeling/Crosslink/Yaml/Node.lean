import Crosslink.Yaml.Lexer
import Crosslink.Yaml.ScalarValue

/-!
# YAML nodes

The nodes of a stream that holds at most one document. Nodes are numbered in the order in which
they are made, and collections name their parts by number, so an alias is the number of the
node that bears its name. A collection bears its name from its beginning on and may hold
itself; a name is given only once.
-/

namespace Crosslink.Yaml

/-- What a node holds. -/
inductive Content where
  | scalar (text : String)
  | sequence (items : List Nat)
  | mapping (entries : List (Nat × Nat))
  deriving DecidableEq, Repr

/-- A node of a document. -/
structure Node where
  tag : Tag
  content : Content
  deriving DecidableEq, Repr

/-- The nodes of a document by number. -/
abbrev Graph := Array Node

namespace Graph

/-- The content of a node. -/
def content? (g : Graph) (n : Nat) : Option Content := (g[n]?).map (·.content)

/-- Give a node another content. -/
def setContent (g : Graph) (n : Nat) (c : Content) : Graph := g.modify n fun x => { x with content := c }

/-- Give a node another tag. -/
def setTag (g : Graph) (n : Nat) (t : Tag) : Graph := g.modify n fun x => { x with tag := t }

@[simp] theorem size_setContent (g : Graph) (n : Nat) (c : Content) :
    (g.setContent n c).size = g.size := by simp [setContent]

@[simp] theorem size_setTag (g : Graph) (n : Nat) (t : Tag) : (g.setTag n t).size = g.size := by
  simp [setTag]

end Graph

namespace Node

/-- What is left to read, the tag handles in force, the numbers of named nodes, the nodes made
so far and how many collections are open. -/
structure Reader where
  dialect : Dialect
  tokens : List Token
  handles : List (String × String)
  named : List (String × Nat)
  nodes : Graph
  depth : Nat

/-- A step of reading nodes. -/
abbrev Build := StateT Reader (Except Fault)

/-- The stream is malformed. -/
def refuse {α : Type} : Build α := throw .malformed

/-- The next token. -/
def peek : Build (Option Token) := do return (← get).tokens.head?

/-- Go past a token. -/
def skip : Build Unit := modify fun r => { r with tokens := r.tokens.drop 1 }

/-- Is the next token one of these? -/
def atOneOf (ts : List Token) : Build Bool := do
  return (← peek).any fun t => ts.contains t

/-- Go past the given token. -/
def expect (t : Token) : Build Unit := do
  if ← atOneOf [t] then skip else refuse

/-- Add a node. -/
def add (tag : Tag) (content : Content) : Build Nat :=
  modifyGet fun r => (r.nodes.size, { r with nodes := r.nodes.push ⟨tag, content⟩ })

/-- A node for a place where nothing is written. -/
def addNothing : Build Nat := add .null (.scalar "")

/-- The handles that need no directive. -/
def defaultHandles : List (String × String) := [("!", "!"), ("!!", standardTags)]

/-- The full name of a tag; the lone mark leaves the type open. -/
def fullTag (handle : Option String) (suffix : String) : Build (Option String) := do
  match handle with
  | none => return if suffix == "!" then none else some suffix
  | some h =>
    match (← get).handles.find? fun e => e.1 == h with
    | some e =>
      let uri := e.2 ++ suffix
      return if uri == "!" then none else some uri
    | none => refuse

/-- The names and tags before a node. -/
structure Marks where
  anchor : Option String
  /-- Is a tag written, be it the lone mark? -/
  tagged : Bool
  uri : Option String

/-- Read an anchor and a tag in either order, each at most once. -/
def readMarks : Build Marks := do
  let readAnchor : Build (Option String) := do
    match ← peek with
    | some (.anchor name) => skip; return some name
    | _ => return none
  let readTag : Build (Bool × Option String) := do
    match ← peek with
    | some (.tag handle suffix) => skip; return (true, ← fullTag handle suffix)
    | _ => return (false, none)
  match ← readAnchor with
  | some name =>
    let (tagged, uri) ← readTag
    return ⟨some name, tagged, uri⟩
  | none =>
    let (tagged, uri) ← readTag
    if tagged then return ⟨← readAnchor, tagged, uri⟩ else return ⟨none, tagged, uri⟩

/-- The type of a node: the one its tag names, or the one of its kind. -/
def tagOr (marks : Marks) (kind : Tag) : Tag :=
  match marks.uri with
  | some uri => .ofUri uri
  | none => kind

/-- Is a name or a tag written? -/
def Marks.any (marks : Marks) : Bool := marks.anchor.isSome || marks.tagged

/-- Is the type of a scalar open, because the lone mark is its tag or nothing is and it is not
quoted? -/
def Marks.leavesOpen (marks : Marks) (plain : Bool) : Bool :=
  marks.uri.isNone && (plain || marks.tagged)

/-- Give a node the name before it. -/
def bind (marks : Marks) (n : Nat) : Build Unit := do
  match marks.anchor with
  | some name =>
    if (← get).named.any fun e => e.1 == name then refuse
    modify fun r => { r with named := (name, n) :: r.named }
  | none => return ()

/-- A scalar with the marks before it. -/
def addScalar (marks : Marks) (tag : Tag) (text : String) : Build Nat := do
  let n ← add tag (.scalar text)
  bind marks n
  return n

/-- A scalar without a character of its own after marks, which there must be. -/
def addEmpty (marks : Marks) : Build Nat := do
  if !marks.any then refuse
  let asText := marks.tagged && marks.uri.isNone && (← get).dialect.markedText
  addScalar marks (if asText then .text else tagOr marks .null) ""

/-- A collection with the marks before it, which bears its name while its parts are read. -/
def addCollection (marks : Marks) (kind : Tag) (empty : Content) (parts : Build Content) :
    Build Nat := do
  let r ← get
  if r.dialect.depthLimit.any fun limit => limit ≤ r.depth then throw .tooDeep
  let n ← add (tagOr marks kind) empty
  bind marks n
  modify fun r => { r with depth := r.depth + 1 }
  let c ← parts
  modify fun r => { r with depth := r.depth - 1, nodes := r.nodes.setContent n c }
  return n

/-- A sequence with the marks before it. -/
def addSequence (marks : Marks) (items : Build (List Nat)) : Build Nat :=
  addCollection marks .sequence (.sequence []) (Content.sequence <$> items)

/-- A mapping with the marks before it. -/
def addMapping (marks : Marks) (entries : Build (List (Nat × Nat))) : Build Nat :=
  addCollection marks .mapping (.mapping []) (Content.mapping <$> entries)

mutual

/-- A node. In block context block collections are allowed, and after a key or value mark a
sequence whose entries are not indented. -/
def read (block flat : Bool) : (fuel : Nat) → Build Nat
  | 0 => refuse
  | fuel + 1 => do
    match ← peek with
    | some (.alias name) =>
      skip
      match (← get).named.find? fun e => e.1 == name with
      | some e => return e.2
      | none => refuse
    | _ =>
      let marks ← readMarks
      match ← peek with
      | some (.scalar plain text) =>
        skip
        addScalar marks (tagOr marks (if marks.leavesOpen plain then openTag text else .text)) text
      | some .flowSequenceStart =>
        skip
        addSequence marks (readFlowItems true fuel)
      | some .flowMappingStart =>
        skip
        addMapping marks (readFlowEntries true fuel)
      | some .blockEntry =>
        if flat then addSequence marks (readFlatItems fuel) else addEmpty marks
      | some .blockSequenceStart =>
        if block then
          skip
          addSequence marks (readBlockItems fuel)
        else addEmpty marks
      | some .blockMappingStart =>
        if block then
          skip
          addMapping marks (readBlockEntries fuel)
        else addEmpty marks
      | _ => addEmpty marks

/-- A node, or nothing if one of the given tokens is next. -/
def readUnless (stops : List Token) (block flat : Bool) : (fuel : Nat) → Build Nat
  | 0 => refuse
  | fuel + 1 => do
    if ← atOneOf stops then addNothing else read block flat fuel

/-- The value after a key: nothing without a value mark. -/
def readValue (stops : List Token) (block : Bool) : (fuel : Nat) → Build Nat
  | 0 => refuse
  | fuel + 1 => do
    if ← atOneOf [.value] then
      skip
      readUnless stops block block fuel
    else addNothing

/-- The items of a block sequence up to its end. -/
def readBlockItems : (fuel : Nat) → Build (List Nat)
  | 0 => refuse
  | fuel + 1 => do
    if ← atOneOf [.blockEntry] then
      skip
      let item ← readUnless [.blockEntry, .blockEnd] true false fuel
      return item :: (← readBlockItems fuel)
    else
      expect .blockEnd
      return []

/-- The items of a sequence that is not indented; what follows is not read. -/
def readFlatItems : (fuel : Nat) → Build (List Nat)
  | 0 => refuse
  | fuel + 1 => do
    if ← atOneOf [.blockEntry] then
      skip
      let item ← readUnless [.blockEntry, .key, .value, .blockEnd] true false fuel
      return item :: (← readFlatItems fuel)
    else return []

/-- The entries of a block mapping up to its end. -/
def readBlockEntries : (fuel : Nat) → Build (List (Nat × Nat))
  | 0 => refuse
  | fuel + 1 => do
    let stops := [Token.key, .value, .blockEnd]
    if ← atOneOf [.key] then
      skip
      let key ← readUnless stops true true fuel
      let value ← readValue stops true fuel
      return (key, value) :: (← readBlockEntries fuel)
    else
      expect .blockEnd
      return []

/-- The key and the value of a mapping of one entry inside a flow sequence. -/
def readFlowPair : (fuel : Nat) → Build (Nat × Nat)
  | 0 => refuse
  | fuel + 1 => do
    let stops := [Token.value, .flowEntry, .flowSequenceEnd]
    let missing ← atOneOf stops
    let key ← readUnless stops false false fuel
    if missing && (← get).dialect.greedyKey then skip
    let value ← readValue [.flowEntry, .flowSequenceEnd] false fuel
    return (key, value)

/-- The items of a flow sequence up to its end; a key mark starts a mapping of one entry. -/
def readFlowItems (first : Bool) : (fuel : Nat) → Build (List Nat)
  | 0 => refuse
  | fuel + 1 => do
    if ← atOneOf [.flowSequenceEnd] then
      skip
      return []
    if !first then expect .flowEntry
    if ← atOneOf [.flowSequenceEnd] then
      skip
      return []
    let item ← (do
      if ← atOneOf [.key] then
        skip
        addMapping ⟨none, false, none⟩ ((fun e => [e]) <$> readFlowPair fuel)
      else read false false fuel : Build Nat)
    return item :: (← readFlowItems false fuel)

/-- The entries of a flow mapping up to its end; a node without a value mark is a key. -/
def readFlowEntries (first : Bool) : (fuel : Nat) → Build (List (Nat × Nat))
  | 0 => refuse
  | fuel + 1 => do
    if ← atOneOf [.flowMappingEnd] then
      skip
      return []
    if !first then expect .flowEntry
    if ← atOneOf [.flowMappingEnd] then
      skip
      return []
    let entry ← (do
      if ← atOneOf [.key] then
        skip
        let key ← readUnless [.value, .flowEntry, .flowMappingEnd] false false fuel
        let value ← readValue [.flowEntry, .flowMappingEnd] false fuel
        return (key, value)
      else return (← read false false fuel, ← addNothing) : Build (Nat × Nat))
    return entry :: (← readFlowEntries false fuel)

end

/-- Directives before a document: the version at most once and of a known number, tag
handles each at most once. -/
def readDirectives (d : Dialect) : (fuel : Nat) → (versioned : Bool) → List (String × String) →
    Build (List (String × String))
  | 0, _, handles => pure handles
  | fuel + 1, versioned, handles => do
    match ← peek with
    | some (.directive (.version major minor)) =>
      if versioned || major != 1 || (d.knownVersions && minor != 1 && minor != 2) then refuse
      skip
      readDirectives d fuel true handles
    | some (.directive (.tag handle leading)) =>
      if handles.any fun e => e.1 == handle then refuse
      skip
      readDirectives d fuel versioned (handles ++ [(handle, leading)])
    | some (.directive .other) =>
      skip
      readDirectives d fuel versioned handles
    | _ => return handles

/-- Go past document ends. -/
def skipEnds : (fuel : Nat) → Build Unit
  | 0 => pure ()
  | fuel + 1 => do
    if ← atOneOf [.documentEnd] then
      skip
      skipEnds fuel

/-- The one document of a stream, if there is one, and nothing after it: the number of its
outermost node. -/
def readStream : Build (Option Nat) := do
  let fuel := 3 * (← get).tokens.length + 10
  let atMark ← (do
    match ← peek with
    | some (.directive _) | some .documentStart | some .streamEnd => return true
    | _ => return false : Build Bool)
  let made ← (do
    if !atMark then
      modify fun r => { r with handles := defaultHandles }
      return some (← read true false fuel)
    else if ← atOneOf [.streamEnd] then return none
    else
      let own ← readDirectives (← get).dialect fuel false []
      let rest := defaultHandles.filter fun e => !(own.any fun o => o.1 == e.1)
      modify fun r => { r with handles := own ++ rest }
      expect .documentStart
      match ← peek with
      | some (.directive _) | some .documentStart | some .documentEnd | some .streamEnd =>
        return some (← addNothing)
      | _ => return some (← read true false fuel) : Build (Option Nat))
  skipEnds fuel
  expect .streamEnd
  return made

end Node

/-- The nodes of a text and the number of the outermost one, which is missing if the text holds
no document. -/
def Graph.ofText (d : Dialect) (cs : List Char) : Except Fault (Graph × Option Nat) := do
  let tokens ← Token.ofText d cs
  let (root, r) ← Node.readStream.run ⟨d, tokens, [], [], #[], 0⟩
  return (r.nodes, root)

end Crosslink.Yaml
