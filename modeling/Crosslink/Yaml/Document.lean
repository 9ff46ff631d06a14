import Crosslink.Yaml.Merge

/-!
# YAML documents

The value of a document. Scalars are read as soon as they are met; collections are filled
later, in the order in which they were met, so of several faults the outermost comes first.
Every node is read once, however many aliases name it. Repeated keys keep their place and take
the last value, and a tag without a meaning is an error.
-/

namespace Crosslink.Yaml

/-- What a node stands for, with the parts of a collection by number. -/
inductive Shape where
  /-- A value and the text that it was read from. -/
  | scalar (v : Value) (text : String)
  | list (items : List Nat)
  | pairs (items : List (Nat × Nat))
  | map (entries : List (Nat × Nat))
  | set (members : List Nat)
  deriving Repr

/-- The state of reading values: the nodes, what those met so far stand for, and the
collections met so far. -/
structure Reading where
  graph : Graph
  shapes : Array (Option Shape)
  met : Array Nat

/-- A step of reading values. -/
abbrev Read := StateT Reading (Except Fault)

namespace Read

/-- The text of a scalar; a mapping may hold it under the default key. -/
def textOf (g : Graph) : (fuel : Nat) → Nat → Except Fault String
  | 0, _ => .error .tooDeep
  | fuel + 1, n =>
    match g.content? n with
    | some (.scalar s) => .ok s
    | some (.mapping entries) =>
      match entries.find? fun e => g.hasTag .default e.1 with
      | some e => textOf g fuel e.2
      | none => .error .malformed
    | _ => .error .malformed

/-- Say what a node stands for. -/
def place (n : Nat) (s : Shape) : Read Unit :=
  modify fun r => { r with shapes := r.shapes.setIfInBounds n (some s) }

/-- Note a collection that is to be filled. -/
def await (n : Nat) (empty : Shape) : Read Unit := do
  place n empty
  modify fun r => { r with met := r.met.push n }

/-- Read a node under the tag of a type of scalars. -/
def visitScalar (n : Nat) (x : Node) : Read Unit := do
  let g := (← get).graph
  let text ← textOf g (g.size + 1) n
  match x.tag, x.content with
  | .timestamp, .mapping _ => throw .notText
  | tag, _ => place n (.scalar (← scalarValue tag text) text)

/-- Meet a node: read it if it is a scalar, and note it if it is a collection. -/
def visit (n : Nat) : Read Unit := do
  let r ← get
  match r.shapes[n]?, r.graph[n]? with
  | some none, some x =>
    match x.tag with
    | .sequence => await n (.list [])
    | .orderedMap | .pairs => await n (.pairs [])
    | .mapping => await n (.map [])
    | .set => await n (.set [])
    | .merge | .default | .unknown _ => throw .malformed
    | _ => visitScalar n x
  | _, _ => return

/-- What a node stands for. -/
def shape? (n : Nat) : Read (Option Shape) := do return ((← get).shapes[n]?).join

/-- Do two keys count as one? Keys that are no number are one only if they are the same node
or both are written as the word for it. -/
def isSameKey (shapes : Array (Option Shape)) (a b : Nat) : Bool :=
  a == b ||
    match (shapes[a]?).join, (shapes[b]?).join with
    | some (.scalar (.float .nan) s), some (.scalar (.float .nan) t) =>
      isSharedNan s && isSharedNan t
    | some (.scalar v _), some (.scalar w _) => v.sameKey w
    | _, _ => false

/-- Write a key of a mapping: in place if it is there, at the end if not. -/
def putKey (shapes : Array (Option Shape)) (key value : Nat) :
    List (Nat × Nat) → List (Nat × Nat)
  | [] => [(key, value)]
  | (k, v) :: rest =>
    if isSameKey shapes k key then (k, value) :: rest else (k, v) :: putKey shapes key value rest

/-- The entries of a mapping with its merge keys resolved and its repeated keys joined. Every
key must be fit to be one. -/
def entriesOf (n : Nat) : Read (List (Nat × Nat)) := do
  let r ← get
  if !r.graph.isMapping n then throw .malformed
  let ((), g) ← (Graph.merge n).run r.graph
  set { r with graph := g }
  let entries := g.entries n
  for (k, v) in entries do
    visit k
    match ← shape? k with
    | some (.scalar _ _) => visit v
    | _ => throw .malformed
  let shapes := (← get).shapes
  return entries.foldl (fun acc e => putKey shapes e.1 e.2 acc) []

/-- The items of a sequence. -/
def itemsOf (n : Nat) : Read (List Nat) := do
  match (← get).graph.content? n with
  | some (.sequence items) => return items
  | _ => throw .malformed

/-- The only entry of a mapping. -/
def onlyEntry (n : Nat) : Read (Nat × Nat) := do
  match (← get).graph.content? n with
  | some (.mapping [e]) => return e
  | _ => throw .malformed

/-- Fill a collection. -/
def fill (n : Nat) : Read Unit := do
  match ← shape? n with
  | some (.list _) =>
    let items ← itemsOf n
    items.forM visit
    place n (.list items)
  | some (.pairs _) =>
    let pairs ← (← itemsOf n).mapM fun item => do
      let e ← onlyEntry item
      visit e.1
      visit e.2
      return e
    place n (.pairs pairs)
  | some (.map _) => place n (.map (← entriesOf n))
  | some (.set _) => place n (.set ((← entriesOf n).map (·.1)))
  | _ => return

/-- Fill the collections from the one met at place `i` on. Each node is met once. -/
def fillFrom : (fuel : Nat) → (i : Nat) → Read Unit
  | 0, _ => return
  | fuel + 1, i => do
    match (← get).met[i]? with
    | some n =>
      fill n
      fillFrom fuel (i + 1)
    | none => return

/-- Read a node with all that it holds. -/
def whole (n : Nat) : Read Unit := do
  visit n
  fillFrom ((← get).graph.size + 1) 0

end Read

/-! ## Values of nodes -/

/-- Unfolding of nodes, with the values found so far that refer to nothing around them. -/
abbrev Unfold := StateM (Array (Option Value))

namespace Unfold

/-- Unfold nodes one after the other; the flag says whether nothing around them is meant. -/
def each (f : Nat → Unfold (Value × Bool)) : List Nat → Unfold (List Value × Bool)
  | [] => return ([], true)
  | n :: rest => do
    let (v, closed) ← f n
    let (vs, closedRest) ← each f rest
    return (v :: vs, closed && closedRest)

/-- Unfold pairs of nodes one after the other. -/
def eachPair (f : Nat → Unfold (Value × Bool)) :
    List (Nat × Nat) → Unfold (List (Value × Value) × Bool)
  | [] => return ([], true)
  | (k, v) :: rest => do
    let (key, closedKey) ← f k
    let (value, closed) ← f v
    let (es, closedRest) ← eachPair f rest
    return ((key, value) :: es, closedKey && closed && closedRest)

/-- The value of a node inside the nodes `around` it, which it may hold again. -/
def node (shapes : Array (Option Shape)) :
    (fuel : Nat) → (around : List Nat) → Nat → Unfold (Value × Bool)
  | 0, _, _ => return (.null, true)
  | fuel + 1, around, n => do
    match ((← get)[n]?).join with
    | some v => return (v, true)
    | none =>
      let part := node shapes fuel (n :: around)
      let met := around.contains n
      let (v, closed) ← match (shapes[n]?).join with
        | some (.scalar v _) => pure (v, true)
        | some (.list items) =>
          if met then pure (.enclosing false, false)
          else do
            let (vs, closed) ← each part items
            pure (.list vs, closed)
        | some (.pairs items) =>
          if met then pure (.enclosing false, false)
          else do
            let (es, closed) ← eachPair part items
            pure (.list (es.map fun e => .tuple [e.1, e.2]), closed)
        | some (.map entries) =>
          if met then pure (.enclosing true, false)
          else do
            let (es, closed) ← eachPair part entries
            pure (.map es, closed)
        | some (.set members) => do
          let (vs, closed) ← each part members
          pure (.set vs, closed)
        | none => pure (.null, true)
      if closed then modify fun done => done.setIfInBounds n (some v)
      return (v, closed)

/-- The value of the outermost node. The parts of a mapping are unfolded each on its own. -/
def root (shapes : Array (Option Shape)) (n : Nat) : Unfold Value := do
  let alone := node shapes (shapes.size + 1) []
  match (shapes[n]?).join with
  | some (.map entries) => return .map (← eachPair alone entries).1
  | _ => return (← alone n).1

end Unfold

/-- The value of the one document of a text, null if there is none. -/
def load (d : Dialect) (cs : List Char) : Except Fault Value := do
  match ← Graph.ofText d cs with
  | (_, none) => return .null
  | (g, some n) =>
    let ((), r) ← (Read.whole n).run ⟨g, Array.replicate g.size none, #[]⟩
    return ((Unfold.root r.shapes n).run (Array.replicate g.size none)).1

end Crosslink.Yaml
