import Crosslink.Yaml.Node

/-!
# Merge keys

A merge key stands for the entries of a mapping, or of several mappings with the last one
first. Before a mapping is read its merge keys are taken out one after the other, the mappings
that they name are treated in the same way, and what they stand for is put in front of the
other entries. A key of the default tag becomes text.
-/

namespace Crosslink.Yaml.Graph

/-- A change of nodes. -/
abbrev Change := StateT Graph (Except Fault)

/-- The entries of a mapping. -/
def entries (g : Graph) (n : Nat) : List (Nat × Nat) :=
  match g.content? n with
  | some (.mapping es) => es
  | _ => []

/-- Does a node have the given tag? -/
def hasTag (g : Graph) (t : Tag) (n : Nat) : Bool := (g[n]?).any fun x => x.tag == t

/-- Is a node a mapping? -/
def isMapping (g : Graph) (n : Nat) : Bool :=
  match g.content? n with
  | some (.mapping _) => true
  | _ => false

/-- Take the first merge key out of a mapping; the answer is the value after it. -/
def takeMerge? (n : Nat) : Change (Option Nat) := do
  let g ← get
  let es := g.entries n
  match es.findIdx? fun e => g.hasTag .merge e.1 with
  | some i =>
    set (g.setContent n (.mapping (es.eraseIdx i)))
    return (es[i]?).map (·.2)
  | none => return none

/-- Make keys of the default tag text. -/
def retagDefaults (n : Nat) : Change Unit := modify fun g =>
  (g.entries n).foldl (fun g e => if g.hasTag .default e.1 then g.setTag e.1 .text else g) g

mutual

/-- Put what the merge keys of a mapping stand for in front of its other entries. -/
def mergeKeys : (fuel : Nat) → Nat → Change Unit
  | 0, _ => throw .malformed
  | fuel + 1, n => do
    let merged ← takeMerges fuel n
    modify fun g => g.setContent n (.mapping (merged ++ g.entries n))
    retagDefaults n

/-- Take all merge keys out of a mapping; the answer is what they stand for. -/
def takeMerges : (fuel : Nat) → Nat → Change (List (Nat × Nat))
  | 0, _ => throw .malformed
  | fuel + 1, n => do
    match ← takeMerge? n with
    | none => return []
    | some v =>
      match (← get).content? v with
      | some (.mapping _) =>
        mergeKeys fuel v
        let part := (← get).entries v
        return part ++ (← takeMerges fuel n)
      | some (.sequence items) =>
        let parts ← items.mapM fun item => do
          if !(← get).isMapping item then throw .malformed
          mergeKeys fuel item
          return (← get).entries item
        return parts.reverse.flatten ++ (← takeMerges fuel n)
      | _ => throw .malformed

end

/-- The number of merge keys of all mappings. Each step of merging takes one out, and none is
put in, so the number bounds the steps. -/
def mergeCount (g : Graph) : Nat :=
  (List.range g.size).foldl
    (fun total n => total + ((g.entries n).filter fun e => g.hasTag .merge e.1).length) 0

/-- Merge the keys of a mapping. -/
def merge (n : Nat) : Change Unit := do mergeKeys (2 * (← get).mergeCount + 3) n

end Crosslink.Yaml.Graph
