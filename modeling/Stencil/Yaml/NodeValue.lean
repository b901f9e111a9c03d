import Stencil.Value.Mapping
import Stencil.Yaml.Node.Read
import Stencil.Yaml.ScalarValue

/-!
# Values of YAML documents

The value of a document is built from its nodes.  Scalars are read where they stand.  A collection
gets its number in the pool at once and waits to be filled until those before it are filled, so that
the outer collections are filled first, and a collection can stand inside itself.  The first fault
that is met in this order counts.

Before a mapping is filled, the mappings that are merged into it are put in front of its own
entries.
-/

namespace Stencil.Yaml

/-- The value of a node, and where it comes from. -/
structure Made where
  value : Value
  /-- The number of the node that the value was made for.  All undefined numbers that are written by
  name come from one place. -/
  origin : Nat
deriving Inhabited

/-- What is built of a document. -/
structure Builder where
  nodes : Graph
  /-- The values of the nodes that have been looked at. -/
  made : Array (Option Made)
  pool : Pool
  /-- The collections that have to be filled, by the numbers of their nodes and of their places in
  the pool. -/
  waiting : Array (Nat × Nat)

/-- A step of building. -/
abbrev Build := StateT Builder (Except Fault)

namespace Build

/-- The fault of a document that is no YAML. -/
def fail {α : Type} : Build α := throw .malformed

/-- The node of a number. -/
def node (number : Nat) : Build Node := return (← get).nodes.node number

/-- Changes the nodes. -/
def modifyNodes (change : Graph → Graph) : Build Unit :=
  modify fun b => { b with nodes := change b.nodes }

end Build

open Build

/-! ## Merging mappings -/

/-- Takes the first entry that merges other mappings out of a list of entries: its value, and the
other entries. -/
def splitMerge? (g : Graph) : List (Nat × Nat) → Option (Nat × List (Nat × Nat))
  | [] => none
  | (key, value) :: rest =>
    if (g.node key).kind = .merge then some (value, rest)
    else (splitMerge? g rest).map fun (merged, others) => (merged, (key, value) :: others)

mutual

/-- Puts the entries that are merged into a mapping in front of its own.  A key that stands for the
mapping becomes a text. -/
def flatten : (fuel : Nat) → Nat → Build Unit
  | 0, _ => fail
  | fuel + 1, number => do
    let merged ← takeMerged fuel number
    modifyNodes fun g =>
      let entries := g.entries number
      let g := entries.foldl (fun g (key, _) =>
        if (g.node key).kind = .standIn then g.retype key .text else g) g
      g.fill number (.mapping (merged ++ entries))

/-- Takes the entries that merge other mappings out of a mapping, and gives those to be put in. -/
def takeMerged : (fuel : Nat) → Nat → Build (List (Nat × Nat))
  | 0, _ => fail
  | fuel + 1, number => do
    let g := (← get).nodes
    match splitMerge? g (g.entries number) with
    | none => return []
    | some (value, others) =>
      modifyNodes (·.fill number (.mapping others))
      let merged ← mergedEntries fuel value
      return merged ++ (← takeMerged fuel number)

/-- The entries that a node merges into a mapping.  Of several mappings the first counts most, so
its entries come last. -/
def mergedEntries : (fuel : Nat) → Nat → Build (List (Nat × Nat))
  | 0, _ => fail
  | fuel + 1, number => do
    match (← node number).content with
    | .scalar _ => fail
    | .mapping _ => flatEntries fuel number
    | .sequence items =>
      let parts ← items.mapM fun item => do
        match (← node item).content with
        | .mapping _ => flatEntries fuel item
        | _ => fail
      return parts.reverse.flatten

/-- The entries of a mapping with those merged into it. -/
def flatEntries : (fuel : Nat) → Nat → Build (List (Nat × Nat))
  | 0, _ => fail
  | fuel + 1, number => do
    flatten fuel number
    return (← get).nodes.entries number

end

/-- The entries of a mapping that is to be filled.  Every four steps of merging take out one entry,
so that the fuel is enough. -/
def mergeEntries (number : Nat) : Build (List (Nat × Nat)) := do
  flatEntries (4 * (← get).nodes.entryCount + 8) number

/-! ## Scalars -/

/-- The exception of a mapping that stands for itself. -/
def endless : Fault := .raised ⟨"RecursionError", "maximum recursion depth exceeded"⟩

/-- The text that a node stands for: its own, or that of the value under the key of a mapping that
stands for the mapping.  A way through more nodes than there are never ends. -/
def scalarText (g : Graph) : (fuel : Nat) → Nat → Except Fault Text
  | 0, _ => .error endless
  | fuel + 1, number => match (g.node number).content with
    | .scalar t => .ok t
    | .sequence _ => malformed
    | .mapping entries =>
      match entries.find? fun (key, _) => (g.node key).kind = .standIn with
      | some (_, value) => scalarText g fuel value
      | none => malformed

/-- The value of a scalar, and where it comes from. -/
def makeScalar (g : Graph) (number : Nat) : Except Fault Made := do
  let node := g.node number
  let t ← scalarText g (g.size + 1) number
  match node.kind, node.content with
  | .timestamp, .mapping _ => raise "TypeError" "expected string or bytes-like object, got 'list'"
  | kind, _ =>
    let byName := kind = .float && isNamedUndefined t
    return ⟨← readScalar kind t, if byName then g.size else number⟩

/-! ## Collections -/

/-- The empty collection of a type. -/
def emptyCollection? : Kind → Option Value
  | .sequence => some (.list [])
  | .orderedMapping => some (.list [])
  | .pairs => some (.list [])
  | .mapping => some (.mapping [])
  | .set => some (.set [])
  | _ => none

/-- Makes the value of a node that has none yet.  A collection is put into the pool and has to be
filled. -/
def makeValue (number : Nat) : Build Made := do
  let b ← get
  match emptyCollection? (b.nodes.node number).kind with
  | none => makeScalar b.nodes number
  | some empty =>
    set { b with
      pool := b.pool.push empty
      waiting := b.waiting.push (number, b.pool.size) }
    return ⟨.shared b.pool.size, number⟩

/-- The value of a node. -/
def make (number : Nat) : Build Made := do
  match (← get).made.getD number none with
  | some made => return made
  | none =>
    let made ← makeValue number
    modify fun b => { b with made := b.made.setIfInBounds number (some made) }
    return made

/-- The value of a node, without its origin. -/
def makePart (number : Nat) : Build Value := return (← make number).value

/-- The value of a key, which must not be able to change. -/
def makeKey (number : Nat) : Build Made := do
  let key ← make number
  if key.value.isKey then return key else fail

/-- Whether two keys are the same.  An undefined number is the same key only as itself. -/
def Made.sameKey (a b : Made) : Bool :=
  a.value.sameKey b.value
    || match a.value, b.value with
      | .float .nan, .float .nan => a.origin = b.origin
      | _, _ => false

/-- Writes a value under a key: in its place when the key is there, otherwise at the end. -/
def putMade (key : Made) (value : Value) : List (Made × Value) → List (Made × Value)
  | [] => [(key, value)]
  | (k, v) :: rest => if k.sameKey key then (k, value) :: rest else (k, v) :: putMade key value rest

/-- The entries of a mapping; a key is made before its value. -/
def makeEntries (number : Nat) : Build Entries := do
  match (← node number).content with
  | .mapping _ =>
    let made ← (← mergeEntries number).foldlM (fun made (key, value) => do
      let key ← makeKey key
      return putMade key (← makePart value) made) []
    return made.map fun (key, value) => (key.value, value)
  | _ => fail

/-- The values of the items of a sequence. -/
def makeItems (number : Nat) : Build (List Value) := do
  match (← node number).content with
  | .sequence items => items.mapM makePart
  | _ => fail

/-- The pair of a mapping that has one entry. -/
def makePair (number : Nat) : Build Value := do
  match (← node number).content with
  | .mapping [(key, value)] =>
    let key ← makePart key
    return .tuple [key, ← makePart value]
  | _ => fail

/-- The pairs of a sequence of mappings of one entry each. -/
def makePairs (number : Nat) : Build (List Value) := do
  match (← node number).content with
  | .sequence items => items.mapM makePair
  | _ => fail

/-- The counting number that a value is. -/
def counting? : Value → Option Nat
  | .int (.ofNat n) => some n
  | _ => none

/-- The members of a set in order: counting numbers ascend, and all else stands as in the
document. -/
def arranged (members : List Value) : List Value :=
  match members.mapM counting? with
  | some numbers => (numbers.mergeSort (· ≤ ·)).map fun n => .int (Int.ofNat n)
  | none => members

/-- The collection of a node with all that belongs to it. -/
def makeCollection (number : Nat) : Build Value := do
  match (← node number).kind with
  | .sequence => return .list (← makeItems number)
  | .mapping => return .mapping (← makeEntries number)
  | .set => return .set (arranged ((← makeEntries number).map Prod.fst))
  | _ => return .list (← makePairs number)

/-- Fills the collections that wait from the given one on.  Every node waits once at most, so that
`fuel` beyond the number of nodes is enough. -/
def fillFrom : (fuel : Nat) → (index : Nat) → Build Unit
  | 0, _ => fail
  | fuel + 1, index => do
    match (← get).waiting[index]? with
    | none => return ()
    | some (number, place) =>
      let collection ← makeCollection number
      modify fun b => { b with pool := b.pool.setIfInBounds place collection }
      fillFrom fuel (index + 1)

/-- The value of the root. -/
def makeRoot (root : Nat) : Build Value := do
  let value ← makePart root
  fillFrom ((← get).nodes.size + 1) 0
  return value

/-- The data of a document that is given as text; null when there is no document. -/
def readText (document : Text) : Except Fault Data := do
  match ← parse document with
  | (_, none) => return .ofTree .null
  | (nodes, some root) =>
    let start : Builder := ⟨nodes, Array.replicate nodes.size none, #[], #[]⟩
    let (value, b) ← (makeRoot root).run start
    return ⟨value, b.pool⟩

end Stencil.Yaml
