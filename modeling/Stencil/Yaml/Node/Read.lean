import Stencil.Yaml.Node
import Stencil.Yaml.Token.Scan

/-!
# Reading nodes

The nodes of a document are built from its tokens, which are asked for one by one: a fault of the
document counts only when reading gets so far.  A node has its number and its anchor before its
parts are read.  Nodes may stand inside one another to any depth: how deep the calls of an
interpreter can be nested is left out.
-/

namespace Stencil.Yaml

/-- What the parser has before it and what it knows. -/
structure Input where
  scanner : Scanner
  /-- What the handles of tags stand for. -/
  handles : List (Text × Text)
  /-- The nodes of the anchors. -/
  anchors : List (Text × Nat)
  /-- The nodes that were read. -/
  nodes : Graph

/-- A step of parsing. -/
abbrev Parse := StateT Input (Except Fault)

namespace Parse

/-- The fault of a document that is no YAML. -/
def fail {α : Type} : Parse α := throw .malformed

/-- The next token, which stays before the parser. -/
def peek : Parse Token := do
  let input ← get
  let (token, scanner) ← input.scanner.peek
  set { input with scanner := scanner }
  return token

/-- Goes beyond the next token. -/
def advance : Parse Unit := modify fun input => { input with scanner := input.scanner.advance }

/-- Goes beyond the next token when it is the given one, and tells whether it was. -/
def accept (token : Token) : Parse Bool := do
  if (← peek) = token then
    advance
    return true
  else return false

/-- Goes beyond the next token, which must be the given one. -/
def expect (token : Token) : Parse Unit := do
  if !(← accept token) then fail

/-- Whether the next token is one of several. -/
def isNext (tokens : List Token) : Parse Bool := return tokens.contains (← peek)

/-- Adds a node and gives its number. -/
def add (node : Node) : Parse Nat :=
  modifyGet fun input => (input.nodes.size, { input with nodes := input.nodes.push node })

/-- Gives a node its content. -/
def fill (number : Nat) (content : Content) : Parse Unit :=
  modify fun input => { input with nodes := input.nodes.fill number content }

end Parse

open Parse

/-- Adds the node where nothing is written. -/
def addEmpty : Parse Nat := add ⟨.null, .scalar []⟩

/-! ## Properties of nodes -/

/-- What is said about a node before it: the name of its anchor, and its tag. -/
structure Properties where
  anchor : Option Text
  tag : Option Text
deriving Inhabited

/-- The whole tag of a handle, if it has one, and the rest. -/
def resolveTag : Option Text × Text → Parse Text
  | (none, suffix) => return suffix
  | (some handle, suffix) => do
    match (← get).handles.lookup handle with
    | some target => return target ++ suffix
    | none => fail

/-- Reads a tag, if there is one. -/
def readTag? : Parse (Option (Option Text × Text)) := do
  match ← peek with
  | .tag handle suffix =>
    advance
    return some (handle, suffix)
  | _ => return none

/-- Reads the name of an anchor, if there is one. -/
def readAnchor? : Parse (Option Text) := do
  match ← peek with
  | .anchor name =>
    advance
    return some name
  | _ => return none

/-- Reads an anchor and a tag, in either order. -/
def readProperties : Parse Properties := do
  match ← readAnchor? with
  | some name =>
    let tag ← readTag?
    return ⟨some name, ← tag.mapM resolveTag⟩
  | none =>
    match ← readTag? with
    | some tag =>
      let anchor ← readAnchor?
      return ⟨anchor, some (← resolveTag tag)⟩
    | none => return ⟨none, none⟩

/-- Whether the properties say nothing about the type: there is no tag, or only its mark. -/
def Properties.isSilent (p : Properties) : Bool := p.tag.all (· = ['!'])

/-- The type of a collection. -/
def Properties.kind (p : Properties) (standard : Kind) : Kind :=
  if p.isSilent then standard else tagKind (p.tag.getD [])

/-- The type of a scalar.  Its form counts when it is plain without a tag, and also when the tag is
only a mark. -/
def Properties.scalarKind (p : Properties) (plain : Bool) (text : Text) : Kind :=
  match p.tag with
  | none => if plain then plainKind text else .text
  | some tag => if tag = ['!'] then plainKind text else tagKind tag

/-- Adds a node with the given properties; an anchor can be used once. -/
def addNode (p : Properties) (node : Node) : Parse Nat := do
  match p.anchor with
  | none => add node
  | some name =>
    if ((← get).anchors.lookup name).isSome then fail
    else
      let number ← add node
      modify fun input => { input with anchors := (name, number) :: input.anchors }
      return number

/-- Adds a sequence and then reads its items. -/
def addSequence (p : Properties) (items : Parse (List Nat)) : Parse Nat := do
  let number ← addNode p ⟨p.kind .sequence, .sequence []⟩
  fill number (.sequence (← items))
  return number

/-- Adds a mapping and then reads its entries. -/
def addMapping (p : Properties) (entries : Parse (List (Nat × Nat))) : Parse Nat := do
  let number ← addNode p ⟨p.kind .mapping, .mapping []⟩
  fill number (.mapping (← entries))
  return number

/-- The node of an anchor. -/
def readAlias (name : Text) : Parse Nat := do
  match (← get).anchors.lookup name with
  | some number => return number
  | none => fail

/-! ## Nodes -/

mutual

/-- Reads a node.  Outside brackets it may be a block, and as a part of a mapping also a sequence
that is not indented. -/
def readNode : (fuel : Nat) → (block sequenceAllowed : Bool) → Parse Nat
  | 0, _, _ => fail
  | fuel + 1, block, sequenceAllowed => do
    match ← peek with
    | .alias name =>
      advance
      readAlias name
    | _ => readContent fuel block sequenceAllowed (← readProperties)

/-- Reads a node after its properties. -/
def readContent : (fuel : Nat) → (block sequenceAllowed : Bool) → Properties → Parse Nat
  | 0, _, _, _ => fail
  | fuel + 1, block, sequenceAllowed, p => do
    match ← peek with
    | .scalar text plain =>
      advance
      addNode p ⟨p.scalarKind plain text, .scalar text⟩
    | .flowSequenceStart =>
      addSequence p do
        advance
        readFlowItems fuel true
    | .flowMappingStart =>
      addMapping p do
        advance
        readFlowEntries fuel true
    | token =>
      if sequenceAllowed && token = .blockEntry then addSequence p (readBareItems fuel)
      else if block && token = .blockSequenceStart then
        addSequence p do
          advance
          readBlockItems fuel
      else if block && token = .blockMappingStart then
        addMapping p do
          advance
          readBlockEntries fuel
      else if p.anchor.isSome || p.tag.isSome then
        addNode p ⟨p.scalarKind true [], .scalar []⟩
      else fail

/-- Reads a node, or adds an empty one where the next token is one of those given. -/
def readNodeUnless : (fuel : Nat) → (block sequenceAllowed : Bool) → List Token → Parse Nat
  | 0, _, _, _ => fail
  | fuel + 1, block, sequenceAllowed, tokens => do
    if ← isNext tokens then addEmpty
    else readNode fuel block sequenceAllowed

/-- Reads the items of a block sequence, with its end. -/
def readBlockItems : (fuel : Nat) → Parse (List Nat)
  | 0 => fail
  | fuel + 1 => do
    if ← accept .blockEntry then
      let item ← readNodeUnless fuel true false [.blockEntry, .blockEnd]
      return item :: (← readBlockItems fuel)
    else
      expect .blockEnd
      return []

/-- Reads the items of a sequence that is not indented; it ends before the first other token. -/
def readBareItems : (fuel : Nat) → Parse (List Nat)
  | 0 => fail
  | fuel + 1 => do
    if ← accept .blockEntry then
      let item ← readNodeUnless fuel true false [.blockEntry, .key, .value, .blockEnd]
      return item :: (← readBareItems fuel)
    else return []

/-- Reads the value of an entry of a block mapping, if there is one. -/
def readBlockValue : (fuel : Nat) → Parse Nat
  | 0 => fail
  | fuel + 1 => do
    if ← accept .value then readNodeUnless fuel true true [.key, .value, .blockEnd]
    else addEmpty

/-- Reads the entries of a block mapping, with its end. -/
def readBlockEntries : (fuel : Nat) → Parse (List (Nat × Nat))
  | 0 => fail
  | fuel + 1 => do
    if ← accept .key then
      let key ← readNodeUnless fuel true true [.key, .value, .blockEnd]
      let value ← readBlockValue fuel
      return (key, value) :: (← readBlockEntries fuel)
    else
      expect .blockEnd
      return []

/-- Reads the value of an entry between brackets, if there is one. -/
def readFlowValue : (fuel : Nat) → (closing : Token) → Parse Nat
  | 0, _ => fail
  | fuel + 1, closing => do
    if ← accept .value then readNodeUnless fuel false false [.flowEntry, closing]
    else addEmpty

/-- Reads the items of a sequence between brackets, with its end.  Commas stand before all items but
the first. -/
def readFlowItems : (fuel : Nat) → (first : Bool) → Parse (List Nat)
  | 0, _ => fail
  | fuel + 1, first => do
    if ← accept .flowSequenceEnd then return []
    else
      if !first then expect .flowEntry
      if ← accept .key then
        let pair ← add ⟨.mapping, .mapping []⟩
        let key ← readNodeUnless fuel false false [.value, .flowEntry, .flowSequenceEnd]
        let value ← readFlowValue fuel .flowSequenceEnd
        fill pair (.mapping [(key, value)])
        return pair :: (← readFlowItems fuel false)
      else if ← accept .flowSequenceEnd then return []
      else
        let item ← readNode fuel false false
        return item :: (← readFlowItems fuel false)

/-- Reads the entries of a mapping between brackets, with its end. -/
def readFlowEntries : (fuel : Nat) → (first : Bool) → Parse (List (Nat × Nat))
  | 0, _ => fail
  | fuel + 1, first => do
    if ← accept .flowMappingEnd then return []
    else
      if !first then expect .flowEntry
      if ← accept .key then
        let key ← readNodeUnless fuel false false [.value, .flowEntry, .flowMappingEnd]
        let value ← readFlowValue fuel .flowMappingEnd
        return (key, value) :: (← readFlowEntries fuel false)
      else if ← accept .flowMappingEnd then return []
      else
        let key ← readNode fuel false false
        return (key, ← addEmpty) :: (← readFlowEntries fuel false)

end

/-! ## Documents -/

/-- The handles of tags that need no directive. -/
def standardHandles : List (Text × Text) := [("!", "!"), ("!!", standardTags)]

/-- Reads directives.  The version is named once and must be a first one, and no handle is defined
twice. -/
def readDirectives : (fuel : Nat) → (versionSeen : Bool) → (handles : List (Text × Text)) →
    Parse Unit
  | 0, _, _ => fail
  | fuel + 1, versionSeen, handles => do
    match ← peek with
    | .directive =>
      advance
      readDirectives fuel versionSeen handles
    | .version major =>
      advance
      if versionSeen || major ≠ 1 then fail
      else readDirectives fuel true handles
    | .tagHandle handle target =>
      advance
      if (handles.lookup handle).isSome then fail
      else readDirectives fuel versionSeen ((handle, target) :: handles)
    | _ => modify fun input => { input with handles := handles ++ standardHandles }

/-- Whether a token belongs to the frame of a document. -/
def isFrame : Token → Bool
  | .directive => true
  | .version _ => true
  | .tagHandle _ _ => true
  | .documentStart => true
  | .documentEnd => true
  | .documentsEnd => true
  | _ => false

/-- Goes beyond marks for the end of a document. -/
def skipEnds : (fuel : Nat) → Parse Unit
  | 0 => fail
  | fuel + 1 => do
    if ← accept .documentEnd then skipEnds fuel

/-- Reads the node of a document that begins with directives or a mark. -/
def readMarked (fuel : Nat) : Parse Nat := do
  readDirectives fuel false []
  expect .documentStart
  if isFrame (← peek) then addEmpty
  else readNode fuel true false

/-- Reads to the end of the only document.  What follows it is read as far as its directives go, in
which another fault may be met first. -/
def expectEnd (fuel : Nat) : Parse Unit := do
  skipEnds fuel
  if (← peek) ≠ .documentsEnd then
    readDirectives fuel false []
    fail

/-- Reads the node of the only document, if there is one. -/
def readDocument (fuel : Nat) : Parse (Option Nat) := do
  let token ← peek
  if token = .documentsEnd then return none
  else
    let root ← if isFrame token && token ≠ .documentEnd then readMarked fuel
      else readNode fuel true false
    expectEnd fuel
    return some root

/-- The nodes of a document, and the number of its root if it has one.  A character of the document
makes four tokens at most, and every token is looked at by a few functions, so that `fuel` is
enough. -/
def parse (document : Text) : Except Fault (Graph × Option Nat) := do
  let input : Input := ⟨.start document, standardHandles, [], #[]⟩
  let fuel := 16 * document.length + 32
  let (root, input) ← (readDocument fuel).run input
  return (input.nodes, root)

end Stencil.Yaml
