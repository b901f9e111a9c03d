import Stencil.Proofs.Yaml.PlainScalar
import Stencil.Proofs.Yaml.Tokens
import Stencil.Yaml.Node.Read

/-!
# Nodes of a document

Reading the nodes of a document raises no exception that scanning it does not raise.  In a document
without tags every node has the type that its content shows: a collection is one of its own kind,
and a scalar is a text or has the type that its form shows.

Main results:

- Definition `Goes`, with Theorem `Goes.bind`: what a step of parsing keeps.
- Theorem `confined_parse`: the nodes of a document, and the exceptions of reading them.
-/

namespace Stencil
namespace Yaml

variable {document : Text} {α β : Type}

/-! ## Nodes with the type that they show -/

/-- The type of a node is shown by its content: a scalar may always be a text. -/
def Node.IsNatural (node : Node) : Prop :=
  match node.content with
  | .scalar t => node.kind = .text ∨ node.kind = plainKind t ∧ t.getLast? ≠ some '\n'
  | .sequence _ => node.kind = .sequence
  | .mapping _ => node.kind = .mapping

/-- The nodes of a document without tags have the types that they show. -/
def Graph.IsNaturalIn (document : Text) (g : Graph) : Prop :=
  '!' ∉ document → ∀ number, (g.node number).IsNatural

/-- A graph has the nodes of another one, with their types, and perhaps further ones. -/
def Graph.Extends (g g' : Graph) : Prop :=
  ∀ number < g.size, number < g'.size ∧ (g'.node number).kind = (g.node number).kind

/-- The parser is in the document, and so are the nodes that were read. -/
structure Input.Sound (document : Text) (input : Input) : Prop where
  scanner : input.scanner.Sound document
  nodes : input.nodes.IsNaturalIn document

namespace Graph

variable {g g' g'' : Graph} {number other : Nat} {node : Node} {content : Content}

/-- A graph extends itself. -/
theorem Extends.refl (g : Graph) : g.Extends g := fun _ h => ⟨h, rfl⟩

/-- What extends an extension extends the graph. -/
theorem Extends.trans (h : g.Extends g') (h' : g'.Extends g'') : g.Extends g'' := by
  intro number hnumber
  obtain ⟨hsize, hkind⟩ := h number hnumber
  obtain ⟨hsize', hkind'⟩ := h' number hsize
  exact ⟨hsize', hkind'.trans hkind⟩

/-- A new node gets the next number, and the others stay. -/
theorem node_push (g : Graph) (node : Node) (number : Nat) :
    Graph.node (g.push node) number = if number = g.size then node else g.node number := by
  simp only [Graph.node, Array.getD_eq_getD_getElem?, Array.getElem?_push]
  split <;> rfl

/-- A node is replaced where it stands. -/
theorem node_setIfInBounds (g : Graph) (number : Nat) (node : Node) (other : Nat) :
    Graph.node (g.setIfInBounds number node) other =
      if other = number ∧ number < g.size then node else g.node other := by
  simp only [Graph.node, Array.getD_eq_getD_getElem?, Array.getElem?_setIfInBounds]
  by_cases hnumber : number = other
  · subst hnumber
    by_cases hsize : number < g.size <;> simp [hsize]
  · simp [hnumber, Ne.symm hnumber]

/-- Filling a node changes its content only. -/
theorem node_fill (g : Graph) (number : Nat) (content : Content) (other : Nat) :
    (g.fill number content).node other =
      if other = number ∧ number < g.size then { g.node number with content := content }
      else g.node other :=
  node_setIfInBounds _ _ _ _

/-- A new node leaves those that are there. -/
theorem extends_push (g : Graph) (node : Node) : g.Extends (g.push node) := by
  intro number hnumber
  rw [node_push, if_neg (Nat.ne_of_lt hnumber), Array.size_push]
  exact ⟨Nat.lt_succ_of_lt hnumber, rfl⟩

/-- A node that is filled keeps its kind. -/
theorem extends_fill (g : Graph) (number : Nat) (content : Content) :
    g.Extends (g.fill number content) := by
  intro other hother
  refine ⟨by rwa [Graph.fill, Array.size_setIfInBounds], ?_⟩
  rw [node_fill]
  split
  · rename_i h
    rw [h.1]
  · rfl

/-- A new node is natural where the document has no tags. -/
theorem IsNaturalIn.push (h : g.IsNaturalIn document) (hnode : '!' ∉ document → node.IsNatural) :
    Graph.IsNaturalIn document (g.push node) := by
  intro htag number
  rw [node_push]
  split
  · exact hnode htag
  · exact h htag number

/-- A filled node is natural where its kind and its new content are. -/
theorem IsNaturalIn.fill (h : g.IsNaturalIn document)
    (hnode : '!' ∉ document → Node.IsNatural ⟨(g.node number).kind, content⟩) :
    (g.fill number content).IsNaturalIn document := by
  intro htag other
  rw [node_fill]
  split
  · exact hnode htag
  · exact h htag other

end Graph

/-! ## Steps of parsing -/

/-- A step of parsing stays in the document, keeps the nodes that were read, and has a result that
satisfies a condition. -/
def Goes (document : Text) (m : Parse α) (result : α → Prop) : Prop :=
  ∀ input : Input, input.Sound document →
    Confined (Unscannable document)
      (fun r => r.2.Sound document ∧ input.nodes.Extends r.2.nodes ∧ result r.1) (m.run input)

/-- A step of parsing whose result does not matter. -/
abbrev GoesOn (document : Text) (m : Parse α) : Prop := Goes document m fun _ => True

variable {m : Parse α} {f : α → Parse β} {result : α → Prop} {result' : β → Prop}

/-- A step of the parser, and then another one that knows what the first one gave. -/
theorem Goes.bind (hm : Goes document m result)
    (hf : ∀ a, result a → Goes document (f a) result') : Goes document (m >>= f) result' := by
  intro _ hinput
  refine (hm _ hinput).bind fun ⟨a, after⟩ ⟨hafter, hnodes, ha⟩ => ?_
  refine (hf a ha after hafter).mono (fun _ => id) fun r hr => ?_
  exact ⟨hr.1, hnodes.trans hr.2.1, hr.2.2⟩

theorem goes_pure {a : α} (ha : result a) : Goes document (pure a) result :=
  fun _ hinput => ⟨hinput, .refl _, ha⟩

theorem goes_fail : Goes document (Parse.fail : Parse α) result := fun _ _ => trivial

/-- A choice goes as its branches do. -/
theorem Goes.ite {p : Prop} [Decidable p] {m' : Parse α} (hm : p → Goes document m result)
    (hm' : ¬ p → Goes document m' result) : Goes document (if p then m else m') result := by
  split
  · exact hm ‹_›
  · exact hm' ‹_›

/-- A step that is made in one case only, before the same rest. -/
theorem Goes.ite_bind {p : Prop} [Decidable p] {m : Parse Unit} {f : Unit → Parse α}
    (hm : GoesOn document m) (hf : ∀ u, Goes document (f u) result) :
    Goes document (if p then m >>= f else f ()) result :=
  .ite (fun _ => hm.bind fun u _ => hf u) fun _ => hf ()

theorem Goes.on (hm : Goes document m result) : GoesOn document m :=
  fun _ hinput => (hm _ hinput).mono (fun _ => id) fun _ h => ⟨h.1, h.2.1, trivial⟩

theorem goes_get : GoesOn document (get : Parse Input) :=
  fun _ hinput => ⟨hinput, .refl _, trivial⟩

/-- Looking at the next token changes nothing but the scanner. -/
theorem run_peek (input : Input) :
    Parse.peek.run input =
      input.scanner.peek >>= fun r => .ok (r.1, { input with scanner := r.2 }) := by
  simp only [Parse.peek, bind_pure_comp, StateT.run_bind, StateT.run_get, StateT.run_monadLift,
    monadLift_self, StateT.run_map, StateT.run_set, map_pure, Functor.map_map, pure_bind]
  rfl

/-- The next token may stand in the document. -/
theorem goes_peek : Goes document Parse.peek fun token => token.StandsIn document := by
  intro input hinput
  rw [run_peek]
  refine (Scanner.confined_peek hinput.scanner).bind fun ⟨token, scanner⟩ ⟨htoken, hscanner⟩ => ?_
  exact ⟨⟨hscanner, hinput.nodes⟩, .refl _, htoken⟩

theorem goes_advance : GoesOn document Parse.advance :=
  fun _ hinput => ⟨⟨hinput.scanner.advance, hinput.nodes⟩, .refl _, trivial⟩

theorem goes_accept (token : Token) : GoesOn document (Parse.accept token) :=
  goes_peek.bind fun _ _ => .ite (fun _ => goes_advance.bind fun _ _ => goes_pure trivial)
    fun _ => goes_pure trivial

theorem goes_expect (token : Token) : GoesOn document (Parse.expect token) :=
  (goes_accept token).bind fun _ _ => .ite (fun _ => goes_fail) fun _ => goes_pure trivial

theorem goes_isNext (tokens : List Token) : GoesOn document (Parse.isNext tokens) :=
  goes_peek.bind fun _ _ => goes_pure trivial

/-- A node that is natural where the document has no tags may be added. -/
theorem goes_add {node : Node} (hnode : '!' ∉ document → node.IsNatural) :
    GoesOn document (Parse.add node) :=
  fun _ hinput => ⟨⟨hinput.scanner, hinput.nodes.push hnode⟩, Graph.extends_push _ _, trivial⟩

theorem goes_addEmpty : GoesOn document addEmpty :=
  goes_add fun _ => .inr ⟨rfl, nofun⟩

/-! ## Properties of nodes -/

/-- A node has a tag only in a document with an exclamation mark. -/
def Properties.StandIn (document : Text) (p : Properties) : Prop :=
  '!' ∉ document → p.tag = none

/-- A tag is resolved with the handles that the document declares. -/
theorem goes_resolveTag (tag : Option Text × Text) : GoesOn document (resolveTag tag) := by
  obtain ⟨handle, suffix⟩ := tag
  cases handle with
  | none => exact goes_pure trivial
  | some handle =>
      refine goes_get.bind fun input _ => ?_
      split
      · exact goes_pure trivial
      · exact goes_fail

/-- A document without exclamation marks has no tags. -/
theorem goes_readTag? :
    Goes document readTag? fun tag => '!' ∉ document → tag = none := by
  refine goes_peek.bind fun token htoken => ?_
  split
  · exact goes_advance.bind fun _ _ => goes_pure fun hnone => absurd htoken hnone
  · exact goes_pure fun _ => rfl

theorem goes_readAnchor? : GoesOn document readAnchor? := by
  refine goes_peek.bind fun token _ => ?_
  split
  · exact goes_advance.bind fun _ _ => goes_pure trivial
  · exact goes_pure trivial

/-- The properties of a node come from the document. -/
theorem goes_readProperties : Goes document readProperties (·.StandIn document) := by
  refine goes_readAnchor?.bind fun anchor _ => ?_
  cases anchor with
  | some name =>
      refine goes_readTag?.bind fun tag htag => ?_
      cases tag with
      | none => exact goes_pure fun _ => rfl
      | some tag =>
          have hwhole : GoesOn document ((some tag).mapM resolveTag) :=
            (goes_resolveTag tag).bind fun whole _ => goes_pure (a := some whole) trivial
          exact hwhole.bind fun whole _ => goes_pure fun hnone => absurd (htag hnone) nofun
  | none =>
      refine goes_readTag?.bind fun tag htag => ?_
      cases tag with
      | none => exact goes_pure fun _ => rfl
      | some tag =>
          refine goes_readAnchor?.bind fun anchor _ => ?_
          exact (goes_resolveTag tag).bind fun whole _ =>
            goes_pure fun hnone => absurd (htag hnone) nofun

/-- Without a tag a node has the kind that it has by default. -/
theorem Properties.StandIn.kind_eq {p : Properties} (hp : p.StandIn document) (standard : Kind)
    (hnone : '!' ∉ document) : p.kind standard = standard := by
  unfold Properties.kind Properties.isSilent
  rw [hp hnone]
  rfl

/-- A plain scalar without a tag has the kind that its text says. -/
theorem Properties.StandIn.isNatural_scalar {p : Properties} {text : Text} {plain : Bool}
    (hp : p.StandIn document) (htext : plain = true → text.getLast? ≠ some '\n')
    (hnone : '!' ∉ document) : Node.IsNatural ⟨p.scalarKind plain text, .scalar text⟩ := by
  unfold Properties.scalarKind
  rw [hp hnone]
  cases plain with
  | true => exact .inr ⟨rfl, htext rfl⟩
  | false => exact .inl rfl

/-! ## Adding nodes -/

/-- A step of parsing that adds a node of a type and gives its number. -/
def Adds (document : Text) (kind : Kind) (m : Parse Nat) : Prop :=
  ∀ input : Input, input.Sound document →
    Confined (Unscannable document)
      (fun r => r.2.Sound document ∧ input.nodes.Extends r.2.nodes ∧ r.1 < r.2.nodes.size ∧
        (r.2.nodes.node r.1).kind = kind)
      (m.run input)

/-- What adds a node goes on. -/
theorem Adds.goesOn {kind : Kind} {m : Parse Nat} (hm : Adds document kind m) :
    GoesOn document m :=
  fun _ hinput => (hm _ hinput).mono (fun _ => id) fun _ h => ⟨h.1, h.2.1, trivial⟩

theorem adds_add (node : Node) (hnode : '!' ∉ document → node.IsNatural) :
    Adds document node.kind (Parse.add node) := by
  intro input hinput
  refine ⟨⟨hinput.scanner, hinput.nodes.push hnode⟩, Graph.extends_push _ _, ?_, ?_⟩
  · exact (Array.size_push node).symm ▸ Nat.lt_succ_self _
  · exact congrArg Node.kind ((Graph.node_push _ _ _).trans (if_pos rfl))

/-- A node with an anchor is added like one without. -/
theorem adds_addNode {p : Properties} {node : Node} (hnode : '!' ∉ document → node.IsNatural) :
    Adds document node.kind (addNode p node) := by
  intro input hinput
  obtain ⟨hafter, hrest⟩ := adds_add node hnode input hinput
  unfold addNode
  split
  · exact ⟨hafter, hrest⟩
  · rename_i name hanchor
    change Confined _ _ (StateT.run
      (if (input.anchors.lookup name).isSome = true then Parse.fail else _) input)
    split
    · trivial
    · exact ⟨⟨hafter.scanner, hafter.nodes⟩, hrest⟩

/-- A collection is added before its parts are read, and filled with them afterwards. -/
theorem goes_filled {kind : Kind} {add : Parse Nat} (content : α → Content)
    (hadd : Adds document kind add) (hm : GoesOn document m)
    (hcontent : '!' ∉ document → ∀ a, Node.IsNatural ⟨kind, content a⟩) :
    GoesOn document (do
      let number ← add
      let a ← m
      Parse.fill number (content a)
      return number) := by
  intro input hinput
  refine (hadd input hinput).bind fun ⟨number, added⟩ ⟨hadded, hnodes, hnumber, hkind⟩ => ?_
  refine (hm added hadded).bind fun ⟨a, after⟩ ⟨hafter, hnodes', _⟩ => ?_
  have hkind' : (after.nodes.node number).kind = kind := (hnodes' number hnumber).2.trans hkind
  refine ⟨⟨hafter.scanner, hafter.nodes.fill fun hnone => ?_⟩,
    (hnodes.trans hnodes').trans (Graph.extends_fill _ _ _), trivial⟩
  rw [hkind']
  exact hcontent hnone a

/-- A sequence is added empty, so that its items can refer to it, and filled afterwards. -/
theorem goes_addSequence {p : Properties} {items : Parse (List Nat)} (hp : p.StandIn document)
    (hitems : GoesOn document items) : GoesOn document (addSequence p items) :=
  goes_filled .sequence (adds_addNode fun hnone => hp.kind_eq .sequence hnone) hitems
    fun hnone _ => hp.kind_eq .sequence hnone

/-- A mapping too is filled after its entries have been read. -/
theorem goes_addMapping {p : Properties} {entries : Parse (List (Nat × Nat))}
    (hp : p.StandIn document) (hentries : GoesOn document entries) :
    GoesOn document (addMapping p entries) :=
  goes_filled .mapping (adds_addNode fun hnone => hp.kind_eq .mapping hnone) hentries
    fun hnone _ => hp.kind_eq .mapping hnone

theorem goes_readAlias (name : Text) : GoesOn document (readAlias name) := by
  refine goes_get.bind fun input _ => ?_
  split
  · exact goes_pure trivial
  · exact goes_fail

/-! ## Reading nodes -/

/-- All readers of nodes go on, with the given fuel. -/
structure ReadersGo (document : Text) (fuel : Nat) : Prop where
  node : ∀ block sequenceAllowed, GoesOn document (readNode fuel block sequenceAllowed)
  content : ∀ block sequenceAllowed (p : Properties), p.StandIn document →
    GoesOn document (readContent fuel block sequenceAllowed p)
  nodeUnless : ∀ block sequenceAllowed tokens,
    GoesOn document (readNodeUnless fuel block sequenceAllowed tokens)
  blockItems : GoesOn document (readBlockItems fuel)
  bareItems : GoesOn document (readBareItems fuel)
  blockValue : GoesOn document (readBlockValue fuel)
  blockEntries : GoesOn document (readBlockEntries fuel)
  flowValue : ∀ closing, GoesOn document (readFlowValue fuel closing)
  flowItems : ∀ first, GoesOn document (readFlowItems fuel first)
  flowEntries : ∀ first, GoesOn document (readFlowEntries fuel first)

section Readers

variable {fuel : Nat} (ih : ReadersGo document fuel)

include ih

/-- A node is an alias, or has properties and a content.  Here and below, the parts of a node are
read with less fuel. -/
theorem goes_readNode (block sequenceAllowed : Bool) :
    GoesOn document (readNode (fuel + 1) block sequenceAllowed) := by
  unfold readNode
  refine goes_peek.bind fun token _ => ?_
  split
  · exact goes_advance.bind fun _ _ => goes_readAlias _
  · exact goes_readProperties.bind fun p hp => ih.content block sequenceAllowed p hp

/-- The next token tells the kind of a content. -/
theorem goes_readContent (block sequenceAllowed : Bool) {p : Properties}
    (hp : p.StandIn document) :
    GoesOn document (readContent (fuel + 1) block sequenceAllowed p) := by
  unfold readContent
  refine goes_peek.bind fun token htoken => ?_
  split
  · rename_i text plain
    refine goes_advance.bind fun _ _ => (adds_addNode fun hnone => ?_).goesOn
    refine hp.isNatural_scalar ?_ hnone
    rintro rfl
    exact htoken
  · exact goes_addSequence hp (goes_advance.bind fun _ _ => ih.flowItems true)
  · exact goes_addMapping hp (goes_advance.bind fun _ _ => ih.flowEntries true)
  · refine .ite (fun _ => goes_addSequence hp ih.bareItems) fun _ => ?_
    refine .ite (fun _ => ?_) fun _ => ?_
    · exact goes_addSequence hp (goes_advance.bind fun _ _ => ih.blockItems)
    refine .ite (fun _ => ?_) fun _ => ?_
    · exact goes_addMapping hp (goes_advance.bind fun _ _ => ih.blockEntries)
    refine .ite (fun _ => ?_) fun _ => goes_fail
    exact (adds_addNode fun hnone => hp.isNatural_scalar (fun _ => by simp) hnone).goesOn

theorem goes_readNodeUnless (block sequenceAllowed : Bool) (tokens : List Token) :
    GoesOn document (readNodeUnless (fuel + 1) block sequenceAllowed tokens) := by
  unfold readNodeUnless
  exact (goes_isNext tokens).bind fun _ _ =>
    .ite (fun _ => goes_addEmpty) fun _ => ih.node block sequenceAllowed

theorem goes_readBlockItems : GoesOn document (readBlockItems (fuel + 1)) := by
  unfold readBlockItems
  refine (goes_accept _).bind fun _ _ => .ite (fun _ => ?_) fun _ => ?_
  · refine (ih.nodeUnless _ _ _).bind fun item _ => ?_
    exact ih.blockItems.bind fun _ _ => goes_pure trivial
  · exact (goes_expect _).bind fun _ _ => goes_pure trivial

theorem goes_readBareItems : GoesOn document (readBareItems (fuel + 1)) := by
  unfold readBareItems
  refine (goes_accept _).bind fun _ _ => .ite (fun _ => ?_) fun _ => goes_pure trivial
  refine (ih.nodeUnless _ _ _).bind fun item _ => ?_
  exact ih.bareItems.bind fun _ _ => goes_pure trivial

theorem goes_readBlockValue : GoesOn document (readBlockValue (fuel + 1)) := by
  unfold readBlockValue
  exact (goes_accept _).bind fun _ _ =>
    .ite (fun _ => ih.nodeUnless _ _ _) fun _ => goes_addEmpty

theorem goes_readBlockEntries : GoesOn document (readBlockEntries (fuel + 1)) := by
  unfold readBlockEntries
  refine (goes_accept _).bind fun _ _ => .ite (fun _ => ?_) fun _ => ?_
  · refine (ih.nodeUnless _ _ _).bind fun key _ => ih.blockValue.bind fun value _ => ?_
    exact ih.blockEntries.bind fun _ _ => goes_pure trivial
  · exact (goes_expect _).bind fun _ _ => goes_pure trivial

theorem goes_readFlowValue (closing : Token) :
    GoesOn document (readFlowValue (fuel + 1) closing) := by
  unfold readFlowValue
  exact (goes_accept _).bind fun _ _ =>
    .ite (fun _ => ih.nodeUnless _ _ _) fun _ => goes_addEmpty

/-- Items in brackets are separated by commas, and may be entries of their own. -/
theorem goes_readFlowItems (first : Bool) :
    GoesOn document (readFlowItems (fuel + 1) first) := by
  unfold readFlowItems
  refine (goes_accept _).bind fun _ _ => .ite (fun _ => goes_pure trivial) fun _ => ?_
  refine .ite_bind (goes_expect _) fun _ => ?_
  refine (goes_accept _).bind fun _ _ => .ite (fun _ => ?_) fun _ => ?_
  · have hentry : GoesOn document (do
        let key ← readNodeUnless fuel false false [.value, .flowEntry, .flowSequenceEnd]
        let value ← readFlowValue fuel .flowSequenceEnd
        return (key, value)) :=
      (ih.nodeUnless _ _ _).bind fun _ _ => (ih.flowValue _).bind fun _ _ => goes_pure trivial
    have hpair := goes_filled (fun entry => .mapping [entry])
      (adds_add ⟨.mapping, .mapping []⟩ fun _ => rfl) hentry fun _ _ => rfl
    have hitems := hpair.bind fun pair _ => (ih.flowItems false).bind fun items _ =>
      show GoesOn document (pure (pair :: items)) from goes_pure trivial
    simpa only [bind_assoc, pure_bind] using hitems
  · refine (goes_accept _).bind fun _ _ => .ite (fun _ => goes_pure trivial) fun _ => ?_
    refine (ih.node _ _).bind fun item _ => ?_
    exact (ih.flowItems _).bind fun _ _ => goes_pure trivial

theorem goes_readFlowEntries (first : Bool) :
    GoesOn document (readFlowEntries (fuel + 1) first) := by
  unfold readFlowEntries
  refine (goes_accept _).bind fun _ _ => .ite (fun _ => goes_pure trivial) fun _ => ?_
  refine .ite_bind (goes_expect _) fun _ => ?_
  refine (goes_accept _).bind fun _ _ => .ite (fun _ => ?_) fun _ => ?_
  · refine (ih.nodeUnless _ _ _).bind fun key _ => (ih.flowValue _).bind fun value _ => ?_
    exact (ih.flowEntries _).bind fun _ _ => goes_pure trivial
  · refine (goes_accept _).bind fun _ _ => .ite (fun _ => goes_pure trivial) fun _ => ?_
    refine (ih.node _ _).bind fun key _ => goes_addEmpty.bind fun value _ => ?_
    exact (ih.flowEntries _).bind fun _ _ => goes_pure trivial

end Readers

/-- Every reader of nodes goes on, with any fuel. -/
theorem readersGo (document : Text) (fuel : Nat) : ReadersGo document fuel := by
  induction fuel with
  | zero =>
      refine ⟨?_, ?_, ?_, ?_, ?_, ?_, ?_, ?_, ?_, ?_⟩
      all_goals intros; exact goes_fail
  | succ fuel ih =>
      exact {
        node := goes_readNode ih
        content := fun block sequenceAllowed _ hp => goes_readContent ih block sequenceAllowed hp
        nodeUnless := goes_readNodeUnless ih
        blockItems := goes_readBlockItems ih
        bareItems := goes_readBareItems ih
        blockValue := goes_readBlockValue ih
        blockEntries := goes_readBlockEntries ih
        flowValue := goes_readFlowValue ih
        flowItems := goes_readFlowItems ih
        flowEntries := goes_readFlowEntries ih }

/-! ## Documents -/

/-- Directives are read up to the first token that is none. -/
theorem goes_readDirectives (fuel : Nat) (versionSeen : Bool) (handles : List (Text × Text)) :
    GoesOn document (readDirectives fuel versionSeen handles) := by
  induction fuel generalizing versionSeen handles with
  | zero => exact goes_fail
  | succ fuel ih =>
      refine goes_peek.bind fun token _ => ?_
      split
      · exact goes_advance.bind fun _ _ => ih _ _
      · exact goes_advance.bind fun _ _ => .ite (fun _ => goes_fail) fun _ => ih _ _
      · exact goes_advance.bind fun _ _ => .ite (fun _ => goes_fail) fun _ => ih _ _
      · exact fun _ hinput => ⟨⟨hinput.scanner, hinput.nodes⟩, .refl _, trivial⟩

theorem goes_skipEnds (fuel : Nat) : GoesOn document (skipEnds fuel) := by
  induction fuel with
  | zero => exact goes_fail
  | succ fuel ih =>
      exact (goes_accept _).bind fun _ _ => .ite (fun _ => ih) fun _ => goes_pure trivial

theorem goes_readMarked (fuel : Nat) : GoesOn document (readMarked fuel) := by
  refine (goes_readDirectives _ _ _).bind fun _ _ => (goes_expect _).bind fun _ _ => ?_
  exact goes_peek.bind fun _ _ =>
    .ite (fun _ => goes_addEmpty) fun _ => (readersGo document fuel).node _ _

theorem goes_expectEnd (fuel : Nat) : GoesOn document (expectEnd fuel) := by
  refine (goes_skipEnds _).bind fun _ _ => goes_peek.bind fun _ _ => ?_
  refine .ite (fun _ => ?_) fun _ => goes_pure trivial
  exact (goes_readDirectives _ _ _).bind fun _ _ => goes_fail

/-- A document begins with directives or without, and has a node or none. -/
theorem goes_readDocument (fuel : Nat) : GoesOn document (readDocument fuel) := by
  have hend : ∀ root : Nat, GoesOn document (expectEnd fuel >>= fun _ => pure (some root)) :=
    fun _ => (goes_expectEnd fuel).bind fun _ _ => goes_pure trivial
  refine goes_peek.bind fun token _ => .ite (fun _ => goes_pure trivial) fun _ => ?_
  refine .ite (fun _ => ?_) fun _ => ?_
  · exact (goes_readMarked fuel).bind fun root _ => hend root
  · exact ((readersGo document fuel).node _ _).bind fun root _ => hend root

/-- Reading the nodes of a document raises an exception only when scanning it does.  In a document
without tags the nodes have the types that they show. -/
theorem confined_parse (document : Text) :
    Confined (Unscannable document) (fun r => r.1.IsNaturalIn document) (parse document) := by
  have hstart : Input.Sound document ⟨.start document, standardHandles, [], #[]⟩ := by
    refine ⟨Scanner.sound_start document, fun _ number => .inr ⟨rfl, nofun⟩⟩
  refine (goes_readDocument _ _ hstart).bind fun ⟨root, input⟩ ⟨hinput, _⟩ => ?_
  exact hinput.nodes

end Yaml
end Stencil
