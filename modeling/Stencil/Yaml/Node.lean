import Stencil.Yaml.Kind

/-!
# Nodes of YAML documents

The nodes of a document are numbered, and a collection names its parts by their numbers.  An alias
is the number of the node with its anchor, so that one node can stand in several places, also inside
itself.
-/

namespace Stencil.Yaml

/-- What a node holds: a text, or the numbers of its parts. -/
inductive Content where
  | scalar (text : Text)
  | sequence (items : List Nat)
  | mapping (entries : List (Nat × Nat))
deriving DecidableEq, Repr, Inhabited

/-- A node of a document. -/
structure Node where
  kind : Kind
  content : Content
deriving DecidableEq, Repr, Inhabited

/-- The nodes of a document, by number. -/
abbrev Graph := Array Node

namespace Graph

/-- The node of a number; numbers are given only to nodes that are there. -/
def node (g : Graph) (number : Nat) : Node := g.getD number ⟨.null, .scalar []⟩

/-- The entries of a node; none where it is no mapping. -/
def entries (g : Graph) (number : Nat) : List (Nat × Nat) :=
  match (g.node number).content with
  | .mapping entries => entries
  | _ => []

/-- The number of entries of all mappings. -/
def entryCount (g : Graph) : Nat :=
  g.foldl (fun n node => match node.content with
    | .mapping entries => n + entries.length
    | _ => n) 0

/-- Gives a node another content. -/
def fill (g : Graph) (number : Nat) (content : Content) : Graph :=
  g.setIfInBounds number { g.node number with content := content }

/-- Gives a node another type. -/
def retype (g : Graph) (number : Nat) (kind : Kind) : Graph :=
  g.setIfInBounds number { g.node number with kind := kind }

end Graph
end Stencil.Yaml
