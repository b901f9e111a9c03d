import Stencil.Value.Basic
import Stencil.Yaml.Cursor

/-!
# Tokens of a YAML document

The tokens name the brackets and marks of a document, including those that are only implied by
indentation.
-/

namespace Stencil.Yaml

/-- Why a document cannot be read. -/
inductive Fault where
  /-- The document is no YAML. -/
  | malformed
  /-- A scalar stands for no value of its type. -/
  | raised (exception : Raised)
deriving DecidableEq, Repr, Inhabited

/-- A token. -/
inductive Token where
  /-- The version of YAML that the document says it is in: its first number. -/
  | version (major : Nat)
  /-- A handle for tags, and what it stands for. -/
  | tagHandle (handle target : Text)
  /-- A directive that says nothing. -/
  | directive
  | documentStart
  | documentEnd
  | documentsEnd
  | blockSequenceStart
  | blockMappingStart
  | blockEnd
  | flowSequenceStart
  | flowSequenceEnd
  | flowMappingStart
  | flowMappingEnd
  | blockEntry
  | flowEntry
  | key
  | value
  | alias (name : Text)
  | anchor (name : Text)
  /-- A tag: its handle, if it has one, and the rest. -/
  | tag (handle : Option Text) (suffix : Text)
  /-- A scalar, and whether it is written without quotes or a block mark. -/
  | scalar (text : Text) (plain : Bool)
deriving DecidableEq, Repr, Inhabited

/-- The fault of a document that is no YAML. -/
def malformed {α : Type} : Except Fault α := .error .malformed

end Stencil.Yaml
