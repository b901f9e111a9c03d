import Stencil.Template.Program
import Stencil.Text.Word
import Stencil.Value.Lookup

/-!
# Compiled templates

A compiled template holds the texts of a program and the parts of its paths.  Applied to data it
gives the rendered text: it reads the data along the paths and changes nothing.
-/

namespace Stencil.Template

/-- A piece of a compiled template. -/
inductive Part where
  | text (t : Text)
  | path (parts : List Text)
deriving DecidableEq, Repr

/-- A template that is ready to be applied to data. -/
structure Compiled where
  parts : List Part
deriving DecidableEq, Repr, Inhabited

/-- Whether an expression is a dotted path: non-empty words with points between them. -/
def isPath (expression : Text) : Bool :=
  (Text.split '.' expression).all fun word => !word.isEmpty && word.all Text.isWord

/-- Compiles one segment. -/
def compileSegment (identifier : Text) : Segment → Except Error Part
  | .text t => .ok (.text t)
  | .lookup expression =>
    if isPath expression then .ok (.path (Text.split '.' expression))
    else .error (.notAPath expression identifier)

/-- Compiles the segments in order, up to the first expression that is no path. -/
def compileSegments (identifier : Text) : List Segment → Except Error (List Part)
  | [] => .ok []
  | s :: ss => do
    let p ← compileSegment identifier s
    let ps ← compileSegments identifier ss
    return p :: ps

/-- Compiles a program. -/
def compile (p : Program) (identifier : Text) : Except Error Compiled :=
  (compileSegments identifier p.segments).map Compiled.mk

/-- The text of one part for the given data: nothing for null. -/
def Part.render (data : Data) : Part → Except Raised Text
  | .text t => .ok t
  | .path parts => do
    match ← data.root.resolve data.pool parts with
    | .null => return []
    | v => v.display data.pool

/-- The texts of parts, one after the other, or the first exception among them. -/
def renderParts (data : Data) : List Part → Except Raised Text
  | [] => .ok []
  | p :: ps => do
    let t ← p.render data
    let rest ← renderParts data ps
    return t ++ rest

/-- The rendered text for the given data.  No data is the same as an empty mapping. -/
def Compiled.apply (c : Compiled) (data : Data) : Except Raised Text :=
  renderParts (match data.root with | .null => .ofTree (.mapping []) | _ => data) c.parts

end Stencil.Template
