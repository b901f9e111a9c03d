import Stencil.Render.Journal

/-!
# The store

The store gives the text of a template by its identifier, which is a path.  A text comes from the
cache when it is there, and otherwise from the file; then it is kept, and later changes of the file
are not seen.
-/

namespace Stencil.Render

open Stencil.Render.Action

/-- Reads the file of an identifier, which must exist. -/
def fetch (identifier : Text) : Action Text := do
  if ← isFile (.ofText identifier) then readText identifier
  else
    let error := Template.Error.templateNotFound identifier
    logError error.message
    throw (.template error)

/-- The text of a template. -/
def load (identifier : Text) : Action Text := do
  match (← get).cache.find? (.source identifier) with
  | some (.source text) =>
    modifyCache (Cache.touch (.source identifier))
    return text
  | _ =>
    let text ← fetch identifier
    modifyCache (Cache.write (.source identifier) (.source text))
    return text

/-- The text of a template; nothing when there is no file. -/
def loadOrEmpty (identifier : Text) : Action Text := do
  match ← attempt (load identifier) with
  | .ok text => return text
  | .error (.template (.templateNotFound _)) => return []
  | .error failure => throw failure

end Stencil.Render
