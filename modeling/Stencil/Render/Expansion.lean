import Stencil.Render.Store

/-!
# Expansion of components

A component marker stands for the text of another file, in which further markers are expanded before
the next marker is looked at.  Markers may stand so deep and no deeper, so expansion always ends,
also for components that contain themselves.  The configured depth is the only limit: how deep the
calls of an interpreter can be nested is left out, so that any depth can be configured and reached.
-/

namespace Stencil.Render

open Stencil.Render.Action

/-- Logs an error of a template and fails with it. -/
def refuse {α : Type} (error : Template.Error) : Action α := do
  logError error.message
  throw (.template error)

/-- The text that a component marker in the template `identifier` stands for.  The text of the file
is expanded by `inside`; without it the marker is too deep. -/
def expandComponent (inside : Option (Text → Text → Action Text)) (identifier name : Text) :
    Action Text := do
  let path := (← get).config.componentPath name
  match inside with
  | none => refuse (.recursionTooDeep identifier)
  | some expand =>
    if ← isFile path then expand path.text (← loadOrEmpty path.text)
    else refuse (.componentNotFound path.text identifier)

/-- The texts of tokens, one after the other, where components are expanded. -/
def expandTokens (expand : Text → Action Text) : List Template.Token → Action Text
  | [] => return []
  | token :: tokens => do
    let text ← match token with
      | .component name _ => expand name
      | token => pure token.source
    return text ++ (← expandTokens expand tokens)

/-- The text of a template in which markers may stand in so many more components. -/
def expand : (remaining : Nat) → (identifier text : Text) → Action Text
  | 0, identifier, text => do
    expandTokens (expandComponent none identifier)
      (Template.scan (← get).config.delimiters text)
  | remaining + 1, identifier, text => do
    expandTokens (expandComponent (some (expand remaining)) identifier)
      (Template.scan (← get).config.delimiters text)

/-- How many components deep a marker may still stand below a depth. -/
def remainingDepth (config : Config) (depth : Int) : Nat := (config.maxDepth + 1 - depth).toNat

/-- The text of a template at a depth, with every component marker replaced by the expanded text of
its file. -/
def inline (text : Text) (depth : Int) (identifier : Text) : Action Text := do
  expand (remainingDepth (← get).config depth) identifier text

end Stencil.Render
