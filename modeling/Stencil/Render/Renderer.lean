import Stencil.Render.Expansion

/-!
# Rendering

To render a template its text is loaded, components are put in, the text is read as a program, the
program is compiled unless that was done before, and the compiled template is applied to the data.
Every stage can fail; rendering as a whole then has an empty text and says why.  It fails itself
when the data raise an exception whose text cannot be had, because the text is asked for where
nothing is caught any more, and when the path of a log can be none.
-/

namespace Stencil.Render

open Stencil.Render.Action

/-- Reads a text as a program, and logs why it is none. -/
def interpolate (identifier text : Text) : Action Template.Program := do
  match Template.interpolate (← get).config.delimiters identifier text with
  | .ok program => return program
  | .error error =>
    logError ("Parsing error in " ++ identifier ++ ": " ++ error.message)
    throw (.template error)

/-- The compiled template of a program.  Programs are compiled once, whatever identifiers they come
from. -/
def compile (program : Template.Program) (identifier : Text) : Action Template.Compiled := do
  match (← get).cache.find? (.program program) with
  | some (.compiled template) =>
    modifyCache (Cache.touch (.program program))
    return template
  | _ =>
    let result := Template.compile program identifier
    record (.compiled identifier program result.toOption)
    match result with
    | .ok template =>
      modifyCache (Cache.write (.program program) (.compiled template))
      return template
    | .error error => refuse error

/-- All stages before the template is applied to data. -/
def prepare (identifier : Text) : Action (Template.Program × Template.Compiled) := do
  let text ← load identifier
  let text ← inline text 0 identifier
  let program ← interpolate identifier text
  return (program, ← compile program identifier)

/-- What comes of rendering a template. -/
structure Result where
  identifier : Text
  text : Text
  failure : Option Failure
deriving DecidableEq, Repr

/-- The result of a failure, which is logged. -/
def failed (identifier : Text) (failure : Failure) : Action Result := do
  logError ("Rendering error in " ++ identifier ++ ": " ++ failure.message)
  return ⟨identifier, [], some failure⟩

/-- The result of an exception that the data raised, which is logged as a crash.  Asking for its
text may raise another one; that is not caught. -/
def crashed (identifier : Text) (data : Data) (raised : Raised) : Action Result :=
  match raised.inner? with
  | some inner => throw (.template (.unreported inner identifier))
  | none => do
    let error := Template.Error.invocation raised.report identifier
    logCrash identifier data error.message
    failed identifier (.template error)

/-- Applies a compiled template to data. -/
def invoke (identifier : Text) (template : Template.Compiled) (data : Data) : Action Result := do
  match template.apply data with
  | .error raised => crashed identifier data raised
  | .ok text =>
    tell "mizui.services.renderer" .debug
      ("rendered " ++ identifier ++ " (" ++ Nat.toDigits 10 text.length ++ " chars)")
    return ⟨identifier, text, none⟩

/-- Renders a template. -/
def render (identifier : Text) (data : Data) : Action Result := do
  match ← attempt (prepare identifier) with
  | .error failure => failed identifier failure
  | .ok (_, template) => invoke identifier template data

/-- Clears the cache. -/
def clearCache : Action Unit := do
  modifyCache Cache.clear
  record .cleared

end Stencil.Render
