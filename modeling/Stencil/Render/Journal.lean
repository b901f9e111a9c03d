import Stencil.Json.Write
import Stencil.Render.Session

/-!
# Journals

Errors are appended to one log as lines with a time, crashes to another as lines of JSON.  When a
line cannot be written, only the operator is told.
-/

namespace Stencil.Render

open Stencil.Render.Action

/-- The name under which the journals tell the operator something. -/
def journalSource : Text := "mizui"

/-- A line for a log: the text without line feeds at its end, and one line feed. -/
def logLine (t : Text) : Text := Text.trimEnd (· = '\n') t ++ ['\n']

/-- The line of an error. -/
def errorLine (now message : Text) : Text := logLine ("[" ++ now ++ "] ERROR: " ++ message)

/-- Writes bytes at the end of the log at a path, and makes the directories on the way to it. -/
def appendLog (path : File.Path) (bytes : List UInt8) : Action (Except File.Fault Unit) := do
  let s ← get
  match s.tree.makeDirectories path.parent with
  | (.error fault, tree) =>
    set { s with tree := tree }
    return .error fault
  | (.ok (), tree) =>
    match tree.append path bytes with
    | .error fault =>
      set { s with tree := tree }
      return .error fault
    | .ok tree =>
      set { s with tree := tree }
      return .ok ()

/-- Tells the operator that a line could not be written; a path that is none is a failure. -/
def reportFault (what : Text) (fault : File.Fault) : Action Unit :=
  if fault.isSystem then
    tell journalSource .debug (what ++ " log write failed: " ++ fault.message)
  else throw (.file fault)

/-- Logs an error. -/
def logError (message : Text) : Action Unit := do
  tell journalSource .error message
  let s ← get
  match ← appendLog s.config.errorLog (Text.Utf8.encode (errorLine s.now message)) with
  | .ok () => return ()
  | .error fault => reportFault "error" fault

/-- The JSON line of a crash: when it happened, the template concerned, the error and the data. -/
def crashLine (now identifier error : Text) (data : Data) : Except Json.Fault Text := do
  let data ← Json.write data.pool Json.writeLimit data.root
  return Json.enclosed '\x7b'
    [Json.member "timestamp" (Json.string now),
      Json.member "template_path" (Json.string identifier),
      Json.member "error" (Json.string error), Json.member "data" data] '\x7d' ++ ['\n']

/-- Logs that a template failed on its data.  Data that JSON has no form for leave no line, but the
log comes to be. -/
def logCrash (identifier : Text) (data : Data) (error : Text) : Action Unit := do
  let s ← get
  let line := crashLine s.now identifier error data
  let bytes := match line with
    | .ok t => Text.Utf8.encode t
    | .error _ => []
  match ← appendLog s.config.crashLog bytes, line with
  | .error fault, _ => reportFault "crash" fault
  | .ok (), .error fault =>
    tell journalSource .debug ("crash log write failed: " ++ fault.message)
  | .ok (), .ok _ => return ()

end Stencil.Render
