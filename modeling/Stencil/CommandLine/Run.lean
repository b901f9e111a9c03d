import Stencil.CommandLine.Data
import Stencil.CommandLine.Options
import Stencil.CommandLine.Setting
import Stencil.Host
import Stencil.Text.Control

/-!
# Running commands

`render` shows a template applied to data, and `check` the paths that a template looks up.  A
command ends with an exit code, or with a fault of the way it was called.  A template that cannot be
rendered is no such fault: a panel says why, and the exit code is one.
-/

namespace Stencil.CommandLine

/-- Why a command does not come to an end. -/
inductive Fault where
  | usage (fault : UsageFault)
  | logging (fault : Logging.LevelFault)
  | data (fault : DataFault)
  | setting (fault : SettingFault)
  /-- The configuration file is bad; there may be more to say about it. -/
  | badConfig (config : Option File.Path) (detail : Option Text)
  /-- The host cannot start for another reason. -/
  | start (fault : StartFault)
  | failure (cause : Render.Failure)
  /-- The panel that says what came of the command cannot be drawn. -/
  | panel (fault : Markup.Fault)
deriving DecidableEq, Repr

namespace Fault

/-- How a configuration file is named that may not be given. -/
def configText (config : Option File.Path) : Text := (config.map File.Path.text).getD "None"

/-- The wording of a fault. -/
def message : Fault → Text
  | usage fault => fault.message
  | logging fault => fault.message
  | data fault => fault.message
  | setting fault => fault.message
  | badConfig config detail =>
    "Invalid config " ++ configText config ++ (match detail with
      | none => []
      | some detail => ": " ++ detail)
  | start (.logging fault) => fault.message
  | start (.config fault) => (fault.message?).getD []
  | failure cause => cause.message
  | panel fault => fault.message

/-- The fault of a host that cannot start.  That its configuration file is bad is the fault of the
call; that the file cannot be read is not. -/
def ofStart (config : Option File.Path) : StartFault → Fault
  | .config .malformed => badConfig config none
  | .config (.decoding _) => badConfig config none
  | .config (.invalid _) => badConfig config none
  | .config .notAMapping => badConfig config (Config.LoadFault.message? .notAMapping)
  | .config (.raised exception) =>
    if exception.kind = "ValueError".toList then badConfig config (some exception.message)
    else start (.config (.raised exception))
  | fault => start fault

end Fault

/-- The exit code of a command that did what it was asked for. -/
def succeeded : Nat := 0

/-- The exit code of a command on a template that cannot be rendered. -/
def failed : Nat := 1

/-- Ends with an exit code after a panel, if it can be drawn. -/
def endWithPanel (code : Nat) (title style body : Text) (h : Host) : Except Fault Nat × Host :=
  let (result, console) := h.console.showPanel ⟨title, body, style⟩
  ((result.mapError .panel).map fun _ => code, { h with console := console })

/-- Adds to the output, which is no terminal. -/
def print (t : Text) (h : Host) : Host :=
  { h with console := h.console.print (Text.stripControls t) }

/-- Installs the context of the configuration file anew. -/
def configure (config : Option File.Path) (h : Host) : Except Fault Context × Host :=
  match h.bootstrap true config with
  | (.ok context, h) => (.ok context, h)
  | (.error fault, h) => (.error (.ofStart config fault), h)

/-! ## Rendering -/

/-- The data of a template: those of the data file, if there is one, and the settings. -/
def gather (tree : File.Tree) (data : Option File.Path) (settings : List Text) :
    Except Fault Data := do
  let data ← match data with
    | none => pure (.ofTree (.mapping []))
    | some path => (loadData tree path).mapError .data
  (applySettings data settings).mapError .setting

/-- Shows what came of rendering. -/
def report (result : Render.Result) (h : Host) : Except Fault Nat × Host :=
  match result.failure with
  | none => (.ok succeeded, print result.text h)
  | some failure =>
    endWithPanel failed "render failed" "red"
      (Markup.styled "red" (Markup.escape failure.message)) h

/-- Renders a template. -/
def render (template : File.Path) (data : Option File.Path) (settings : List Text)
    (config : Option File.Path) (h : Host) : Except Fault Nat × Host :=
  match gather h.tree data settings with
  | .error fault => (.error fault, h)
  | .ok data => match configure config h with
    | (.error fault, h) => (.error fault, h)
    | (.ok context, h) => match h.perform (Render.render template.text data) context with
      | (.error failure, h) => (.error (.failure failure), h)
      | (.ok result, h) => report result h

/-! ## Checking -/

/-- The markup of a list of paths. -/
def listing (paths : List Text) : Text :=
  if paths.isEmpty then Markup.styled "dim" "no placeholders"
  else Text.join "\n" (paths.map fun path => "- " ++ path)

/-- Checks a template. -/
def check (template : File.Path) (config : Option File.Path) (h : Host) :
    Except Fault Nat × Host :=
  match configure config h with
  | (.error fault, h) => (.error fault, h)
  | (.ok context, h) => match h.perform (Render.prepare template.text) context with
    | (.error (.template error), h) =>
      let body := Markup.styled "red" error.kind.name ++ ": " ++ Markup.escape error.message
      endWithPanel failed template.text "red" body h
    | (.error failure, h) => (.error (.failure failure), h)
    | (.ok (program, _), h) =>
      endWithPanel succeeded (template.text ++ " ok") "green" (listing program.paths) h

/-! ## Calling the program -/

/-- How the program is called. -/
def usage : Text :=
  "Usage: mizui [--json-logs] render TEMPLATE [--data FILE] [--set KEY=VALUE]... [--config FILE]\n"
    ++ "       mizui [--json-logs] check TEMPLATE [--config FILE]\n"

/-- Runs a command. -/
def execute (command : Command) (h : Host) : Except Fault Nat × Host :=
  match command with
  | .render template data settings config => render template data settings config h
  | .check template config => check template config h

/-- Runs a command, given by its verb and its arguments. -/
def runCall (call : Call) (h : Host) : Except Fault Nat × Host :=
  match readCommand call.verb call.arguments with
  | .error fault => (.error (.usage fault), h)
  | .ok .help => (.ok succeeded, print usage h)
  | .ok (.some command) => execute command h

/-- Runs the program with its arguments.  The variables are loaded and the console is set up before
the arguments of the command are looked at. -/
def run (arguments : List Text) (h : Host) : Except Fault Nat × Host :=
  match readCall arguments with
  | .error fault => (.error (.usage fault), h)
  | .ok .help => (.ok succeeded, print usage h)
  | .ok (.some call) => match h.loadVariables with
    | (.error fault, h) => (.error (.start (.config fault)), h)
    | (.ok (), h) => match h.setUpLogging none (some call.jsonLogs) with
      | (.error fault, h) => (.error (.logging fault), h)
      | (.ok (), h) => runCall call h

end Stencil.CommandLine
