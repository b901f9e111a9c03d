import Std.Time.DateTime.Timestamp
import Stencil.CommandLine.Run

/-!
# The program

The program runs on a copy of the files that it needs.  Which components these are is known only
from the templates, so the copy grows until nothing is missing that is there on the disk.  Then the
command runs, and what it has added to the logs is added to them on the disk.  A file of variables
is not read: the environment is what the program finds.
-/

namespace Stencil.CommandLine

/-- The files that a command names. -/
def Command.files : Command → List File.Path
  | .render template data _ config => template :: data.toList ++ config.toList
  | .check template config => template :: config.toList

/-- The template of a command. -/
def Command.template : Command → File.Path
  | .render template .. => template
  | .check template _ => template

/-- The configuration file of a command. -/
def Command.config : Command → Option File.Path
  | .render _ _ _ config => config
  | .check _ config => config

/-- The command that the arguments of the program make, if they make one. -/
def command? (arguments : List Text) : Option Command :=
  match readCall arguments with
  | .ok (.some call) => match readCommand call.verb call.arguments with
    | .ok (.some command) => some command
    | _ => none
  | _ => none

/-- The component that is missing for a command, if one is. -/
def missing? (command : Command) (h : Host) : Option File.Path :=
  match configure command.config h with
  | (.error _, _) => none
  | (.ok context, h) => match (h.perform (Render.prepare command.template.text) context).1 with
    | .error (.template (.componentNotFound path _)) => some (.ofText path)
    | _ => none

/-- What was added to a file. -/
def added (before after : File.Tree) (path : File.Path) : Option (List UInt8) :=
  match after.read path with
  | .error _ => none
  | .ok bytes => some (bytes.drop ((before.read path).toOption.getD []).length)

/-- The tree with a node at a path, and with the directories on the way to it. -/
def withNode (tree : File.Tree) (path : File.Path) : File.Node → File.Tree
  | .directory => (tree.makeDirectories path).2
  | .file bytes =>
    let tree := (tree.makeDirectories path.parent).2
    (tree.write path bytes).toOption.getD tree

/-! ## The clock -/

/-- The date so many days after the first of March of the year zero.  Years are counted from March
on, so that the leap day is their last day. -/
def dateAfter (days : Nat) : Calendar.Date :=
  let inCycle := days % 146097
  let yearInCycle := (inCycle - inCycle / 1460 + inCycle / 36524 - inCycle / 146096) / 365
  let inYear := inCycle - (365 * yearInCycle + yearInCycle / 4 - yearInCycle / 100)
  let monthFromMarch := (5 * inYear + 2) / 153
  let month := if monthFromMarch < 10 then monthFromMarch + 3 else monthFromMarch - 9
  let year := yearInCycle + days / 146097 * 400 + (if month ≤ 2 then 1 else 0)
  ⟨year, month, inYear - (153 * monthFromMarch + 2) / 5 + 1⟩

/-- The moment so many microseconds after the beginning of the year 1970, in universal time. -/
def momentAfter (microseconds : Nat) : Calendar.Moment :=
  let seconds := microseconds / Calendar.perSecond
  { date := dateAfter (seconds / 86400 + 719468)
    hour := seconds / 3600 % 24
    minute := seconds / 60 % 60
    second := seconds % 60
    microsecond := microseconds % Calendar.perSecond
    offset := some 0 }

example : dateAfter (19782 + 719468) = ⟨2024, 2, 29⟩ := by decide

/-! ## The outer layer -/

/-- What stands on the disk at a path. -/
def diskNode? (path : File.Path) : IO (Option File.Node) := do
  try
    return some (.file (← IO.FS.readBinFile (String.ofList path.text)).toList)
  catch
    | .inappropriateType .. => return some .directory
    | _ => return none

/-- Copies the file at a path. -/
def fetch (tree : File.Tree) (path : File.Path) : IO File.Tree := do
  return ((← diskNode? path).map (withNode tree path)).getD tree

/-- Copies the components that a command needs. -/
partial def fetchComponents (command : Command) (h : Host) : IO Host := do
  match missing? command h with
  | none => return h
  | some path =>
    let tree ← fetch h.tree path
    match tree.isFile path with
    | .ok true => fetchComponents command { h with tree := tree }
    | _ => return h

/-- The present time. -/
def presentTime : IO Text := do
  let now := (← Std.Time.Timestamp.now).toNanosecondsSinceUnixEpoch.val
  return (momentAfter (now.toNat / 1000)).text 'T'

/-- Adds to a file on the disk.  A file that cannot be written stays as it is. -/
def appendFile (path : File.Path) (bytes : List UInt8) : IO Unit := do
  try
    IO.FS.createDirAll (String.ofList path.parent.text)
    let handle ← IO.FS.Handle.mk (String.ofList path.text) .append
    handle.write bytes.toByteArray
  catch _ => return ()

/-- A variable of the environment. -/
def environmentVariable (name : String) : IO (List (Text × Text)) := do
  return ((← IO.getEnv name).map fun value => (name.toList, value.toList)).toList

/-- Runs a command on copies of its files. -/
def runOnDisk (arguments : List Text) : IO (Except Fault Nat × Host) := do
  let environment := (← environmentVariable "LOG_LEVEL") ++ (← environmentVariable "MIZUI_CONFIG")
  let home := (File.Path.ofText (← IO.currentDir).toString.toList).names
  let h := Host.start environment (.bare home) (← presentTime)
  match command? arguments with
  | none => return run arguments h
  | some command =>
    let tree ← (h.configPath none :: command.files).foldlM fetch h.tree
    let h ← fetchComponents command { h with tree := tree }
    let (result, after) := run arguments h
    let logs := after.context.toList.flatMap fun c =>
      [c.config.errorLog, c.config.crashLog].eraseDups
    for path in logs do
      match added h.tree after.tree path with
      | some bytes => appendFile path bytes
      | none => pure ()
    return (result, after)

end Stencil.CommandLine

open Stencil CommandLine in
/-- Runs the program and shows what came of it. -/
def main (arguments : List String) : IO UInt32 := do
  let (result, h) ← runOnDisk (arguments.map String.toList)
  IO.print (String.ofList h.console.output)
  for panel in h.console.panels do
    IO.println (String.ofList (panel.title ++ '\n' :: panel.body))
  match result with
  | .ok code => return UInt32.ofNat code
  | .error fault =>
    IO.eprintln (String.ofList ("Error: " ++ fault.message))
    return 2
