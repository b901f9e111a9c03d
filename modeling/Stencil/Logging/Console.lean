import Stencil.Json.Write
import Stencil.Logging.Level
import Stencil.Logging.Pattern
import Stencil.Markup.Panel

/-!
# The console

The console is what the program shows: its output, the log records among it, and panels.  Records
are shown once the console has been set up, from a level on, and they are part of the output only as
lines of JSON.  Setting up takes effect once; later ones change nothing.
-/

namespace Stencil.Logging

/-- A log record: how serious it is, where it comes from and what it says. -/
structure Record where
  level : Int
  source : Text
  message : Text
deriving DecidableEq, Repr

/-- A member of the JSON line of a record. -/
def Record.field (name value : Text) : Text := Json.string name ++ ": " ++ Json.string value

/-- The JSON line of a record. -/
def Record.line (r : Record) : Text :=
  '\x7b' :: Text.join ", "
    [field "level" (levelName r.level), field "name" r.source, field "message" r.message]
    ++ ['\x7d', '\n']

/-- What receives the records. -/
inductive Sink where
  /-- The output, as lines of JSON. -/
  | json
  /-- A stream of its own, for people. -/
  | display
deriving DecidableEq, Repr

/-- What the program shows, and how. -/
structure Console where
  sink : Option Sink
  /-- The least level of records that are shown. -/
  threshold : Nat
  /-- Whether lines of JSON have been asked for. -/
  jsonMode : Bool
  /-- Whether the console has been set up. -/
  ready : Bool
  output : Text
  panels : List Markup.Panel
deriving DecidableEq, Repr

namespace Console

/-- The console before it is set up. -/
def initial : Console := ⟨none, 30, false, false, [], []⟩

instance : Inhabited Console := ⟨initial⟩

/-- Sets the console up.  A name that stands for no level is refused, but by then the receiver of
the records has been replaced. -/
def setUp (asked environment : Option Text) (json : Option Bool) (c : Console) :
    Except LevelFault Unit × Console :=
  if c.ready then (.ok (), c)
  else
    let jsonMode := json.getD c.jsonMode
    let c := { c with jsonMode := jsonMode, sink := some (if jsonMode then .json else .display) }
    match readLevel (requestedName asked environment) with
    | .ok level => (.ok (), { c with threshold := level, ready := true })
    | .error fault => (.error fault, c)

/-- Adds to the output. -/
def print (t : Text) (c : Console) : Console := { c with output := c.output ++ t }

/-- Shows a panel, as far as it can be drawn. -/
def showPanel (panel : Markup.Panel) (c : Console) : Except Markup.Fault Unit × Console :=
  (panel.check, { c with panels := c.panels ++ [panel] })

/-- Whether records of a level are shown. -/
def shows (c : Console) (level : Int) : Bool := 0 < level && c.threshold ≤ level

/-- Receives a record. -/
def receive (r : Record) (c : Console) : Console :=
  if c.shows r.level && c.sink = some .json then c.print r.line else c

/-- The name of a source of records; without one it is the root of all sources. -/
def sourceName (source : Text) : Text := if source.isEmpty then "root" else source

/-- Logs a pattern with arguments.  When they do not fit together, only those who debug the program
are told. -/
def log (source : Text) (level : Int) (pattern : Text) (arguments : List Value) (c : Console) :
    Console :=
  match Pattern.fill pattern arguments with
  | .ok message => c.receive ⟨level, sourceName source, message⟩
  | .error exception =>
    if c.shows level then
      c.receive ⟨10, "mizui.infrastructure.logging",
        "json logging emit failed: " ++ exception.message⟩
    else c

/-- Setting up a console that is set up changes nothing. -/
theorem setUp_of_ready (asked environment : Option Text) (json : Option Bool) {c : Console}
    (h : c.ready = true) : c.setUp asked environment json = (.ok (), c) := by
  simp [setUp, h]

end Console
end Stencil.Logging
