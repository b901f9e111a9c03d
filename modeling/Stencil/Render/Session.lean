import Stencil.Config.Basic
import Stencil.File.Tree
import Stencil.Template.Compiled

/-!
# Sessions

A session is all that rendering reads and changes: the configuration, the cache, the file tree and
the clock.  It also keeps a history of what was read and compiled, and the messages for the
operator.  An `Action` changes the session and either gives a result or fails; what it changed
before a failure stays changed.
-/

namespace Stencil.Render

/-- Why an action fails. -/
inductive Failure where
  | template (error : Template.Error)
  | file (fault : File.Fault)
  | decoding (fault : Text.Utf8.Fault)
deriving DecidableEq, Repr

namespace Failure

/-- The wording of a failure. -/
def message : Failure → Text
  | template error => error.message
  | file fault => fault.message
  | decoding fault => fault.message

/-- The kind of a failure, if it is an error of a template. -/
def kind? : Failure → Option Template.ErrorKind
  | template error => some error.kind
  | _ => none

end Failure

/-- What an entry of the cache is found by. -/
inductive Key where
  | source (identifier : Text)
  | program (program : Template.Program)
deriving DecidableEq, Repr

/-- What an entry of the cache holds: the text of a file, or a compiled template. -/
inductive Item where
  | source (text : Text)
  | compiled (template : Template.Compiled)
deriving DecidableEq, Repr

/-- What happened in a session. -/
inductive Event where
  /-- The file of an identifier was read; there is no text when reading failed. -/
  | read (identifier : Text) (text : Option Text)
  /-- A program was compiled for an identifier; there is no template when it could not be. -/
  | compiled (identifier : Text) (program : Template.Program) (template : Option Template.Compiled)
  /-- The cache was cleared. -/
  | cleared
deriving DecidableEq, Repr

/-- How serious a message for the operator is. -/
inductive Severity where
  | debug
  | error
deriving DecidableEq, Repr

/-- A message for the operator, with the name of its source. -/
structure Message where
  source : Text
  severity : Severity
  text : Text
deriving DecidableEq, Repr

/-- All that rendering reads and changes. -/
structure Session where
  config : Config
  cache : Cache Key Item
  tree : File.Tree
  /-- The present time, as it is written in the logs. -/
  now : Text
  /-- What happened, in order. -/
  events : List Event
  /-- The messages for the operator, in order. -/
  messages : List Message
deriving Inhabited

/-- The session with an empty cache over a file tree. -/
def Session.start (config : Config) (tree : File.Tree) (now : Text) : Session :=
  ⟨config, .empty config.cachePolicy, tree, now, [], []⟩

/-- A step of rendering, which may fail. -/
abbrev Action := ExceptT Failure (StateM Session)

namespace Action

/-- Adds to the history. -/
def record (event : Event) : Action Unit :=
  modify fun s => { s with events := s.events ++ [event] }

/-- Tells the operator something. -/
def tell (source : Text) (severity : Severity) (text : Text) : Action Unit :=
  modify fun s => { s with messages := s.messages ++ [⟨source, severity, text⟩] }

/-- Changes the cache. -/
def modifyCache (change : Cache Key Item → Cache Key Item) : Action Unit :=
  modify fun s => { s with cache := change s.cache }

/-- The result of an action or its failure; this itself does not fail. -/
def attempt {α : Type} (action : Action α) : Action (Except Failure α) := fun s =>
  let (result, s) := action s
  (.ok result, s)

/-- Whether a path leads to a file. -/
def isFile (path : File.Path) : Action Bool := do
  match (← get).tree.isFile path with
  | .ok found => return found
  | .error fault => throw (.file fault)

/-- The text of bytes; line ends of every kind become line feeds. -/
def decode (bytes : List UInt8) : Except Failure Text :=
  match Text.Utf8.decode bytes with
  | .ok t => .ok (Text.unixLines t)
  | .error fault => .error (.decoding fault)

/-- The text of the file at a path. -/
def readTree (tree : File.Tree) (path : File.Path) : Except Failure Text :=
  match tree.read path with
  | .ok bytes => decode bytes
  | .error fault => .error (.file fault)

/-- Reads the file of an identifier. -/
def readText (identifier : Text) : Action Text := do
  let result := readTree (← get).tree (.ofText identifier)
  record (.read identifier result.toOption)
  match result with
  | .ok t => return t
  | .error failure => throw failure

end Action
end Stencil.Render
