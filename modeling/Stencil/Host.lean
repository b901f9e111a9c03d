import Stencil.Config.Load
import Stencil.Logging.Console
import Stencil.Render.Renderer

/-!
# Hosts

A host renders with the configuration and the cache of its context.  There is none at first; it is
installed by hand or from a configuration file, and stays until it is dropped or replaced.  A host
also owns the console, the environment, the file tree and the clock.  A file of variables may add to
the environment before a configuration file is looked for; what is in it and whether it can be read
is not known here.
-/

namespace Stencil

/-- What the renders of a host share. -/
structure Context where
  /-- The path of the configuration file. -/
  path : File.Path
  config : Config
  cache : Render.Cache Render.Key Render.Item

/-- The context of a configuration, with an empty cache. -/
def Context.ofConfig (path : File.Path) (config : Config) : Context :=
  ⟨path, config, .empty config.cachePolicy⟩

/-- The variables of an environment with their values. -/
abbrev Variables := List (Text × Text)

/-- What a running program has to render with. -/
structure Host where
  console : Logging.Console
  environment : Variables
  /-- Adds the variables of their file to the environment, and may raise something.  Without a file
  nothing is added. -/
  supply : Variables → Except Config.LoadFault Unit × Variables :=
    fun known => (.ok (), known)
  tree : File.Tree
  /-- The present time, as it is written in the logs. -/
  now : Text
  context : Option Context

/-- Why a context cannot be installed from a configuration file. -/
inductive StartFault where
  | logging (fault : Logging.LevelFault)
  | config (fault : Config.LoadFault)
deriving DecidableEq, Repr

/-- The wording for a host without a context. -/
def Context.missingMessage : Text := "AppContext not initialized"

namespace Host

/-- The host of a program that begins. -/
def start (environment : Variables) (tree : File.Tree) (now : Text) : Host where
  console := .initial
  environment := environment
  tree := tree
  now := now
  context := none

/-! ## The environment -/

/-- The value of a variable. -/
def lookUp (h : Host) (name : Text) : Option Text := h.environment.lookup name

/-- Gives a variable a value. -/
def setVariable (name value : Text) (h : Host) : Host :=
  { h with environment := (name, value) :: h.environment.filter fun (n, _) => n ≠ name }

/-- Loads the file of variables. -/
def loadVariables (h : Host) : Except Config.LoadFault Unit × Host :=
  let (result, environment) := h.supply h.environment
  (result, { h with environment := environment })

@[simp]
theorem loadVariables_console (h : Host) : h.loadVariables.2.console = h.console := rfl

@[simp]
theorem loadVariables_tree (h : Host) : h.loadVariables.2.tree = h.tree := rfl

@[simp]
theorem loadVariables_now (h : Host) : h.loadVariables.2.now = h.now := rfl

@[simp]
theorem loadVariables_context (h : Host) : h.loadVariables.2.context = h.context := rfl

/-- Sets up the console. -/
def setUpLogging (asked : Option Text) (json : Option Bool) (h : Host) :
    Except Logging.LevelFault Unit × Host :=
  let (result, console) := h.console.setUp asked (h.lookUp "LOG_LEVEL") json
  (result, { h with console := console })

/-- A console that is set up is left alone. -/
theorem setUpLogging_of_ready (asked : Option Text) (json : Option Bool) {h : Host}
    (hready : h.console.ready = true) : h.setUpLogging asked json = (.ok (), h) := by
  rw [setUpLogging, Logging.Console.setUp_of_ready _ _ _ hready]

/-! ## The context -/

/-- Drops the context. -/
def drop (h : Host) : Host := { h with context := none }

/-- The variables do not depend on the context. -/
@[simp]
theorem loadVariables_drop (h : Host) :
    h.drop.loadVariables = (h.loadVariables.1, h.loadVariables.2.drop) := rfl

/-- Installs a context, unless there is one. -/
def install (path : File.Path) (config : Config) (h : Host) : Context × Host :=
  match h.context with
  | some context => (context, h)
  | none =>
    let context := Context.ofConfig path config
    (context, { h with context := some context })

/-- The path of the configuration file: the given one, or the one of the environment, or the usual
one. -/
def configPath (h : Host) (given : Option File.Path) : File.Path :=
  given.getD (.ofText ((h.lookUp "MIZUI_CONFIG").getD "mizui.yaml"))

/-- Installs the context of the configuration file, unless there is one, with the variables that are
there. -/
def installLoaded (given : Option File.Path) (h : Host) : Except StartFault Context × Host :=
  match h.setUpLogging none none with
  | (.error fault, h) => (.error (.logging fault), h)
  | (.ok (), h) =>
    let path := h.configPath given
    match Config.load h.tree path with
    | .error fault => (.error (.config fault), h)
    | .ok config =>
      let (context, h) := h.install path config
      (.ok context, h)

/-- Where the console can be set up and the file can be loaded, a host without a context gets that
of the file. -/
theorem installLoaded_of_load {given : Option File.Path} {h h' : Host} {c : Config}
    (hlogging : h.setUpLogging none none = (.ok (), h')) (hnone : h'.context = none)
    (hload : Config.load h'.tree (h'.configPath given) = .ok c) :
    let context := Context.ofConfig (h'.configPath given) c
    h.installLoaded given = (.ok context, { h' with context := some context }) := by
  simp only [installLoaded, hlogging, hload, install, hnone]

theorem installLoaded_of_load_error {given : Option File.Path} {h h' : Host}
    {fault : Config.LoadFault} (hlogging : h.setUpLogging none none = (.ok (), h'))
    (hload : Config.load h'.tree (h'.configPath given) = .error fault) :
    h.installLoaded given = (.error (.config fault), h') := by
  simp only [installLoaded, hlogging, hload]

/-- Installs the context of the configuration file, unless there is one.  The variables are loaded
first, which may change where the file is. -/
def installFile (given : Option File.Path) (h : Host) : Except StartFault Context × Host :=
  match h.loadVariables with
  | (.error fault, h) => (.error (.config fault), h)
  | (.ok (), h) => h.installLoaded given

theorem installFile_of_loadVariables {h : Host} (hvariables : h.loadVariables.1 = .ok ())
    (given : Option File.Path) :
    h.installFile given = h.loadVariables.2.installLoaded given := by
  have hloaded : h.loadVariables = (.ok (), h.loadVariables.2) := Prod.ext hvariables rfl
  rw [installFile, hloaded]

theorem installFile_of_loadVariables_error {h : Host} {fault : Config.LoadFault}
    (hvariables : h.loadVariables.1 = .error fault) (given : Option File.Path) :
    h.installFile given = (.error (.config fault), h.loadVariables.2) := by
  have hraised : h.loadVariables = (.error fault, h.loadVariables.2) := Prod.ext hvariables rfl
  rw [installFile, hraised]

/-- The context, which is installed from the configuration file when there is none.  By force it is
dropped first. -/
def bootstrap (force : Bool) (given : Option File.Path) (h : Host) :
    Except StartFault Context × Host :=
  if force then h.drop.installFile given
  else match h.context with
    | some context => (.ok context, h)
    | none => h.installFile given

/-! ## Rendering -/

/-- The level of the record for a message. -/
def levelOf : Render.Severity → Int
  | .debug => 10
  | .error => 40

/-- The console after the messages for the operator. -/
def tell (messages : List Render.Message) (c : Logging.Console) : Logging.Console :=
  messages.foldl (fun c m => c.receive ⟨levelOf m.severity, m.source, m.text⟩) c

/-- Performs an action in a context, which keeps the cache. -/
def perform {α : Type} (action : Render.Action α) (context : Context) (h : Host) :
    Except Render.Failure α × Host :=
  let (result, s) :=
    action { Render.Session.start context.config h.tree h.now with cache := context.cache }
  (result, { h with
    console := tell s.messages h.console
    tree := s.tree
    context := some { context with cache := s.cache } })

/-- Renders a template in the context, which is installed when there is none. -/
def render (identifier : Text) (data : Data) (h : Host) :
    Except StartFault (Except Render.Failure Render.Result) × Host :=
  match h.bootstrap false none with
  | (.error fault, h) => (.error fault, h)
  | (.ok context, h) =>
    let (result, h) := h.perform (Render.render identifier data) context
    (.ok result, h)

end Host
end Stencil
