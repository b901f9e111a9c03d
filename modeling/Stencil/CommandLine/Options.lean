import Stencil.File.Path
import Stencil.Text.Quoted
import Stencil.Text.Similar

/-!
# Commands and options

The arguments of the program are options of its own, the name of a command, and the options and
arguments of the command.  An option that takes a value has it behind an equals sign or in the next
argument; two dashes alone end the options.
-/

namespace Stencil.CommandLine

/-- How the arguments fail to make a command. -/
inductive UsageFault where
  | noCommand
  /-- There is no such command. -/
  | unknownCommand (name : Text)
  /-- There is no such option. -/
  | unknownOption (name : Text)
  /-- An option lacks its value. -/
  | noValue (option : Text)
  /-- An option has a value that it does not take. -/
  | needlessValue (option : Text)
  | noTemplate
  /-- There are more arguments than the command takes. -/
  | surplus (arguments : List Text)
  /-- A path holds the character zero, which no path can. -/
  | zeroCharacter
  /-- A fault in place of a command, while there are commands with similar names. -/
  | similar (fault : UsageFault) (names : List Text)
deriving DecidableEq, Repr

/-- The wording of a fault. -/
def UsageFault.message : UsageFault → Text
  | .noCommand => "Missing command."
  | .unknownCommand name => "No such command " ++ Text.quoted name ++ "."
  | .unknownOption name => "No such option: " ++ Text.visible name
  | .noValue option => "Option '" ++ option ++ "' requires an argument."
  | .needlessValue option => "Option '" ++ option ++ "' does not take a value."
  | .noTemplate => "Missing parameter: template"
  | .surplus arguments =>
    "Got unexpected extra argument(s) (" ++ Text.join " " arguments ++ ")"
  | .zeroCharacter => "embedded null byte"
  | .similar fault names =>
    Text.trimEnd (· = '.') fault.message ++ ". Did you mean "
      ++ Text.join ", " (names.map Text.quoted) ++ "?"

/-! ## Splitting arguments -/

/-- The options that are understood somewhere, and whether each takes a value. -/
structure Grammar where
  options : List (Text × Bool)
  /-- Whether options may stand behind other arguments. -/
  mixed : Bool

/-- Arguments split into options with their values, in order, and all others. -/
structure Split where
  options : List (Text × Text)
  others : List Text
deriving DecidableEq, Repr

namespace Split

/-- Adds an option in front. -/
def addOption (name value : Text) (s : Split) : Split :=
  { s with options := (name, value) :: s.options }

/-- Adds another argument in front. -/
def addOther (argument : Text) (s : Split) : Split := { s with others := argument :: s.others }

/-- Whether an option is given. -/
def has (s : Split) (name : Text) : Bool := s.options.any fun (n, _) => n = name

/-- All values of an option. -/
def values (s : Split) (name : Text) : List Text :=
  s.options.filterMap fun (n, value) => if n = name then some value else none

/-- The value of an option, the last one of several. -/
def value? (s : Split) (name : Text) : Option Text := (s.values name).getLast?

end Split

/-- Whether an argument is meant as an option. -/
def isOption (argument : Text) : Bool := Text.startsWith ['-'] argument && argument ≠ ['-']

/-- The name of an option and the value behind an equals sign. -/
def splitOption (argument : Text) : Text × Option Text :=
  match Text.cut ['='] argument with
  | none => (argument, none)
  | some (name, value) => (name, some value)

/-- The name of an option that is not understood.  Behind a single dash every letter is an option.
-/
def unknownName (argument : Text) : Text :=
  if Text.startsWith ['-', '-'] argument then (splitOption argument).1 else argument.take 2

/-- A fault, and the arguments after the one that is at fault. -/
abbrev Refusal := UsageFault × List Text

/-- Splits arguments. -/
def split (g : Grammar) : List Text → Except Refusal Split
  | [] => .ok ⟨[], []⟩
  | argument :: rest =>
    if argument = ['-', '-'] then .ok ⟨[], rest⟩
    else if isOption argument then
      let (name, given) := splitOption argument
      match g.options.lookup name, given, rest with
      | none, _, _ => .error (.unknownOption (unknownName argument), rest)
      | some false, some _, _ => .error (.needlessValue name, rest)
      | some false, none, rest => (split g rest).map (Split.addOption name [])
      | some true, some value, rest => (split g rest).map (Split.addOption name value)
      | some true, none, [] => .error (.noValue name, [])
      | some true, none, value :: rest => (split g rest).map (Split.addOption name value)
    else if g.mixed then (split g rest).map (Split.addOther argument)
    else .ok ⟨[], argument :: rest⟩

/-! ## Commands -/

/-- The commands. -/
inductive Verb where
  | render
  | check
deriving DecidableEq, Repr

/-- The name of a command. -/
def Verb.name : Verb → Text
  | .render => "render"
  | .check => "check"

/-- The options before the name of a command. -/
def programGrammar : Grammar := ⟨[("--json-logs", false), ("--help", false)], false⟩

/-- The options of a command. -/
def Verb.grammar : Verb → Grammar
  | .render => ⟨[("--data", true), ("--set", true), ("--config", true), ("--help", false)], true⟩
  | .check => ⟨[("--config", true), ("--help", false)], true⟩

/-- The program as it is called: with lines of JSON for log records or not, and with a command and
its arguments. -/
structure Call where
  jsonLogs : Bool
  verb : Verb
  arguments : List Text
deriving DecidableEq, Repr

/-- A command with all that it needs. -/
inductive Command where
  | render (template : File.Path) (data : Option File.Path) (settings : List Text)
      (config : Option File.Path)
  | check (template : File.Path) (config : Option File.Path)
deriving DecidableEq, Repr

/-- What is asked for, which may be help. -/
inductive Request (α : Type) where
  | help
  | some (what : α)
deriving DecidableEq, Repr

/-- The command of a name. -/
def verb? (name : Text) : Option Verb := [Verb.render, .check].find? fun v => v.name = name

/-- A fault in place of a command, with the commands whose names are like the next argument. -/
def withSimilar (fault : UsageFault) (arguments : List Text) : UsageFault :=
  match Text.similarWords [Verb.render.name, Verb.check.name] (arguments.headD []) with
  | [] => fault
  | names => .similar fault names

/-- What a name that is no command asks for.  When it looks like an option it is taken for one. -/
def readUnknown (name : Text) (rest : List Text) : Except UsageFault (Request Call) :=
  match split programGrammar (name :: rest) with
  | .error (fault, rest) => .error (withSimilar fault rest)
  | .ok s =>
    if s.has "--help" then .ok .help
    else .error (withSimilar (.unknownCommand name) s.others)

/-- Reads the arguments of the program up to the name of a command. -/
def readCall (arguments : List Text) : Except UsageFault (Request Call) := do
  let s ← (split programGrammar arguments).mapError Prod.fst
  if s.has "--help" then return .help
  match s.others with
  | [] => throw .noCommand
  | name :: rest => match verb? name with
    | none => readUnknown name rest
    | some verb => return .some ⟨s.has "--json-logs", verb, rest⟩

/-- The command that the options and arguments make, once they are known to be paths. -/
def Verb.command (verb : Verb) (s : Split) (template : Text) : Command :=
  let config := (s.value? "--config").map File.Path.ofText
  match verb with
  | .render =>
    .render (.ofText template) ((s.value? "--data").map File.Path.ofText) (s.values "--set") config
  | .check => .check (.ofText template) config

/-- Reads the arguments of a command. -/
def readCommand (verb : Verb) (arguments : List Text) : Except UsageFault (Request Command) := do
  let s ← (split verb.grammar arguments).mapError Prod.fst
  if s.has "--help" then return .help
  let paths := (s.value? "--data").toList ++ (s.value? "--config").toList ++ s.others.take 1
  if paths.any fun path => path.contains '\x00' then throw .zeroCharacter
  match s.others with
  | [] => throw .noTemplate
  | [template] => return .some (verb.command s template)
  | _ :: surplus => throw (.surplus surplus)

end Stencil.CommandLine
