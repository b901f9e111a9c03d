import Stencil.Value.Exception

/-!
# Errors of templates

Every stage of rendering has errors of its own.  An error keeps its cause; the wording, the kind and
the identifier of the template concerned are functions of it.
-/

namespace Stencil.Template

/-- The kinds of errors, one for each stage that can fail. -/
inductive ErrorKind where
  | templateNotFound
  | componentNotFound
  | recursionTooDeep
  | unbalanced
  | interpolation
  | compilation
  | invocation
deriving DecidableEq, Repr

/-- The name under which a kind of error is reported. -/
def ErrorKind.name : ErrorKind → Text
  | .templateNotFound => "template_not_found"
  | .componentNotFound => "component_not_found"
  | .recursionTooDeep => "recursion_too_deep"
  | .unbalanced => "syntax"
  | .interpolation => "interpolation"
  | .compilation => "compilation"
  | .invocation => "render_invocation"

/-- How the delimiters of a line fail to balance. -/
inductive Imbalance where
  /-- There are more opening delimiters. -/
  | missing (closing : Text)
  /-- There are more closing delimiters. -/
  | unexpected (closing opening : Text)
deriving DecidableEq, Repr

/-- The wording of an imbalance. -/
def Imbalance.wording : Imbalance → Text
  | .missing closing => "Missing '" ++ closing ++ "'"
  | .unexpected closing opening => "Unexpected '" ++ closing ++ "' without '" ++ opening ++ "'"

/-- An error of a template. -/
inductive Error where
  /-- The template is no regular file. -/
  | templateNotFound (identifier : Text)
  /-- A component that a template names is no regular file. -/
  | componentNotFound (path identifier : Text)
  /-- A component marker stands deeper than components may be nested. -/
  | recursionTooDeep (identifier : Text)
  /-- The delimiters of a line, counted from one, do not balance. -/
  | unbalanced (identifier : Text) (line : Nat) (imbalance : Imbalance)
  /-- A placeholder holds no expression; the marker is given as written. -/
  | emptyPlaceholder (raw identifier : Text)
  /-- The expression of a placeholder is no dotted path. -/
  | notAPath (expression identifier : Text)
  /-- The data raised an exception; it is given as reported. -/
  | invocation (report identifier : Text)
  /-- The data raised an exception that cannot be reported: asking for its text raised this one,
  which nothing catches and no result holds.  Its kind only names the stage. -/
  | unreported (raised : Raised) (identifier : Text)
deriving DecidableEq, Repr

namespace Error

/-- The kind of an error. -/
def kind : Error → ErrorKind
  | templateNotFound .. => .templateNotFound
  | componentNotFound .. => .componentNotFound
  | recursionTooDeep .. => .recursionTooDeep
  | unbalanced .. => .unbalanced
  | emptyPlaceholder .. => .interpolation
  | notAPath .. => .compilation
  | invocation .. => .invocation
  | unreported .. => .invocation

/-- The identifier of the template that an error is about. -/
def identifier : Error → Text
  | templateNotFound identifier => identifier
  | componentNotFound _ identifier => identifier
  | recursionTooDeep identifier => identifier
  | unbalanced identifier _ _ => identifier
  | emptyPlaceholder _ identifier => identifier
  | notAPath _ identifier => identifier
  | invocation _ identifier => identifier
  | unreported _ identifier => identifier

/-- The wording of an error. -/
def message : Error → Text
  | templateNotFound identifier => "Template file not found: " ++ identifier
  | componentNotFound path _ => "Component not found: " ++ path
  | recursionTooDeep identifier => "Infinite recursion detected in " ++ identifier
  | unbalanced identifier line imbalance =>
    "Syntax Error in " ++ identifier ++ " at Line " ++ Nat.toDigits 10 line ++ ": "
      ++ imbalance.wording
  | emptyPlaceholder raw identifier =>
    "Empty placeholder " ++ Text.quoted raw ++ " in " ++ identifier
  | notAPath expression identifier =>
    "Compilation error in " ++ identifier ++ ": " ++ Text.quoted expression
      ++ " is not a dotted property path"
  | invocation report _ => report
  | unreported raised _ => raised.message

end Error
end Stencil.Template
