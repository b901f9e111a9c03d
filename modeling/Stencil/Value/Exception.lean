import Stencil.Calendar

/-!
# Exceptions

Looking at data may raise an exception, and so may a number that cannot be converted.  An exception
has a kind and a text.  The text of an exception that comes from an object is made when it is asked
for, and that may raise another exception.
-/

namespace Stencil

/-- A kind of exceptions. -/
structure ExceptionKind where
  name : Text
  /-- Whether such an exception says that an object has no such attribute.  Kinds that are derived
  from the one that says so say it too. -/
  isMissing : Bool
deriving DecidableEq, Repr, Inhabited

/-- The kind of a name, which is not derived from another one. -/
def ExceptionKind.ofName (name : Text) : ExceptionKind := ⟨name, name = "AttributeError".toList⟩

instance : Coe Text ExceptionKind := ⟨.ofName⟩

mutual

/-- An exception that is raised by looking at data, or by a number that cannot be converted. -/
inductive Raised where
  | mk (sort : ExceptionKind) (saying : Saying)

/-- What an exception says about itself. -/
inductive Saying where
  | text (t : Text)
  /-- It has no text: asking for it raises this exception. -/
  | raising (raised : Raised)

end

deriving instance DecidableEq for Raised, Saying
deriving instance Repr for Raised, Saying

instance : Coe Text Saying := ⟨.text⟩

instance : Inhabited Raised := ⟨⟨default, .text []⟩⟩

namespace Raised

/-- The name of the kind of an exception. -/
def kind : Raised → Text
  | mk sort _ => sort.name

/-- Whether an exception says that an object has no such attribute. -/
def isMissing : Raised → Bool
  | mk sort _ => sort.isMissing

/-- The exception that is raised when the text of an exception is asked for, if one is. -/
def inner? : Raised → Option Raised
  | mk _ (.text _) => none
  | mk _ (.raising raised) => some raised

/-- The text of an exception, or the words that stand for it when there is none.  A missing key is
shown in quotes. -/
def message : Raised → Text
  | mk sort (.text t) => if sort.name = "KeyError".toList then Text.quoted t else t
  | mk _ (.raising _) => "<exception str() failed>"

/-- The kind of an exception, with its text. -/
def report (r : Raised) : Text := r.kind ++ ": " ++ r.message

/-- The exception of a number that cannot be converted. -/
def ofInteger (fault : Number.IntegerFault) : Raised := ⟨"ValueError", fault.message⟩

/-- The exception of a date that does not exist. -/
def ofCalendar (fault : Calendar.Fault) : Raised := ⟨"ValueError", fault.message⟩

end Raised
end Stencil
