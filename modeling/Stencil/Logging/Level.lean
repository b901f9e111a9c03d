import Stencil.Text.Quoted

/-!
# Levels of log records

A level is a whole number; the usual ones have names.  The level from which on records are written
is asked for by a name in letters of either case, and a name that is unknown asks for the usual
level.  Two further names stand for something that is no level, and asking for them is a fault.
-/

namespace Stencil.Logging

/-- The levels that have names.  Of two names of one level the first one is written. -/
def namedLevels : List (Text × Nat) :=
  [("CRITICAL", 50), ("FATAL", 50), ("ERROR", 40), ("WARNING", 30), ("WARN", 30), ("INFO", 20),
    ("DEBUG", 10), ("NOTSET", 0)]

/-- How a level is written. -/
def levelName (level : Int) : Text :=
  match namedLevels.find? fun (_, n) => (n : Int) = level with
  | some (name, _) => name
  | none => "Level " ++ Nat.toDigits 10 level.toNat

/-- Why a name asks for no level. -/
inductive LevelFault where
  /-- The name stands for the standard layout of a line. -/
  | layout
  /-- The name stands for the table of layouts. -/
  | layoutTable
deriving DecidableEq, Repr

/-- The fields of a line in the standard layout, in which `field` marks them. -/
def standardLayout (field : Text → Text) : Text :=
  Text.join ":" ([("levelname" : Text), "name", "message"].map field)

/-- A field marked by a percent sign. -/
def percentField (name : Text) : Text := "%(" ++ name ++ ")s"

/-- A field in curly brackets. -/
def bracketField (name : Text) : Text := '\x7b' :: name ++ ['\x7d']

/-- A field marked by a dollar sign. -/
def dollarField (name : Text) : Text := '$' :: bracketField name

/-- The table of layouts: for each mark of a field, its kind and the standard layout in it. -/
def layoutTable : Text :=
  let row (mark : Char) (kind : Text) (field : Text → Text) : Text :=
    Text.quoted [mark] ++ ": (<class 'logging." ++ kind ++ "'>, "
      ++ Text.quoted (standardLayout field) ++ ")"
  bracketField (Text.join ", "
    [row '%' "PercentStyle" percentField, row '\x7b' "StrFormatStyle" bracketField,
      row '$' "StringTemplateStyle" dollarField])

/-- The wording of a fault. -/
def LevelFault.message : LevelFault → Text
  | .layout => "Unknown level: " ++ Text.quoted (standardLayout percentField)
  | .layoutTable => "Level not an integer or a valid string: " ++ Logging.layoutTable

/-- The capital of a letter, for the letters whose capitals stand in the names of levels. -/
def capital (c : Char) : Text :=
  if c = 'ı' then "I" else if c = 'ſ' then "S" else if c = 'ﬅ' || c = 'ﬆ' then "ST" else [c.toUpper]

/-- The level that a name asks for. -/
def readLevel (name : Text) : Except LevelFault Nat :=
  let name := name.flatMap capital
  if name = "BASIC_FORMAT".toList then .error .layout
  else if name = "_STYLES".toList then .error .layoutTable
  else .ok ((namedLevels.lookup name).getD 20)

/-- The name that is asked for: the first of two that is not empty, or the usual one. -/
def requestedName (asked environment : Option Text) : Text :=
  ((asked.filter (· ≠ [])).or (environment.filter (· ≠ []))).getD "INFO"

example : levelName 25 = "Level 25".toList := by decide

example : readLevel "Warn".toList = .ok 30 := by rfl

end Stencil.Logging
