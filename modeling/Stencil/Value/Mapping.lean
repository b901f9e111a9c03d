import Stencil.Value.Basic

/-!
# Mappings

The entries of a mapping keep the order in which their keys first came.  Numbers are one key
whenever they are equal, so that 1, 1.0 and true name the same entry; writing under a key that is
there changes the value and keeps the key as it was first written.
-/

namespace Stencil

namespace Value

/-- The whole number that a value equals as a key. -/
def whole? : Value → Option Int
  | bool b => some (if b then 1 else 0)
  | int n => some n
  | float x => x.toInt?
  | _ => none

mutual

/-- Whether two values are the same key. -/
def sameKey : Value → Value → Bool
  | tuple xs, tuple ys => sameKeys xs ys
  | null, null => true
  | text a, text b => a = b
  | bytes a, bytes b => a = b
  | date a, date b => a = b
  | moment a, moment b => a.same b
  | duration a, duration b => a = b
  | zone a, zone b => a = b
  | float x, float y => x.numericallyEqual y
  | a, b => match a.whole?, b.whole? with
    | some m, some n => m = n
    | _, _ => false

/-- Whether two sequences are the same key: element by element. -/
def sameKeys : List Value → List Value → Bool
  | [], [] => true
  | x :: xs, y :: ys => sameKey x y && sameKeys xs ys
  | _, _ => false

end

/-- Whether a value is the given text. -/
def isText (t : Text) : Value → Bool
  | text u => u = t
  | _ => false

end Value

/-- The entries of a mapping, in the order in which their keys first came. -/
abbrev Entries := List (Value × Value)

namespace Entries

/-- The value under a text key. -/
def find? (key : Text) : Entries → Option Value
  | [] => none
  | (k, v) :: rest => if k.isText key then some v else find? key rest

/-- Writes a value under a key: in its place when the key is there, otherwise at the end. -/
def put (key value : Value) : Entries → Entries
  | [] => [(key, value)]
  | (k, v) :: rest => if k.sameKey key then (k, value) :: rest else (k, v) :: put key value rest

/-- The mapping that comes from writing entries one after the other. -/
def ofPairs (pairs : List (Value × Value)) : Entries :=
  pairs.foldl (fun entries (key, value) => put key value entries) []

@[simp]
theorem find?_nil (key : Text) : find? key [] = none := rfl

theorem isText_iff (t : Text) (v : Value) : v.isText t = true ↔ v = .text t := by
  cases v <;> simp [Value.isText]

@[simp]
theorem sameKey_text (v : Value) (t : Text) : v.sameKey (.text t) = v.isText t := by
  cases v <;> simp [Value.sameKey, Value.isText, Value.whole?]

/-- What was written under a text key is found there. -/
@[simp]
theorem find?_put_same (key : Text) (value : Value) (entries : Entries) :
    find? key (put (.text key) value entries) = some value := by
  induction entries with
  | nil => simp [put, find?, Value.isText]
  | cons e rest ih =>
    obtain ⟨k, v⟩ := e
    by_cases h : k.isText key <;> simp [put, find?, h, ih]

/-- Writing under one text key leaves the others alone. -/
theorem find?_put_of_ne {key other : Text} (h : other ≠ key) (value : Value) (entries : Entries) :
    find? other (put (.text key) value entries) = find? other entries := by
  induction entries with
  | nil => simp [put, find?, Value.isText, h.symm]
  | cons e rest ih =>
    obtain ⟨k, v⟩ := e
    by_cases hk : k.isText key
    · have hk' := (isText_iff key k).1 hk
      subst hk'
      simp [put, find?, Value.isText, h.symm]
    · by_cases ho : k.isText other <;> simp [put, find?, hk, ho, ih]

end Entries
end Stencil
