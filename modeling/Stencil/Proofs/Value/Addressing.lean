import Mathlib.Data.List.TakeWhile
import Stencil.Proofs.Value.JsonData
import Stencil.Value.Lookup

/-!
# Addressing in JSON data

A path leads into JSON data one part at a time: to the entry of a mapping, the item of a list or
the attribute of a number.  Following it finds what it addresses, and nothing is found as null.
There is one exception.  In a list, a part of digits is read as a number, but some digits have no
decimal value, and numbers can be too long; over such a part a path stumbles.

Main results:

- Definitions `index?`, `child?` and `descend?`: what parts and paths address.
- Definitions `Misread` and `StumblesOver`: digits that are no index, in a list.
- Theorem `resolve_of_not_stumblesOver`: a path that does not stumble finds what it addresses.
- Theorem `resolve_of_stumblesOver`: a path that stumbles raises the fault of its digits.
-/

namespace Stencil
namespace Value

variable {v w : Value} {part : Text} {path : List Text} {pool : Pool}

/-! ## What a part addresses -/

/-- The index that a part of a path spells: decimal digits of any script, and no more of them than
can be read. -/
def index? (part : Text) : Option Nat :=
  if part ≠ [] ∧ part.all Text.isDecimal = true ∧ part.length ≤ Number.digitLimit then
    some (Number.ofDigits 10 (part.filterMap Text.decimalValue?))
  else none

/-- A part of digits that spells no index. -/
def Misread (part : Text) : Prop :=
  part ≠ [] ∧ part.all Text.isDigit = true ∧ index? part = none

instance (part : Text) : Decidable (Misread part) :=
  inferInstanceAs (Decidable (_ ∧ _ ∧ _))

/-- The element of JSON data that a part of a path addresses.  The methods of scalars are not
looked up. -/
def child? : Value → Text → Option Value
  | mapping entries, part => Entries.find? part entries
  | list items, part => (index? part).bind fun n => items[n]?
  | bool b, part => integerAttribute (if b then 1 else 0) part
  | int n, part => integerAttribute n part
  | float x, part => floatAttribute x part
  | _, _ => none

/-- What a path addresses in JSON data. -/
def descend? (v : Value) (path : List Text) : Option Value := path.foldlM child? v

@[simp]
theorem descend?_nil (v : Value) : v.descend? [] = some v := rfl

@[simp]
theorem descend?_cons (v : Value) (part : Text) (path : List Text) :
    v.descend? (part :: path) = (v.child? part).bind (·.descend? path) := rfl

/-- A path stumbles over a part that is misread, in a list that the parts in front of it
address. -/
def StumblesOver (v : Value) (path : List Text) (part : Text) : Prop :=
  ∃ front back items, path = front ++ part :: back ∧ v.descend? front = some (.list items) ∧
    Misread part

/-! ## Indices -/

/-- The indices are the numerals that can be read. -/
theorem readNatural_eq_ok_iff {n : Nat} :
    Number.readNatural part = .ok n ↔ index? part = some n := by
  have hall : (part.takeWhile Text.isDecimal).length = part.length ↔
      part.all Text.isDecimal = true := by
    rw [List.all_eq_true, ← List.takeWhile_eq_self_iff]
    constructor
    · intro hlength
      exact (List.takeWhile_prefix Text.isDecimal).eq_of_length hlength
    · intro hwhole
      rw [hwhole]
  have hshort : (part.takeWhile Text.isDecimal).length ≤ part.length :=
    (List.takeWhile_prefix Text.isDecimal).length_le
  unfold Number.readNatural index?
  by_cases hdecimal : part.all Text.isDecimal = true
  · have hlength := hall.2 hdecimal
    by_cases hlong : part.length ≤ Number.digitLimit
    · by_cases hempty : part = [] <;> simp [hlength, hdecimal, hlong, hempty, hlong.not_gt]
    · simp [hlength, hdecimal, hlong, Nat.lt_of_not_le hlong]
  · have hlength : (part.takeWhile Text.isDecimal).length ≠ part.length := by
      intro heq
      exact hdecimal (hall.1 heq)
    simp only [hlength, hdecimal]
    split <;> simp

theorem exists_readNatural_eq_error (h : index? part = none) :
    ∃ fault, Number.readNatural part = .error fault := by
  cases hread : Number.readNatural part with
  | error fault => exact ⟨fault, rfl⟩
  | ok n =>
      rw [readNatural_eq_ok_iff.1 hread] at h
      cases h

/-- An index consists of digits. -/
theorem isDigit_of_index? {n : Nat} (h : index? part = some n) :
    part ≠ [] ∧ part.all Text.isDigit = true := by
  unfold index? at h
  split at h
  · rename_i hindex
    refine ⟨hindex.1, ?_⟩
    have hdecimal := List.all_eq_true.1 hindex.2.1
    rw [List.all_eq_true]
    intro c hc
    simp [Text.isDigit, hdecimal c hc]
  · cases h

/-! ## One step -/

/-- Digits are read where they stand in a list. -/
theorem element_of_digits (items : List Value) (hne : part ≠ [])
    (hdigits : part.all Text.isDigit = true) :
    element items part = match Number.readNatural part with
      | .ok n => .ok items[n]?
      | .error fault => .error (Raised.ofInteger fault) := by
  have hcondition : ¬ (part.isEmpty || !part.all Text.isDigit) = true := by simp [hne, hdigits]
  unfold element
  exact if_neg hcondition

/-- In a list, a part that is not misread leads to the item of its index. -/
theorem element_of_not_misread (items : List Value) (h : ¬ Misread part) :
    element items part = .ok ((index? part).bind fun n => items[n]?) := by
  cases hindex : index? part with
  | some n =>
      rcases isDigit_of_index? hindex with ⟨hne, hdigits⟩
      rw [element_of_digits items hne hdigits, readNatural_eq_ok_iff.2 hindex]
      rfl
  | none =>
      have hcondition : (part.isEmpty || !part.all Text.isDigit) = true := by
        by_contra hdigits
        apply h
        simp only [Bool.or_eq_true, Bool.not_eq_true', not_or, Bool.not_eq_false] at hdigits
        exact ⟨by simpa using hdigits.1, hdigits.2, hindex⟩
      unfold element
      exact if_pos hcondition

/-- In a list, a part that is misread raises the fault of its digits. -/
theorem element_of_misread (items : List Value) (h : Misread part) :
    ∃ fault, Number.readNatural part = .error fault ∧
      element items part = .error (Raised.ofInteger fault) := by
  rcases h with ⟨hne, hdigits, hindex⟩
  rcases exists_readNatural_eq_error hindex with ⟨fault, hfault⟩
  refine ⟨fault, hfault, ?_⟩
  rw [element_of_digits items hne hdigits, hfault]

/-- The attributes of numbers are public. -/
theorem ne_of_private {name : Text} (h : Text.startsWith ['_'] part = true)
    (hname : Text.startsWith ['_'] name = false) : part ≠ name := by
  intro heq
  rw [heq, hname] at h
  cases h

theorem integerAttribute_of_private (n : Int) (h : Text.startsWith ['_'] part = true) :
    integerAttribute n part = none := by
  have hreal : part ≠ "real".toList := ne_of_private h (by decide)
  have hnumerator : part ≠ "numerator".toList := ne_of_private h (by decide)
  have himag : part ≠ "imag".toList := ne_of_private h (by decide)
  have hdenominator : part ≠ "denominator".toList := ne_of_private h (by decide)
  have hself : ¬ (decide (part = "real".toList) || decide (part = "numerator".toList)) = true := by
    rw [decide_eq_false hreal, decide_eq_false hnumerator]
    decide
  rw [integerAttribute, if_neg hself, if_neg himag, if_neg hdenominator]

theorem floatAttribute_of_private (x : Number.Binary64) (h : Text.startsWith ['_'] part = true) :
    floatAttribute x part = none := by
  have hreal : part ≠ "real".toList := ne_of_private h (by decide)
  have himag : part ≠ "imag".toList := ne_of_private h (by decide)
  rw [floatAttribute, if_neg hreal, if_neg himag]

/-- One part leads to what it addresses, unless it is misread in a list. -/
theorem step_eq_child? (hv : v.IsJson) (h : Misread part → ∀ items, v ≠ .list items) :
    v.step pool part = .ok (v.child? part) := by
  have hscalar : ∀ found : Option Value,
      (Text.startsWith ['_'] part = true → found = none) →
        (if Text.startsWith ['_'] part then Except.ok none else .ok found) =
          (Except.ok found : Except Raised (Option Value)) := by
    intro found hprivate
    split
    · rename_i hstart
      rw [hprivate hstart]
    · rfl
  cases hv with
  | null => exact hscalar none (fun _ => rfl)
  | bool b => exact hscalar _ (integerAttribute_of_private _)
  | int hword => exact hscalar _ (integerAttribute_of_private _)
  | float hfinite => exact hscalar _ (floatAttribute_of_private _)
  | text t => exact hscalar none (fun _ => rfl)
  | list hitems =>
      apply element_of_not_misread
      intro hmisread
      exact h hmisread _ rfl
  | mapping hkeys hvalues => rfl

theorem isJson_integerAttribute {n : Int} (hn : Json.isWord n = true)
    (h : integerAttribute n part = some w) : w.IsJson := by
  unfold integerAttribute at h
  split at h
  · cases h
    exact .int hn
  · split at h
    · cases h
      exact .int (by decide)
    · split at h
      · cases h
        exact .int (by decide)
      · cases h

theorem isJson_floatAttribute {x : Number.Binary64} (hx : x.isFinite = true)
    (h : floatAttribute x part = some w) : w.IsJson := by
  unfold floatAttribute at h
  split at h
  · cases h
    exact .float hx
  · split at h
    · cases h
      exact .float rfl
    · cases h

theorem mem_of_find? {entries : Entries} (h : Entries.find? part entries = some w) :
    ∃ e ∈ entries, e.2 = w := by
  induction entries with
  | nil => cases h
  | cons e entries ih =>
      rcases e with ⟨key, value⟩
      rw [Entries.find?] at h
      split at h
      · cases h
        exact ⟨(key, _), List.mem_cons_self, rfl⟩
      · rcases ih h with ⟨e, he, hvalue⟩
        exact ⟨e, List.mem_cons_of_mem _ he, hvalue⟩

/-- What is addressed in JSON data is JSON data. -/
theorem isJson_of_child? (hv : v.IsJson) (h : v.child? part = some w) : w.IsJson := by
  cases hv with
  | null => cases h
  | bool b =>
      have hword : Json.isWord (if b then 1 else 0) = true := by cases b <;> decide
      exact isJson_integerAttribute hword h
  | int hword => exact isJson_integerAttribute hword h
  | float hfinite => exact isJson_floatAttribute hfinite h
  | text t => cases h
  | list hitems =>
      rcases Option.bind_eq_some_iff.1 h with ⟨n, -, hitem⟩
      exact hitems w (List.mem_of_getElem? hitem)
  | mapping hkeys hvalues =>
      rcases mem_of_find? h with ⟨e, he, rfl⟩
      exact hvalues e he

/-! ## Paths -/

/-- Looking up starts at every value but null. -/
theorem resolve_cons (hv : v ≠ .null) (part : Text) (path : List Text) :
    v.resolve pool (part :: path) = match v.step pool part with
      | .error raised => .error raised
      | .ok none => .ok .null
      | .ok (some w) => w.resolve pool path := by
  cases v with
  | null => exact absurd rfl hv
  | _ => rfl

/-- A path is followed part by part. -/
theorem resolve_append {front : List Text} (h : v.resolve pool front = .ok w) (back : List Text) :
    v.resolve pool (front ++ back) = w.resolve pool back := by
  induction front generalizing v with
  | nil =>
      rw [resolve_nil] at h
      obtain rfl := Except.ok.inj h
      rfl
  | cons part front ih =>
      by_cases hnull : v = .null
      · subst hnull
        rw [resolve_null] at h
        obtain rfl := Except.ok.inj h
        rw [resolve_null, resolve_null]
      · rw [resolve_cons hnull] at h
        rw [List.cons_append, resolve_cons hnull]
        cases hstep : v.step pool part with
        | error raised =>
            rw [hstep] at h
            cases h
        | ok found =>
            rw [hstep] at h
            cases found with
            | none =>
                obtain rfl := Except.ok.inj h
                rw [resolve_null]
            | some u => exact ih h

/-- A path that does not stumble finds what it addresses in JSON data, and null when it addresses
nothing. -/
theorem resolve_of_not_stumblesOver (hv : v.IsJson) (h : ∀ part, ¬ v.StumblesOver path part) :
    v.resolve pool path = .ok ((v.descend? path).getD .null) := by
  induction path generalizing v with
  | nil => rw [resolve_nil, descend?_nil, Option.getD_some]
  | cons part path ih =>
      by_cases hnull : v = .null
      · rw [hnull, resolve_null]
        rfl
      · have hstep : v.step pool part = .ok (v.child? part) := by
          apply step_eq_child? hv
          rintro hmisread items rfl
          exact h part ⟨[], path, items, rfl, rfl, hmisread⟩
        rw [resolve_cons hnull, hstep, descend?_cons]
        cases hchild : v.child? part with
        | none => rfl
        | some w =>
            apply ih (isJson_of_child? hv hchild)
            rintro other ⟨front, back, items, rfl, hfront, hmisread⟩
            apply h other
            refine ⟨part :: front, back, items, rfl, ?_, hmisread⟩
            rw [descend?_cons, hchild]
            exact hfront

/-- A path that stumbles raises the fault of the digits that it stumbles over. -/
theorem resolve_of_stumblesOver (hv : v.IsJson) (h : v.StumblesOver path part) :
    ∃ fault, Number.readNatural part = .error fault ∧
      v.resolve pool path = .error (Raised.ofInteger fault) := by
  rcases h with ⟨front, back, items, rfl, hfront, hmisread⟩
  induction front generalizing v with
  | nil =>
      obtain rfl := Option.some.inj hfront
      rcases element_of_misread items hmisread with ⟨fault, hfault, helement⟩
      have hstep : (Value.list items).step pool part = element items part := rfl
      refine ⟨fault, hfault, ?_⟩
      rw [List.nil_append, resolve_cons (by simp), hstep, helement]
  | cons next front ih =>
      rw [descend?_cons] at hfront
      rcases Option.bind_eq_some_iff.1 hfront with ⟨w, hchild, hbelow⟩
      rcases ih (isJson_of_child? hv hchild) hbelow with ⟨fault, hfault, hresolve⟩
      have hnull : v ≠ .null := by
        rintro rfl
        cases hchild
      -- The part in front led somewhere, so it was not misread itself.
      have hstep : v.step pool next = .ok (v.child? next) := by
        apply step_eq_child? hv
        rintro ⟨-, -, hindex⟩ items' rfl
        simp [child?, hindex] at hchild
      refine ⟨fault, hfault, ?_⟩
      rw [List.cons_append, resolve_cons hnull, hstep, hchild]
      exact hresolve

end Value
end Stencil
