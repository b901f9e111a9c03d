import Stencil.Proofs.Value.Addressing

/-!
# Private attributes

An attribute whose name begins with a low line is private.  Redaction removes the private
attributes from every object in a value, whether they hold a value or raise an exception, and
keeps what the objects show of themselves.  No text of a value depends on private attributes, and
no path leads to one; but the same name is an ordinary key of a mapping.

Main results:

- Definition `redact`: a value without the private attributes of the objects in it.
- Theorem `display_redact`: a redacted value has the same text.
- Theorem `step_redact`: one part of a path leads from a redacted value to a redacted value.
- Theorem `resolve_redact`: so does a path.
-/

namespace Stencil
namespace Value

/-- Whether a name is that of a private attribute. -/
def isPrivate (name : Text) : Bool := Text.startsWith ['_'] name

mutual

/-- The value without the private attributes of the objects in it. -/
def redact : Value → Value
  | list items => list (redactItems items)
  | tuple items => tuple (redactItems items)
  | mapping entries => mapping (redactEntries entries)
  | set members => set (redactItems members)
  | object attributes display form => object (redactAttributes attributes) display form
  | v => v

/-- The items of a sequence, redacted one by one. -/
def redactItems : List Value → List Value
  | [] => []
  | v :: rest => redact v :: redactItems rest

/-- The entries of a mapping, redacted one by one: every key stays. -/
def redactEntries : List (Value × Value) → List (Value × Value)
  | [] => []
  | (k, v) :: rest => (redact k, redact v) :: redactEntries rest

/-- The public attributes of an object, redacted one by one. -/
def redactAttributes : List (Text × Except Raised Value) → List (Text × Except Raised Value)
  | [] => []
  | (name, found) :: rest =>
    if isPrivate name then redactAttributes rest
    else (name, redactFound found) :: redactAttributes rest

/-- What reading an attribute gives, redacted when it is a value. -/
def redactFound : Except Raised Value → Except Raised Value
  | .ok v => .ok (redact v)
  | .error raised => .error raised

end

end Value

/-- A pool whose collections are redacted. -/
def Pool.redact (pool : Pool) : Pool := pool.map Value.redact

/-- Data without the private attributes of the objects in it. -/
def Data.redact (data : Data) : Data := ⟨data.root.redact, data.pool.redact⟩

namespace Value

variable {v : Value} {name : Text}

/-- The items of a list are redacted one by one. -/
theorem redactItems_eq_map (items : List Value) : redactItems items = items.map redact := by
  induction items with
  | nil => simp [redactItems]
  | cons v rest ih => rw [redactItems, List.map_cons, ih]

/-- Redaction makes nothing null. -/
theorem redact_eq_null_iff : v.redact = .null ↔ v = .null := by cases v <;> simp [redact]

/-- The pool is redacted collection by collection. -/
theorem getD_redact (pool : Pool) (number : Nat) :
    pool.redact.getD number .null = (pool.getD number .null).redact := by
  rw [Array.getD_eq_getD_getElem?, Array.getD_eq_getD_getElem?, Pool.redact, Array.getElem?_map]
  cases pool[number]? with
  | none => simp [redact]
  | some v => rfl

/-- A value is revealed redacted. -/
theorem reveal_redact (pool : Pool) (v : Value) :
    pool.redact.reveal v.redact = (pool.reveal v).redact := by
  cases v with
  | shared number => exact getD_redact pool number
  | _ => rfl

/-! ## Texts -/

section Forms

variable (shown : Nat → Except Raised Text)

mutual

/-- The form of a value does not show its attributes. -/
theorem formWith_redact : (v : Value) → formWith shown v.redact = formWith shown v
  | .list items => by rw [redact, formWith, formWith, formsWith_redact items]
  | .tuple items => by rw [redact, formWith, formWith, formsWith_redact items]
  | .set members => by rw [redact, formWith, formWith, formsWith_redact members]
  | .mapping entries => by rw [redact, formWith, formWith, entryFormsWith_redact entries]
  | .object attributes display form => by rw [redact, formWith, formWith]
  | .null | .bool _ | .int _ | .float _ | .text _ | .bytes _ | .date _ | .moment _ | .duration _
  | .zone _ | .shared _ => rfl

theorem formsWith_redact : (items : List Value) →
    formsWith shown (redactItems items) = formsWith shown items
  | [] => by rw [redactItems]
  | v :: rest => by rw [redactItems, formsWith, formsWith, formWith_redact v, formsWith_redact rest]

theorem entryFormsWith_redact : (entries : List (Value × Value)) →
    entryFormsWith shown (redactEntries entries) = entryFormsWith shown entries
  | [] => by rw [redactEntries]
  | (k, v) :: rest => by
      rw [redactEntries, entryFormsWith, entryFormsWith, formWith_redact k, formWith_redact v,
        entryFormsWith_redact rest]

end

end Forms

/-- A value inside itself is written in the same way. -/
theorem ellipsis_redact (v : Value) : ellipsis v.redact = ellipsis v := by cases v <;> rfl

/-- By induction on the fuel, with which forms go into the pool. -/
theorem partForm_redact (pool : Pool) (fuel : Nat) (opened : List Nat) :
    partForm pool.redact fuel opened = partForm pool fuel opened := by
  -- Both sides open the same collections, of which one side holds the redacted ones.
  induction fuel generalizing opened with
  | zero =>
      funext number
      rw [partForm, partForm, getD_redact, ellipsis_redact]
  | succ fuel ih =>
      funext number
      rw [partForm, partForm, getD_redact, ellipsis_redact, ih, formWith_redact]

/-- Private attributes are no part of how a value is written. -/
theorem form_redact (v : Value) (pool : Pool) : v.redact.form pool.redact = v.form pool := by
  have hsize : pool.redact.size = pool.size := Array.size_map ..
  rw [form, form, hsize, partForm_redact, formWith_redact]

/-- A redacted value has the same text. -/
theorem display_redact (v : Value) (pool : Pool) :
    v.redact.display pool.redact = v.display pool := by
  have hform := form_redact v pool
  cases v with
  | text _ | date _ | moment _ | duration _ | zone _ | object _ _ _ => rfl
  | _ => exact hform

/-! ## Lookups -/

/-- Redaction leaves the keys of a mapping. -/
theorem find?_redact (name : Text) (entries : Entries) :
    Entries.find? name (redactEntries entries) = (Entries.find? name entries).map redact := by
  induction entries with
  | nil => rw [redactEntries]; rfl
  | cons e rest ih =>
      rcases e with ⟨key, v⟩
      have hkey : key.redact.isText name = key.isText name := by cases key <;> simp [redact, isText]
      rw [redactEntries, Entries.find?, Entries.find?, hkey, ih]
      split <;> rfl

/-- Redaction leaves the places of a list. -/
theorem element_redact (items : List Value) (part : Text) :
    element (redactItems items) part = (element items part).map (Option.map redact) := by
  rw [redactItems_eq_map]
  unfold element
  split
  · rfl
  · cases Number.readNatural part with
    | error fault => rfl
    | ok n => simp [Except.map]

/-- A public attribute is found alike, whatever private ones there are. -/
theorem lookup_redactAttributes (hname : isPrivate name = false)
    (attributes : List (Text × Except Raised Value)) :
    (redactAttributes attributes).lookup name = (attributes.lookup name).map redactFound := by
  induction attributes with
  | nil => rw [redactAttributes]; rfl
  | cons first rest ih =>
      rcases first with ⟨other, found⟩
      rw [redactAttributes]
      by_cases hother : isPrivate other = true
      · have hne : (name == other) = false := by
          rw [beq_eq_false_iff_ne]
          rintro rfl
          rw [hname] at hother
          cases hother
        rw [if_pos hother, ih, List.lookup_cons, hne]
      · rw [if_neg hother, List.lookup_cons, List.lookup_cons, ih]
        cases name == other <;> rfl

/-- A public attribute is found redacted. -/
theorem objectAttribute_redact (hname : isPrivate name = false)
    (attributes : List (Text × Except Raised Value)) :
    objectAttribute (redactAttributes attributes) name =
      (objectAttribute attributes name).map (Option.map redact) := by
  rw [objectAttribute, objectAttribute, lookup_redactAttributes hname]
  cases attributes.lookup name with
  | none => rfl
  | some found =>
      cases found with
      | ok v => rfl
      | error raised =>
          rw [Option.map_some, redactFound]
          dsimp only
          split <;> rfl

/-- The attributes of numbers, dates and the like are listed one by one, and redaction keeps them
when it keeps each of them. -/
theorem map_redact_ite {p : Prop} [Decidable p] {w : Value} {rest : Option Value}
    (hw : w.redact = w) (hrest : rest.map redact = rest) :
    (if p then some w else rest).map redact = if p then some w else rest := by
  split
  · rw [Option.map_some, hw]
  · exact hrest

/-- The attributes of an integer hold nothing private.  The same goes for the other kinds of values
that have attributes of their own. -/
theorem redact_integerAttribute (n : Int) (name : Text) :
    (integerAttribute n name).map redact = integerAttribute n name := by
  unfold integerAttribute
  iterate 3 refine map_redact_ite rfl ?_
  rfl

theorem redact_floatAttribute (x : Number.Binary64) (name : Text) :
    (floatAttribute x name).map redact = floatAttribute x name := by
  unfold floatAttribute
  iterate 2 refine map_redact_ite rfl ?_
  rfl

theorem redact_dateAttribute (d : Calendar.Date) (name : Text) :
    (dateAttribute d name).map redact = dateAttribute d name := by
  unfold dateAttribute
  iterate 6 refine map_redact_ite rfl ?_
  rfl

theorem redact_momentAttribute (m : Calendar.Moment) (name : Text) :
    (momentAttribute m name).map redact = momentAttribute m name := by
  unfold momentAttribute
  iterate 5 refine map_redact_ite rfl ?_
  -- The time zone of a moment may be null.
  refine map_redact_ite (by cases m.offset <;> rfl) ?_
  iterate 3 refine map_redact_ite rfl ?_
  exact redact_dateAttribute m.date name

theorem redact_durationAttribute (microseconds : Int) (name : Text) :
    (durationAttribute microseconds name).map redact = durationAttribute microseconds name := by
  unfold durationAttribute
  iterate 6 refine map_redact_ite rfl ?_
  rfl

theorem redact_zoneAttribute (name : Text) :
    (zoneAttribute name).map redact = zoneAttribute name := by
  unfold zoneAttribute
  iterate 3 refine map_redact_ite rfl ?_
  rfl

/-- No attribute that is found is private. -/
theorem publicAttribute_redact (v : Value) (name : Text) :
    publicAttribute v.redact name = (publicAttribute v name).map (Option.map redact) := by
  unfold publicAttribute
  by_cases hprivate : Text.startsWith ['_'] name = true
  · rw [if_pos hprivate, if_pos hprivate]
    rfl
  · rw [if_neg hprivate, if_neg hprivate]
    have hpublic : isPrivate name = false := by simpa [isPrivate] using hprivate
    cases v with
    | bool b => exact congrArg Except.ok (redact_integerAttribute _ name).symm
    | int n => exact congrArg Except.ok (redact_integerAttribute n name).symm
    | float x => exact congrArg Except.ok (redact_floatAttribute x name).symm
    | date d => exact congrArg Except.ok (redact_dateAttribute d name).symm
    | moment m => exact congrArg Except.ok (redact_momentAttribute m name).symm
    | duration d => exact congrArg Except.ok (redact_durationAttribute d name).symm
    | zone offset => exact congrArg Except.ok (redact_zoneAttribute name).symm
    | object attributes display form => exact objectAttribute_redact hpublic attributes
    | _ => rfl

/-- One part of a path leads from a redacted value to what it leads to otherwise, redacted. -/
theorem step_redact (v : Value) (pool : Pool) (part : Text) :
    v.redact.step pool.redact part = (v.step pool part).map (Option.map redact) := by
  rw [step, step, reveal_redact]
  cases pool.reveal v with
  | mapping entries => exact congrArg Except.ok (find?_redact part entries)
  | list items => exact element_redact items part
  | tuple items => exact element_redact items part
  | _ => exact publicAttribute_redact _ part

theorem redact_null : Value.null.redact = .null := rfl

/-- A path leads from a redacted value to what it leads to otherwise, redacted. -/
theorem resolve_redact (v : Value) (pool : Pool) (path : List Text) :
    v.redact.resolve pool.redact path = (v.resolve pool path).map redact := by
  induction path generalizing v with
  | nil =>
      rw [resolve_nil, resolve_nil]
      rfl
  | cons part path ih =>
      by_cases hnull : v = .null
      · subst hnull
        rw [redact_null, resolve_null]
        rfl
      · have hredacted : v.redact ≠ .null := fun h => hnull (redact_eq_null_iff.1 h)
        rw [resolve_cons hnull, resolve_cons hredacted, step_redact]
        cases v.step pool part with
        | error raised => rfl
        | ok found =>
            cases found with
            | none => rfl
            | some w => exact ih w

end Value
end Stencil
