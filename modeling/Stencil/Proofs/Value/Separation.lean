import Stencil.Proofs.Template.Position

/-!
# Data without shared parts

The collections of data are kept in a pool, and their numbers say where they stand.  Data are a tree
when no number stands at two positions: then nothing is shared, and nothing stands inside itself.
What a value does not contain can be changed without any path from the value noticing it.

Main results:

- Definitions `part?` and `standing?`: what stands one step below a value, or at a position.
- Definition `Data.Unaliased`: no collection stands at two positions.
- Definition `Avoids`: a collection stands nowhere below a value.
- Theorem `Avoids.resolve_congr`: paths from a value lead to the same in pools that differ only in a
  collection that the value avoids.
- Theorem `Avoids.of_resolve`: where a path leads to, the collection is avoided too.
- Theorem `unaliased_of_isJson`: JSON data are a tree.
-/

namespace Stencil
namespace Value

variable {v w : Value} {pool pool' : Pool} {number : Nat} {name part : Text} {step : Step}
  {path : List Text}

/-! ## Positions -/

/-- The values of the entries whose keys are no texts. -/
def unnamed (entries : Entries) : List Value :=
  entries.filterMap fun (key, v) => match key with
    | .text _ => none
    | _ => some v

/-- What stands one step below a value that is no number of the pool: under a text key, under
another key, at an index, or as an attribute. -/
def ownPart? : Value → Step → Option Value
  | mapping entries, .key name => Entries.find? name entries
  | mapping entries, .index n => (unnamed entries)[n]?
  | list items, .index n => items[n]?
  | tuple items, .index n => items[n]?
  | set members, .index n => members[n]?
  | object attributes _ _, .key name => (attributes.lookup name).bind Except.toOption
  | _, _ => none

/-- What stands one step below a value. -/
def part? (pool : Pool) (v : Value) (step : Step) : Option Value := ownPart? (pool.reveal v) step

/-- What stands at a position below a value. -/
def standing? (pool : Pool) (v : Value) (position : List Step) : Option Value :=
  position.foldlM (part? pool) v

/-- At no position stands the value itself. -/
@[simp]
theorem standing?_nil (pool : Pool) (v : Value) : standing? pool v [] = some v := rfl

/-- One step is taken, and then the rest of the position. -/
theorem standing?_cons (pool : Pool) (v : Value) (step : Step) (position : List Step) :
    standing? pool v (step :: position) =
      (part? pool v step).bind (standing? pool · position) := rfl

/-- A position that is continued leads on from where it led. -/
theorem standing?_append (pool : Pool) (v : Value) (front back : List Step) :
    standing? pool v (front ++ back) = (standing? pool v front).bind (standing? pool · back) := by
  unfold standing?
  rw [List.foldlM_append]
  rfl

/-- Whether a value has no parts. -/
def isScalar : Value → Bool
  | list _ => false
  | tuple _ => false
  | mapping _ => false
  | set _ => false
  | object .. => false
  | shared _ => false
  | _ => true

/-- Nothing stands below a value without parts. -/
theorem part?_of_isScalar (h : v.isScalar = true) (pool : Pool) (step : Step) :
    part? pool v step = none := by
  cases v <;> first | rfl | cases h

/-! ## Collections that a value avoids -/

/-- The collection of a number stands nowhere below a value. -/
def Avoids (pool : Pool) (number : Nat) (v : Value) : Prop :=
  ∀ position, standing? pool v position ≠ some (.shared number)

/-- What a value avoids, its parts avoid. -/
theorem Avoids.of_part? (h : Avoids pool number v) (hw : part? pool v step = some w) :
    Avoids pool number w := by
  intro position hposition
  refine h (step :: position) ?_
  rw [standing?_cons, hw]
  exact hposition

/-- A value avoids a collection that it is not itself and that all its parts avoid. -/
theorem avoids_of_parts (hv : v ≠ .shared number)
    (hparts : ∀ step w, part? pool v step = some w → Avoids pool number w) :
    Avoids pool number v := by
  rintro (- | ⟨step, position⟩) hposition
  · exact hv (Option.some.inj hposition)
  · rw [standing?_cons] at hposition
    obtain ⟨w, hw, hbelow⟩ := Option.bind_eq_some_iff.1 hposition
    exact hparts step w hw position hbelow

/-- A value without parts avoids every collection. -/
theorem avoids_of_isScalar (h : v.isScalar = true) : Avoids pool number v := by
  refine avoids_of_parts ?_ fun step w hw => ?_
  · rintro rfl
    cases h
  · rw [part?_of_isScalar h] at hw
    cases hw

/-- JSON data contain no collection of the pool. -/
theorem IsJson.avoids (h : v.IsJson) : Avoids pool number v := by
  induction h with
  | list hitems ih =>
      refine avoids_of_parts (by simp) fun step w hw => ?_
      cases step with
      | key name => cases hw
      | index n => exact ih w (List.mem_of_getElem? hw)
  | @mapping entries hkeys hvalues ih =>
      refine avoids_of_parts (by simp) fun step w hw => ?_
      obtain ⟨e, he, rfl⟩ : ∃ e ∈ entries, e.2 = w := by
        cases step with
        | key name => exact mem_of_find? hw
        | index n =>
            obtain ⟨⟨k, u⟩, he, hvalue⟩ := List.mem_filterMap.1 (List.mem_of_getElem? hw)
            refine ⟨(k, u), he, ?_⟩
            cases k with
            | text t => cases hvalue
            | _ => exact Option.some.inj hvalue
      exact ih e he
  | _ => exact avoids_of_isScalar rfl

/-! ## One step -/

/-- The attributes of numbers, dates and the like are listed one by one, and each of them is a
scalar. -/
theorem all_isScalar_ite {p : Prop} [Decidable p] {rest : Option Value} (hw : w.isScalar = true)
    (hrest : rest.all isScalar = true) :
    (if p then some w else rest).all isScalar = true := by
  split
  · exact hw
  · exact hrest

/-- The attributes of an integer have no parts.  The same goes for the other kinds of values that
have attributes of their own. -/
theorem all_isScalar_integerAttribute (n : Int) (name : Text) :
    (integerAttribute n name).all isScalar = true := by
  unfold integerAttribute
  iterate 3 refine all_isScalar_ite rfl ?_
  rfl

theorem all_isScalar_floatAttribute (x : Number.Binary64) (name : Text) :
    (floatAttribute x name).all isScalar = true := by
  unfold floatAttribute
  iterate 2 refine all_isScalar_ite rfl ?_
  rfl

theorem all_isScalar_dateAttribute (d : Calendar.Date) (name : Text) :
    (dateAttribute d name).all isScalar = true := by
  unfold dateAttribute
  iterate 6 refine all_isScalar_ite rfl ?_
  rfl

theorem all_isScalar_momentAttribute (m : Calendar.Moment) (name : Text) :
    (momentAttribute m name).all isScalar = true := by
  unfold momentAttribute
  iterate 5 refine all_isScalar_ite rfl ?_
  -- The time zone of a moment may be null.
  refine all_isScalar_ite (by cases m.offset <;> rfl) ?_
  iterate 3 refine all_isScalar_ite rfl ?_
  exact all_isScalar_dateAttribute m.date name

theorem all_isScalar_durationAttribute (microseconds : Int) (name : Text) :
    (durationAttribute microseconds name).all isScalar = true := by
  unfold durationAttribute
  iterate 6 refine all_isScalar_ite rfl ?_
  rfl

theorem all_isScalar_zoneAttribute (name : Text) : (zoneAttribute name).all isScalar = true := by
  unfold zoneAttribute
  iterate 3 refine all_isScalar_ite rfl ?_
  rfl

/-- An attribute that can be had is among those of the object. -/
theorem lookup_of_objectAttribute {attributes : List (Text × Except Raised Value)}
    (h : objectAttribute attributes name = .ok (some w)) :
    attributes.lookup name = some (.ok w) := by
  unfold objectAttribute at h
  split at h
  · cases h
  · rename_i hlookup
    cases h
    exact hlookup
  · split at h <;> cases h

/-- An attribute of a value is a part of it, or it is a scalar. -/
theorem publicAttribute_cases (h : publicAttribute (pool.reveal v) name = .ok (some w)) :
    part? pool v (.key name) = some w ∨ w.isScalar = true := by
  have hscalar : ∀ {found : Option Value}, found.all isScalar = true →
      (Except.ok found : Except Raised (Option Value)) = .ok (some w) → w.isScalar = true := by
    rintro found hall ⟨⟩
    exact hall
  unfold publicAttribute at h
  split at h
  · cases h
  · split at h
    case h_8 attributes _ _ hobject =>
      left
      rw [part?, hobject, ownPart?, lookup_of_objectAttribute h]
      rfl
    case h_9 => cases h
    · exact .inr (hscalar (all_isScalar_integerAttribute _ _) h)
    · exact .inr (hscalar (all_isScalar_integerAttribute _ _) h)
    · exact .inr (hscalar (all_isScalar_floatAttribute _ _) h)
    · exact .inr (hscalar (all_isScalar_dateAttribute _ _) h)
    · exact .inr (hscalar (all_isScalar_momentAttribute _ _) h)
    · exact .inr (hscalar (all_isScalar_durationAttribute _ _) h)
    · exact .inr (hscalar (all_isScalar_zoneAttribute _) h)

/-- What a path part finds in a list stands at some index of it. -/
theorem index_of_element {items : List Value} (h : element items part = .ok (some w)) :
    ∃ n : Nat, items[n]? = some w := by
  unfold element at h
  split at h
  · cases h
  · split at h
    · exact ⟨_, Except.ok.inj h⟩
    · cases h

/-- What a part of a path leads to is a part of the value, or it is a scalar. -/
theorem step_cases (h : v.step pool part = .ok (some w)) :
    (∃ step, part? pool v step = some w) ∨ w.isScalar = true := by
  unfold Value.step at h
  split at h
  · rename_i entries hv
    refine .inl ⟨.key part, ?_⟩
    rw [part?, hv]
    exact Except.ok.inj h
  · rename_i items hv
    obtain ⟨n, hn⟩ := index_of_element h
    refine .inl ⟨.index n, ?_⟩
    rw [part?, hv]
    exact hn
  · rename_i items hv
    obtain ⟨n, hn⟩ := index_of_element h
    refine .inl ⟨.index n, ?_⟩
    rw [part?, hv]
    exact hn
  · exact (publicAttribute_cases h).imp_left fun hpart => ⟨_, hpart⟩

/-- One part of a path does not leave what avoids a collection. -/
theorem Avoids.of_step (h : Avoids pool number v) (hstep : v.step pool part = .ok (some w)) :
    Avoids pool number w := by
  obtain ⟨step, hpart⟩ | hscalar := step_cases hstep
  · exact h.of_part? hpart
  · exact avoids_of_isScalar hscalar

/-- Where a path leads to, the collection is avoided too. -/
theorem Avoids.of_resolve (h : Avoids pool number v) (hw : v.resolve pool path = .ok w) :
    Avoids pool number w := by
  induction path generalizing v with
  | nil =>
      rw [resolve_nil] at hw
      obtain rfl := Except.ok.inj hw
      exact h
  | cons part path ih =>
      by_cases hnull : v = .null
      · rw [hnull, resolve_null] at hw
        obtain rfl := Except.ok.inj hw
        exact avoids_of_isScalar rfl
      · rw [resolve_cons hnull] at hw
        split at hw
        · cases hw
        · obtain rfl := Except.ok.inj hw
          exact avoids_of_isScalar rfl
        · rename_i u hstep
          exact ih (h.of_step hstep) hw

/-! ## Pools that differ in one collection -/

section Changes

variable (hpool : ∀ other, other ≠ number → pool'.getD other .null = pool.getD other .null)
include hpool

/-- A value that avoids a collection is revealed without it. -/
theorem Avoids.reveal_congr (h : Avoids pool number v) : pool'.reveal v = pool.reveal v := by
  cases v with
  | shared other =>
      refine hpool other ?_
      rintro rfl
      exact h [] rfl
  | _ => rfl

/-- Below a value that avoids the collection, everything stands where it stood. -/
theorem Avoids.standing?_congr (h : Avoids pool number v) (position : List Step) :
    standing? pool' v position = standing? pool v position := by
  induction position generalizing v with
  | nil => rfl
  | cons step position ih =>
      have hpart : part? pool' v step = part? pool v step := by
        rw [part?, part?, h.reveal_congr hpool]
      rw [standing?_cons, standing?_cons, hpart]
      cases hw : part? pool v step with
      | none => rfl
      | some w => exact ih (h.of_part? hw)

/-- Paths from a value that avoids the collection lead where they led. -/
theorem Avoids.resolve_congr (h : Avoids pool number v) (path : List Text) :
    v.resolve pool' path = v.resolve pool path := by
  induction path generalizing v with
  | nil => rw [resolve_nil, resolve_nil]
  | cons part path ih =>
      by_cases hnull : v = .null
      · rw [hnull, resolve_null, resolve_null]
      · have hstep : v.step pool' part = v.step pool part := by
          unfold Value.step
          rw [h.reveal_congr hpool]
        rw [resolve_cons hnull, resolve_cons hnull, hstep]
        cases hw : v.step pool part with
        | error raised => rfl
        | ok found =>
            cases found with
            | none => rfl
            | some w => exact ih (h.of_step hw)

end Changes

end Value

/-! ## Data -/

/-- No collection of the pool stands at two positions. -/
def Data.Unaliased (data : Data) : Prop :=
  ∀ number first second,
    Value.standing? data.pool data.root first = some (.shared number) →
    Value.standing? data.pool data.root second = some (.shared number) → first = second

/-- JSON data are a tree. -/
theorem unaliased_of_isJson {root : Value} (h : root.IsJson) : (Data.ofTree root).Unaliased :=
  fun _ _ _ hfirst _ => absurd hfirst (h.avoids _)

end Stencil
