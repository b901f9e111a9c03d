import Stencil.Proofs.CommandLine.Places
import Stencil.Proofs.Outcome
import Stencil.Proofs.Text.Occurrence

/-!
# The last setting of a place wins

Settings are applied one after the other, and each puts its value at the end of its keys, whatever
was there or on the way.  The value stays when no later setting writes to the place or to what its
keys pass.  In data without shared mappings these are the settings whose keys are equal, begin with
the others or are their beginning.  A mapping that is shared can also be written to by other keys,
and keys can come back to the place that they lead to and overwrite what they passed.

Main results:

- Structure `Assignment` and theorem `exists_applySetting_iff`: the settings that are accepted.
- Definitions `Straight` and `Spared`: keys that do not pass their own place, and keys whose place
  later settings leave alone.
- Definition `Unshared`: no shared mapping is reached by different keys.
- Theorem `last_setting_stands`: the value of a setting that is spared is found by its keys, and so
  is every last one in unshared data.
- Theorem `shared_setting_overwritten`: in shared data the last one can be lost.
-/

namespace Stencil
namespace CommandLine

/-! ## Accepted settings -/

/-- A setting that is accepted: a name, and a text that stands for a value. -/
structure Assignment where
  name : Text
  text : Text
  value : Value
  equals_not_mem : '=' ∉ name
  reads : readValue text = .ok value

namespace Assignment

/-- The setting as it is written. -/
def setting (a : Assignment) : Text := a.name ++ '=' :: a.text

/-- The keys that its name leads along. -/
def keys (a : Assignment) : List Text := Text.split '.' a.name

/-- The data with its value in place. -/
def apply (a : Assignment) (data : Data) : Data :=
  placeIn (placeOf a.name).1 (placeOf a.name).2 a.value data

end Assignment

/-- The data after some settings. -/
def applyAll (assignments : List Assignment) (data : Data) : Data :=
  assignments.foldl (fun data a => a.apply data) data

variable {data : Data} {pool : Pool} {a : Assignment} {assignments later : List Assignment}
  {text : Text} {v value : Value} {keys first second : List Text} {s : Site} {number : Nat}

@[simp]
theorem applyAll_cons (a : Assignment) (assignments : List Assignment) (data : Data) :
    applyAll (a :: assignments) data = applyAll assignments (a.apply data) := rfl

theorem applyAll_append (before later : List Assignment) (data : Data) :
    applyAll (before ++ later) data = applyAll later (applyAll before data) :=
  List.foldl_append

theorem Assignment.cut_setting (a : Assignment) :
    Text.cut ['='] a.setting = some (a.name, a.text) :=
  Text.cut_singleton_append a.equals_not_mem a.text

/-- An accepted setting is applied. -/
theorem applySetting_setting (a : Assignment) (data : Data) :
    applySetting data a.setting = .ok (a.apply data) := by
  rw [applySetting, a.cut_setting]
  dsimp only
  rw [a.reads]
  rfl

/-- Every setting that can be applied is an accepted one. -/
theorem exists_assignment {setting : Text} {result : Data}
    (h : applySetting data setting = .ok result) : ∃ a : Assignment, a.setting = setting := by
  unfold applySetting at h
  split at h
  · cases h
  · rename_i name text hcut
    split at h
    · cases h
    · rename_i value hvalue
      have hname : '=' ∉ name := by
        intro hmem
        obtain ⟨front, back, rfl⟩ := List.append_of_mem hmem
        refine Text.not_occursAt_before_of_cut (by simp) hcut front.length ?_
        simpa using Text.occursAt_length ['='] front back
      refine ⟨⟨name, text, value, hname, hvalue⟩, ?_⟩
      rw [Assignment.setting, Text.eq_of_cut hcut, List.append_assoc, List.singleton_append]

/-- The settings that can be applied are the accepted ones, whatever the data. -/
theorem exists_applySetting_iff {setting : Text} :
    (∃ result, applySetting data setting = .ok result) ↔ ∃ a : Assignment, a.setting = setting := by
  constructor
  · rintro ⟨result, h⟩
    exact exists_assignment h
  · rintro ⟨a, rfl⟩
    exact ⟨a.apply data, applySetting_setting a data⟩

theorem applySettings_map (assignments : List Assignment) (data : Data) :
    applySettings data (assignments.map Assignment.setting) = .ok (applyAll assignments data) := by
  induction assignments generalizing data with
  | nil => rfl
  | cons a assignments ih =>
      rw [List.map_cons, applySettings, applySetting_setting]
      exact ih (a.apply data)

theorem Assignment.keys_ne_nil (a : Assignment) : a.keys ≠ [] := Text.split_ne_nil '.' a.name

theorem Assignment.keys_eq (a : Assignment) :
    (placeOf a.name).1 ++ [(placeOf a.name).2] = a.keys := by
  have hlast : a.keys.getLastD [] = a.keys.getLast a.keys_ne_nil := by
    rw [List.getLastD_eq_getLast?, List.getLast?_eq_some_getLast a.keys_ne_nil, Option.getD_some]
  rw [← List.dropLast_append_getLast a.keys_ne_nil, ← hlast]
  rfl

theorem Assignment.siteOf_apply (a : Assignment)
    (h : ∀ front, front <+: keys → front ≠ keys → siteOf data front ≠ siteOf data a.keys) :
    siteOf (a.apply data) keys = siteOf data keys :=
  siteOf_placeIn _ (a.keys_eq.symm ▸ h)

theorem Assignment.mount?_apply (a : Assignment) (h : ¬ (siteOf data a.keys).Above s) :
    mount? (a.apply data) s = mount? data s :=
  mount?_placeIn (a.keys_eq.symm ▸ h) _

/-! ## Settings that spare a place -/

/-- Neither keys lead through the place of the other. -/
def Apart (data : Data) (first second : List Text) : Prop :=
  ¬ OnWay data first second ∧ ¬ OnWay data second first

instance (data : Data) (first second : List Text) : Decidable (Apart data first second) :=
  inferInstanceAs (Decidable (_ ∧ _))

/-- Keys that do not pass their place before they end. -/
def Straight (data : Data) (keys : List Text) : Prop :=
  ∀ front, front <+: keys → siteOf data front = siteOf data keys → front = keys

instance (data : Data) (keys : List Text) : Decidable (Straight data keys) :=
  decidable_of_iff
    (∀ front ∈ keys.inits, siteOf data front = siteOf data keys → front = keys)
    (by simp [Straight])

/-- Settings that leave the place of some keys alone, each when its turn comes. -/
def Spared (keys : List Text) : Data → List Assignment → Prop
  | _, [] => True
  | data, a :: later => Apart data keys a.keys ∧ Spared keys (a.apply data) later

instance decidableSpared (keys : List Text) :
    (data : Data) → (later : List Assignment) → Decidable (Spared keys data later)
  | _, [] => isTrue trivial
  | data, a :: later =>
    have := decidableSpared keys (a.apply data) later
    inferInstanceAs (Decidable (_ ∧ _))

/-- The value of a setting is at the end of its keys. -/
theorem Straight.held?_apply (h : Straight data a.keys) :
    held? (a.apply data) (siteOf (a.apply data) a.keys) = some a.value := by
  rw [← a.keys_eq, Assignment.apply]
  refine held?_siteOf_placeIn_self _ fun front hfront hsite => ?_
  have heq := h front (a.keys_eq ▸ hfront.trans (List.prefix_append _ _)) (a.keys_eq ▸ hsite)
  rw [heq, ← a.keys_eq] at hfront
  exact absurd hfront.length_le (by simp)

/-- A setting apart from some keys keeps what is at their end. -/
theorem Apart.held?_apply (h : Apart data keys a.keys) (hne : keys ≠ []) :
    held? (a.apply data) (siteOf (a.apply data) keys) = held? data (siteOf data keys) := by
  rw [Apart, ← a.keys_eq] at h
  exact held?_siteOf_placeIn h.2 h.1 hne _

theorem Spared.held?_applyAll (h : Spared keys data later) (hne : keys ≠ []) :
    held? (applyAll later data) (siteOf (applyAll later data) keys) =
      held? data (siteOf data keys) := by
  induction later generalizing data with
  | nil => rfl
  | cons a later ih => rw [applyAll_cons, ih h.2, h.1.held?_apply hne]

/-- The value of a setting among others is at the end of its keys when the later ones spare it. -/
theorem held?_applyAll {before : List Assignment} (hown : Straight (applyAll before data) a.keys)
    (hlater : Spared a.keys (a.apply (applyAll before data)) later) :
    let result := applyAll (before ++ a :: later) data
    held? result (siteOf result a.keys) = some a.value := by
  intro result
  rw [show result = applyAll later (a.apply (applyAll before data)) from applyAll_append _ _ _,
    hlater.held?_applyAll a.keys_ne_nil, hown.held?_apply]

/-! ## Unshared data -/

/-- No shared mapping is reached by different keys. -/
def Unshared (data : Data) : Prop :=
  ∀ number first second, mount? data (siteOf data first) = some number →
    mount? data (siteOf data second) = some number → first = second

/-- Data that share nothing are unshared. -/
theorem unshared_ofTree (root : Value) : Unshared (.ofTree root) := by
  intro number first second hfirst
  obtain ⟨entries, hentries⟩ := exists_of_mount? hfirst
  cases hentries

/-- Keys lead to a site by its own keys, from the root or from the mapping of its base. -/
theorem exists_mount_of_siteOf (data : Data) (keys : List Text) :
    ∃ front, keys = front ++ (siteOf data keys).keys ∧
      match (siteOf data keys).base with
      | none => front = []
      | some number => mount? data (siteOf data front) = some number := by
  induction keys using List.reverseRecOn with
  | nil => exact ⟨[], rfl, rfl⟩
  | append_singleton keys key ih =>
      rw [siteOf_concat, under]
      rcases hmount : mount? data (siteOf data keys) with - | number
      · obtain ⟨front, hkeys, hfront⟩ := ih
        rw [settle_of_unmounted hmount]
        exact ⟨front, by rw [← List.append_assoc, ← hkeys], hfront⟩
      · rw [settle_of_mount? hmount]
        exact ⟨keys, rfl, hmount⟩

namespace Unshared

/-- In unshared data different keys lead to different sites. -/
theorem siteOf_inj (h : Unshared data) (heq : siteOf data first = siteOf data second) :
    first = second := by
  obtain ⟨front, hfirst, hfront⟩ := exists_mount_of_siteOf data first
  obtain ⟨front', hsecond, hfront'⟩ := exists_mount_of_siteOf data second
  rw [heq] at hfirst hfront
  have hfronts : front = front' := by
    cases hbase : (siteOf data second).base with
    | none =>
        rw [hbase] at hfront hfront'
        exact hfront.trans hfront'.symm
    | some number =>
        rw [hbase] at hfront hfront'
        exact h number front front' hfront hfront'
  exact hfirst.trans (hfronts ▸ hsecond.symm)

theorem straight (h : Unshared data) (keys : List Text) : Straight data keys :=
  fun _ _ hsite => h.siteOf_inj hsite

theorem onWay_iff (h : Unshared data) : OnWay data first second ↔ first <+: second := by
  constructor
  · rintro ⟨front, hfront, hsite⟩
    rwa [← h.siteOf_inj hsite]
  · exact fun hprefix => ⟨first, hprefix, rfl⟩

end Unshared

/-- The values of settings have no entries. -/
theorem entriesOf?_of_readValue (h : readValue text = .ok value) (pool : Pool) :
    entriesOf? pool value = none := by
  unfold readValue at h
  split at h
  · obtain ⟨n, -, rfl⟩ := Outcome.map_eq_ok_iff.1 h
    rfl
  · obtain rfl := Except.ok.inj h
    unfold readPlain
    split
    · rfl
    · split <;> rfl

theorem sharedMapping?_of_entriesOf? (h : entriesOf? pool v = none) :
    sharedMapping? pool v = none := by
  unfold sharedMapping?
  split
  · rw [h]
    rfl
  · rfl

/-- No mapping lies at or below the place of a setting. -/
theorem mount?_apply_below (hown : Straight data a.keys) (h : a.keys <+: keys) :
    mount? (a.apply data) (siteOf (a.apply data) keys) = none := by
  obtain ⟨more, rfl⟩ := h
  have hvalue := hown.held?_apply
  have hnone := entriesOf?_of_readValue a.reads (a.apply data).pool
  cases more with
  | nil =>
      rw [List.append_nil, mount?, hvalue]
      exact sharedMapping?_of_entriesOf? hnone
  | cons key more =>
      have hbelow : held? (a.apply data) (under (a.apply data) (siteOf (a.apply data) a.keys) key)
          = none := by
        rw [held?_under, hvalue, Option.bind_some, hnone]
        rfl
      have hsite : siteOf (a.apply data) (a.keys ++ key :: more) =
          more.foldl (under (a.apply data))
            (under (a.apply data) (siteOf (a.apply data) a.keys) key) := by
        rw [siteOf, List.foldl_append, List.foldl_cons, ← siteOf]
      rw [hsite, mount?, (foldl_under_of_none hbelow more).2]
      rfl

/-- Settings share nothing. -/
theorem Unshared.apply (h : Unshared data) (a : Assignment) : Unshared (a.apply data) := by
  have hmount : ∀ number keys, mount? (a.apply data) (siteOf (a.apply data) keys) = some number →
      mount? data (siteOf data keys) = some number := by
    intro number keys hnumber
    -- At the place and below it no mapping is left; all other keys lead where they led.
    by_cases hprefix : a.keys <+: keys
    · rw [mount?_apply_below (h.straight _) hprefix] at hnumber
      cases hnumber
    · have haside : ¬ OnWay data a.keys keys := mt h.onWay_iff.1 hprefix
      have hsite : siteOf (a.apply data) keys = siteOf data keys :=
        a.siteOf_apply fun front hfront _ heq => haside ⟨front, hfront, heq⟩
      rwa [hsite, a.mount?_apply fun habove => haside (onWay_of_above habove a.keys_ne_nil)]
        at hnumber
  intro number first second hfirst hsecond
  exact h number first second (hmount _ _ hfirst) (hmount _ _ hsecond)

/-- In unshared data only keys that begin alike can meet. -/
theorem Unshared.spared (h : Unshared data)
    (hlater : ∀ other ∈ later, ¬ keys <+: other.keys ∧ ¬ other.keys <+: keys) :
    Spared keys data later := by
  induction later generalizing data with
  | nil => trivial
  | cons a later ih =>
      obtain ⟨ha, hlater⟩ := List.forall_mem_cons.1 hlater
      exact ⟨⟨mt h.onWay_iff.1 ha.1, mt h.onWay_iff.1 ha.2⟩, ih (h.apply a) hlater⟩

theorem Unshared.applyAll (h : Unshared data) (assignments : List Assignment) :
    Unshared (applyAll assignments data) := by
  induction assignments generalizing data with
  | nil => exact h
  | cons a assignments ih => exact ih (h.apply a)

/-- The settings that are accepted are those that have a name and a value, and they are all applied.
The value of each is found by its keys afterwards
when these keys do not pass their own place and the later settings spare it; so it is, in unshared
data, when no later keys are equal to them, begin with them or are their beginning. -/
theorem last_setting_stands (data : Data) (assignments : List Assignment) :
    (∀ setting, (∃ result, applySetting data setting = .ok result) ↔
      ∃ a : Assignment, a.setting = setting) ∧
    ∃ result, applySettings data (assignments.map Assignment.setting) = .ok result ∧
      ∀ before a later, assignments = before ++ a :: later →
        (Straight (applyAll before data) a.keys →
          Spared a.keys (a.apply (applyAll before data)) later →
          result.root.resolve result.pool a.keys = .ok a.value) ∧
        (Unshared data →
          (∀ other ∈ later, ¬ a.keys <+: other.keys ∧ ¬ other.keys <+: a.keys) →
          result.root.resolve result.pool a.keys = .ok a.value) := by
  refine ⟨fun setting => exists_applySetting_iff, applyAll assignments data,
    applySettings_map _ _, ?_⟩
  rintro before a later rfl
  refine ⟨fun hown hlater => resolve_of_held? (held?_applyAll hown hlater),
    fun hshared hlater => ?_⟩
  have hbefore := hshared.applyAll before
  exact resolve_of_held?
    (held?_applyAll (hbefore.straight _) ((hbefore.apply a).spared hlater))

/-- Data with one mapping under two keys. -/
def sharedData : Data :=
  ⟨.shared 0, #[.mapping [(.text "a", .shared 1), (.text "b", .shared 1)],
    .mapping [(.text "k", .int 0)]]⟩

/-- A setting that writes to the mapping by its first key. -/
def firstAssignment : Assignment := ⟨"a.k", "1", .int 1, by decide, rfl⟩

/-- A setting with an empty key at its end, and an equals sign in its value. -/
def equalsAssignment : Assignment := ⟨"a.", "x=y", .text "x=y", by decide, rfl⟩

/-- In shared data a place is spared by a setting beside it; in unshared data a later setting with
other keys spares every place. -/
theorem last_setting_stands_both :
    (∃ result, applySettings sharedData ["a.k=1", "b.m=2"] = .ok result ∧
      result.root.resolve result.pool ["a", "k"] = .ok (.int 1)) ∧
    ∃ result, applySettings (.ofTree (.mapping [(.text "a", .int 0)])) ["a.=x=y", "b.k=2"] =
        .ok result ∧
      result.root.resolve result.pool ["a", ""] = .ok (.text "x=y") := by
  constructor
  · obtain ⟨-, result, hresult, hstands⟩ := last_setting_stands sharedData
      [firstAssignment, ⟨"b.m", "2", .int 2, by decide, rfl⟩]
    exact ⟨result, hresult, (hstands [] _ _ rfl).1 (by decide +kernel) (by decide +kernel)⟩
  · obtain ⟨-, result, hresult, hstands⟩ := last_setting_stands
      (.ofTree (.mapping [(.text "a", .int 0)]))
      [equalsAssignment, ⟨"b.k", "2", .int 2, by decide, rfl⟩]
    exact ⟨result, hresult, (hstands [] _ _ rfl).2 (unshared_ofTree _) (by decide +kernel)⟩

/-- In shared data a setting can be overwritten by one with other keys. -/
theorem shared_setting_overwritten :
    ¬ ∀ (data : Data) (assignments : List Assignment) (result : Data),
      (entriesOf? data.pool data.root).isSome →
      applySettings data (assignments.map Assignment.setting) = .ok result →
      ∀ before a later, assignments = before ++ a :: later →
        (∀ other ∈ later, ¬ a.keys <+: other.keys ∧ ¬ other.keys <+: a.keys) →
        result.root.resolve result.pool a.keys = .ok a.value := by
  intro hall
  let second : Assignment := ⟨"b.k", "2", .int 2, by decide, rfl⟩
  let result := applyAll [firstAssignment, second] sharedData
  have hone : result.root.resolve result.pool ["a", "k"] = .ok (.int 1) :=
    hall sharedData _ result rfl (applySettings_map _ _) [] firstAssignment [second] rfl
      (by decide +kernel)
  have htwo : result.root.resolve result.pool ["a", "k"] = .ok (.int 2) := rfl
  cases hone.symm.trans htwo

end CommandLine
end Stencil
