import Stencil.Proofs.CommandLine.LastSetting
import Stencil.Proofs.Number.Reading

/-!
# Settings that are refused

A setting is refused when it has no equals sign.  There is one more reason: a value that has the
form of a whole number is read as one, and a number of too many digits cannot be read.  Any other
text stands for a value.  Of several settings the first one that is refused decides, and when none
is, they are all applied.

Main results:

- Definitions `Overlong` and `Refused`: values that cannot be read, and why a setting is refused.
- Theorem `readValue_eq_error_iff`: only overlong values are not read.
- Theorem `applySettings_eq_error_iff`: settings fail with the fault of the first refused one.
- Theorem `settings_fail_at_first_refused`: what comes of settings in all cases.
- Theorem `overlong_setting_fails`: a setting with an equals sign that is refused.
-/

namespace Stencil
namespace CommandLine

variable {data : Data} {text setting : Text} {first : Text} {settings rest : List Text}
  {fault : SettingFault}

/-! ## Values -/

/-- A text in the form of a whole number with more digits than can be read. -/
def Overlong (text : Text) : Prop :=
  Number.isInteger text = true ∧ Number.digitLimit < (Number.splitSign text).2.length

/-- The fault of a whole number that is overlong. -/
def overlongFault (text : Text) : Number.IntegerFault :=
  .tooLongToRead (Number.splitSign text).2.length

/-- Only overlong values are not read. -/
theorem readValue_eq_error_iff {fault : Number.IntegerFault} :
    readValue text = .error fault ↔ Overlong text ∧ fault = overlongFault text := by
  unfold readValue Overlong
  split
  · rename_i hinteger
    rw [Outcome.map_eq_error_iff, Number.readInteger_of_isInteger hinteger]
    split
    · rename_i hlong
      simp [hinteger, hlong, overlongFault, eq_comm]
    · rename_i hshort
      simp [hshort]
  · rename_i hother
    simp [hother]

/-! ## One setting -/

/-- Why a setting is refused: it has no equals sign, or what follows the first one is overlong. -/
inductive Refused : Text → SettingFault → Prop where
  | noEquals {setting : Text} (h : '=' ∉ setting) : Refused setting (.noEquals setting)
  | overlong {name text : Text} (hname : '=' ∉ name) (h : Overlong text) :
      Refused (name ++ '=' :: text) (.number (overlongFault text))

/-- A refused setting fails with the fault it is refused for, whatever the data. -/
theorem applySetting_of_refused (h : Refused setting fault) (data : Data) :
    applySetting data setting = .error fault := by
  cases h with
  | noEquals h => rw [applySetting, Text.cut_singleton_eq_none h]
  | overlong hname h =>
      rw [applySetting, Text.cut_singleton_append hname]
      dsimp only
      rw [readValue_eq_error_iff.2 ⟨h, rfl⟩]

/-- A setting is applied, or it is refused. -/
theorem exists_assignment_or_refused (setting : Text) :
    (∃ a : Assignment, a.setting = setting) ∨ ∃ fault, Refused setting fault := by
  by_cases hequals : '=' ∈ setting
  · obtain ⟨name, text, rfl, hname⟩ := List.eq_append_cons_of_mem hequals
    cases hvalue : readValue text with
    | ok value => exact .inl ⟨⟨name, text, value, hname, hvalue⟩, rfl⟩
    | error fault =>
        obtain ⟨hlong, -⟩ := readValue_eq_error_iff.1 hvalue
        exact .inr ⟨_, .overlong hname hlong⟩
  · exact .inr ⟨_, .noEquals hequals⟩

/-- No setting is refused that can be applied. -/
theorem not_refused_setting (a : Assignment) : ¬ Refused a.setting fault := by
  intro h
  cases (applySetting_setting a (.ofTree .null)).symm.trans (applySetting_of_refused h _)

/-- It is for its own text alone that a setting fails. -/
theorem applySetting_eq_error_iff (data : Data) :
    applySetting data setting = .error fault ↔ Refused setting fault := by
  refine ⟨fun herror => ?_, fun h => applySetting_of_refused h data⟩
  obtain ⟨a, rfl⟩ | ⟨other, hother⟩ := exists_assignment_or_refused setting
  · cases (applySetting_setting a data).symm.trans herror
  · cases (applySetting_of_refused hother data).symm.trans herror
    exact hother

/-- Settings of which none is refused are those that are accepted. -/
theorem exists_assignments (h : ∀ s ∈ settings, ∀ fault, ¬ Refused s fault) :
    ∃ assignments : List Assignment, settings = assignments.map Assignment.setting := by
  induction settings with
  | nil => exact ⟨[], rfl⟩
  | cons first rest ih =>
      obtain ⟨hfirst, hrest⟩ := List.forall_mem_cons.1 h
      obtain ⟨a, rfl⟩ :=
        (exists_assignment_or_refused first).resolve_right fun ⟨fault, hf⟩ => hfirst fault hf
      obtain ⟨assignments, rfl⟩ := ih hrest
      exact ⟨a :: assignments, rfl⟩

/-! ## Settings one after the other -/

/-- The fault of the first setting that is refused. -/
def FirstRefusal (settings : List Text) (fault : SettingFault) : Prop :=
  ∃ before setting later, settings = before ++ setting :: later ∧
    (∀ s ∈ before, ∀ other, ¬ Refused s other) ∧ Refused setting fault

/-- Where nothing is refused there is no first refusal. -/
theorem not_firstRefusal_of_forall (h : ∀ s ∈ settings, ∀ other, ¬ Refused s other) :
    ¬ FirstRefusal settings fault := by
  rintro ⟨before, setting, later, rfl, -, hrefused⟩
  exact h setting (by simp) fault hrefused

/-- A refused setting at the front is the first refusal. -/
theorem firstRefusal_cons_of_refused {other : SettingFault} (h : Refused first other) :
    FirstRefusal (first :: rest) fault ↔ Refused first fault := by
  constructor
  · rintro ⟨before, setting, later, hsplit, hbefore, hrefused⟩
    cases before with
    | nil =>
        obtain ⟨rfl, -⟩ := List.cons.inj hsplit
        exact hrefused
    | cons accepted before =>
        obtain ⟨rfl, -⟩ := List.cons.inj hsplit
        exact absurd h (hbefore _ List.mem_cons_self other)
  · exact fun hrefused => ⟨[], first, rest, rfl, by simp, hrefused⟩

/-- A setting that is not refused is passed over. -/
theorem firstRefusal_cons_of_not (h : ∀ other, ¬ Refused first other) :
    FirstRefusal (first :: rest) fault ↔ FirstRefusal rest fault := by
  constructor
  · rintro ⟨before, setting, later, hsplit, hbefore, hrefused⟩
    cases before with
    | nil =>
        obtain ⟨rfl, -⟩ := List.cons.inj hsplit
        exact absurd hrefused (h fault)
    | cons accepted before =>
        obtain ⟨rfl, rfl⟩ := List.cons.inj hsplit
        exact ⟨before, setting, later, rfl, (List.forall_mem_cons.1 hbefore).2, hrefused⟩
  · rintro ⟨before, setting, later, rfl, hbefore, hrefused⟩
    exact ⟨first :: before, setting, later, rfl, List.forall_mem_cons.2 ⟨h, hbefore⟩, hrefused⟩

/-- There is a first refusal just when some setting is refused. -/
theorem exists_firstRefusal_iff :
    (∃ fault, FirstRefusal settings fault) ↔ ∃ s ∈ settings, ∃ fault, Refused s fault := by
  constructor
  · rintro ⟨fault, before, setting, later, rfl, -, hrefused⟩
    exact ⟨setting, by simp, fault, hrefused⟩
  · intro h
    induction settings with
    | nil => simp at h
    | cons first rest ih =>
        by_cases hfirst : ∃ fault, Refused first fault
        · obtain ⟨fault, hfault⟩ := hfirst
          exact ⟨fault, (firstRefusal_cons_of_refused hfault).2 hfault⟩
        · obtain ⟨fault, hfault⟩ := ih (by simpa [hfirst] using h)
          exact ⟨fault, (firstRefusal_cons_of_not (not_exists.1 hfirst)).2 hfault⟩

/-- Settings fail with the fault of the first one that is refused. -/
theorem applySettings_eq_error_iff :
    applySettings data settings = .error fault ↔ FirstRefusal settings fault := by
  induction settings generalizing data with
  | nil =>
      rw [applySettings]
      simp [not_firstRefusal_of_forall]
  | cons first rest ih =>
      rw [applySettings]
      obtain ⟨a, rfl⟩ | ⟨other, hother⟩ := exists_assignment_or_refused first
      · rw [applySetting_setting, firstRefusal_cons_of_not fun _ => not_refused_setting a, ← ih]
        rfl
      · rw [applySetting_of_refused hother, firstRefusal_cons_of_refused hother,
          ← applySetting_eq_error_iff data, applySetting_of_refused hother]
        rfl

/-! ## The root -/

/-- The number of a mapping has entries, and that of another collection has none. -/
theorem isSome_entriesOf?_shared_iff {pool : Pool} {number : Nat} :
    (entriesOf? pool (.shared number)).isSome ↔
      sharedMapping? pool (.shared number) = some number := by
  unfold sharedMapping?
  cases entriesOf? pool (.shared number) <;> simp

/-- What is a mapping stays one when a value is placed somewhere. -/
theorem isSome_entriesOf?_placeIn (h : (entriesOf? data.pool data.root).isSome)
    (parents : List Text) (last : Text) (value : Value) :
    let result := placeIn parents last value data
    (entriesOf? result.pool result.root).isSome := by
  intro result
  have hroot : result.root = data.root ∨ ∃ entries, result.root = .mapping entries := by
    simp only [result, placeIn_eq, graft]
    cases (settle data (siteOf data parents)).base with
    | none => exact .inr ⟨_, rfl⟩
    | some number => exact .inl rfl
  obtain hroot | ⟨entries, hentries⟩ := hroot
  · rw [hroot]
    cases hvalue : data.root with
    | shared number =>
        rw [isSome_entriesOf?_shared_iff, sharedMapping?_placeIn, ← isSome_entriesOf?_shared_iff,
          ← hvalue]
        exact h
    | mapping entries => rfl
    | _ =>
        rw [hvalue] at h
        exact h
  · rw [hentries]
    rfl

/-- Data that are a mapping stay one through all settings. -/
theorem isSome_entriesOf?_applyAll (h : (entriesOf? data.pool data.root).isSome)
    (assignments : List Assignment) :
    (entriesOf? (applyAll assignments data).pool (applyAll assignments data).root).isSome := by
  induction assignments generalizing data with
  | nil => exact h
  | cons a assignments ih => exact ih (isSome_entriesOf?_placeIn h _ _ _)

/-! ## What comes of settings -/

/-- Settings fail exactly with the fault of the first one that is refused, and when none is, they
make a mapping of a mapping.  Without overlong values, settings are refused for want of an equals
sign only.  A value is not read exactly if it is overlong. -/
theorem settings_fail_at_first_refused (h : (entriesOf? data.pool data.root).isSome)
    (settings : List Text) :
    (∀ fault, applySettings data settings = .error fault ↔ FirstRefusal settings fault) ∧
    ((∀ s ∈ settings, ∀ fault, ¬ Refused s fault) →
      ∃ result, applySettings data settings = .ok result ∧
        (entriesOf? result.pool result.root).isSome) ∧
    ((∀ name text, '=' ∉ name → name ++ '=' :: text ∈ settings → ¬ Overlong text) →
      ((∃ fault, applySettings data settings = .error fault) ↔ ∃ s ∈ settings, '=' ∉ s) ∧
      ∀ fault, applySettings data settings = .error fault →
        ∃ s ∈ settings, '=' ∉ s ∧ fault = .noEquals s) ∧
    ∀ text fault, readValue text = .error fault ↔ Overlong text ∧ fault = overlongFault text := by
  have hnone : (∀ s ∈ settings, ∀ fault, ¬ Refused s fault) →
      ∃ result, applySettings data settings = .ok result ∧
        (entriesOf? result.pool result.root).isSome := by
    intro hall
    obtain ⟨assignments, rfl⟩ := exists_assignments hall
    exact ⟨_, applySettings_map assignments data, isSome_entriesOf?_applyAll h assignments⟩
  refine ⟨fun fault => applySettings_eq_error_iff, hnone, fun hshort => ?_,
    fun text fault => readValue_eq_error_iff⟩
  have honly : ∀ s ∈ settings, ∀ fault, Refused s fault → '=' ∉ s ∧ fault = .noEquals s := by
    intro s hs fault hrefused
    cases hrefused with
    | noEquals hequals => exact ⟨hequals, rfl⟩
    | overlong hname hlong => exact absurd hlong (hshort _ _ hname hs)
  simp only [applySettings_eq_error_iff]
  rw [exists_firstRefusal_iff]
  refine ⟨⟨?_, ?_⟩, ?_⟩
  · rintro ⟨s, hs, fault, hrefused⟩
    exact ⟨s, hs, (honly s hs fault hrefused).1⟩
  · rintro ⟨s, hs, hequals⟩
    exact ⟨s, hs, _, .noEquals hequals⟩
  · rintro fault ⟨before, s, later, rfl, -, hrefused⟩
    exact ⟨s, by simp, honly s (by simp) fault hrefused⟩

/-- A setting without an equals sign is refused, although the one before it was applied. -/
theorem settings_fail_at_first_refused_second :
    let data := Data.ofTree (.mapping [(.text "a", .int 0)])
    (entriesOf? data.pool data.root).isSome ∧
      applySettings data ["a.b=1", "c"] = .error (.noEquals "c") := by
  intro data
  obtain ⟨hfault, -⟩ := @settings_fail_at_first_refused data rfl ["a.b=1", "c"]
  refine ⟨rfl, (hfault _).2 ⟨["a.b=1"], "c", [], rfl, ?_, .noEquals (by decide)⟩⟩
  intro s hs
  obtain rfl := List.mem_singleton.1 hs
  exact fun _ => not_refused_setting ⟨"a.b", "1", .int 1, by decide, rfl⟩

/-- Ones have no sign. -/
theorem splitSign_ones (n : Nat) :
    Number.splitSign (List.replicate n '1') = (false, List.replicate n '1') := by
  cases n <;> rfl

/-- More ones than the limit allows are too long to be read as a number. -/
theorem overlong_ones {n : Nat} (h : Number.digitLimit < n) :
    Overlong (List.replicate n '1') := by
  unfold Overlong
  rw [Number.isInteger_iff, splitSign_ones]
  refine ⟨⟨?_, ?_⟩, by simpa using h⟩
  · rw [Ne, List.replicate_eq_nil_iff]
    omega
  · intro c hc
    rw [List.eq_of_mem_replicate hc]
    decide +kernel

/-- A setting whose value is a number of too many digits fails, although it has an equals sign. -/
theorem overlong_setting_fails :
    let setting : Text := "k=" ++ List.replicate 4301 '1'
    '=' ∈ setting ∧
      applySettings (.ofTree (.mapping [])) [setting] = .error (.number (.tooLongToRead 4301)) := by
  intro setting
  have hlong : Overlong (List.replicate 4301 '1') := overlong_ones (by decide)
  have hname : '=' ∉ ("k" : Text) := by decide
  have hrefused := Refused.overlong hname hlong
  rw [overlongFault, splitSign_ones, List.length_replicate] at hrefused
  exact ⟨List.mem_append_left _ (by decide),
    applySettings_eq_error_iff.2 ⟨[], setting, [], rfl, by simp, hrefused⟩⟩

end CommandLine
end Stencil
