import Stencil.Proofs.Yaml.FloatForm

/-!
# Plain scalars without a value

The form of a plain scalar shows its type, but not that it stands for a value of that type.  Words
and texts always have a value; a number may have too many digits or parts, or only the mark of its
base, and a date may be missing from the calendar.

Main results:

- Theorem `value_eq_ok_iff`: the dates and moments that exist.
- Theorem `plainKind_cases`: what the type of a plain scalar says about its form.
- Definition `Valueless`, with Theorem `readScalar_plainKind_eq_error_iff`: the plain scalars that
  raise an exception, and which one.
-/

namespace Stencil
namespace Calendar

/-! ## Dates that exist -/

variable {year month day hour minute second microsecond : Nat} {offset : Option Int}

/-- A day of the calendar. -/
def IsDay (year month day : Nat) : Prop :=
  (1 ≤ year ∧ year ≤ 9999) ∧ (1 ≤ month ∧ month ≤ 12) ∧ 1 ≤ day ∧ day ≤ daysInMonth year month

/-- A time of day, with an offset that is shorter than a day. -/
def IsTime (hour minute second : Nat) (offset : Option Int) : Prop :=
  (hour < 24 ∧ minute < 60 ∧ second < 60) ∧ ∀ n, offset = some n → n.natAbs < perDay

theorem exists_date_iff : (∃ d, Date.make year month day = .ok d) ↔ IsDay year month day := by
  unfold Date.make IsDay
  simp only [Bool.or_eq_true, decide_eq_true_eq]
  split
  · simp only [reduceCtorEq, exists_false, false_iff]
    omega
  · split
    · simp only [reduceCtorEq, exists_false, false_iff]
      omega
    · split
      · simp only [reduceCtorEq, exists_false, false_iff]
        omega
      · exact ⟨fun _ => ⟨by omega, by omega, by omega⟩, fun _ => ⟨_, rfl⟩⟩

theorem exists_checkOffset_iff :
    (∃ checked, offset.mapM checkOffset = .ok checked) ↔
      ∀ n, offset = some n → n.natAbs < perDay := by
  cases offset with
  | none => simp [pure, Except.pure]
  | some n =>
      change (∃ checked, some <$> checkOffset n = Except.ok checked) ↔ _
      unfold checkOffset
      split
      · rename_i hlong
        simpa [Functor.map, Except.map] using hlong
      · rename_i hshort
        simpa [Functor.map, Except.map] using hshort

theorem exists_moment_iff :
    (∃ m, Moment.make year month day hour minute second microsecond offset = .ok m) ↔
      IsDay year month day ∧ IsTime hour minute second offset := by
  unfold Moment.make IsTime
  rw [← exists_date_iff, ← exists_checkOffset_iff]
  constructor
  · rintro ⟨m, h⟩
    obtain ⟨checked, hchecked, h⟩ := Outcome.bind_eq_ok_iff.1 h
    obtain ⟨d, hd, h⟩ := Outcome.bind_eq_ok_iff.1 h
    refine ⟨⟨d, hd⟩, ?_, checked, hchecked⟩
    split at h
    · cases h
    · split at h
      · cases h
      · split at h
        · cases h
        · omega
  · rintro ⟨⟨d, hd⟩, ⟨hhour, hminute, hsecond⟩, checked, hchecked⟩
    rw [Outcome.bind_of_ok hchecked, Outcome.bind_of_ok hd, if_neg (by omega), if_neg (by omega),
      if_neg (by omega)]
    exact ⟨_, rfl⟩

end Calendar

namespace Yaml

variable {t : Text} {e : Raised}

/-! ## Truth values -/

theorem exists_readTruth_eq (h : isTruth t = true) : ∃ b, readTruth t = .ok (.bool b) := by
  have hall : ∀ word ∈ truthWords, ∀ t ∈ [word.1, word.1.map Char.toUpper,
      (word.1.take 1).map Char.toUpper ++ word.1.drop 1],
      (truthWords.lookup (Text.lower t)).isSome = true := by decide +kernel
  obtain ⟨word, hword, hspelling⟩ := List.any_eq_true.1 h
  have hsome := hall word hword t (by simpa [isSpelling, or_assoc] using hspelling)
  obtain ⟨b, hb⟩ := Option.isSome_iff_exists.1 hsome
  exact ⟨b, by simp only [readTruth, hb]⟩

/-! ## Dates -/

/-- The fields of a date or a moment that exists. -/
def Timestamp.Exists (s : Timestamp) : Prop :=
  let n := Number.digitsValue
  Calendar.IsDay (n s.year) (n s.month) (n s.day) ∧
    ∀ hour minute second fraction, s.time = some (hour, minute, second, fraction) →
      Calendar.IsTime (n hour) (n minute) (n second) (s.offset.map offsetOf)

theorem Timestamp.exists_value_iff {s : Timestamp} : (∃ v, s.value = .ok v) ↔ s.Exists := by
  unfold Timestamp.value Timestamp.Exists
  dsimp only
  split
  · rename_i htime
    rw [Outcome.exists_map_eq_ok_iff, Calendar.exists_date_iff, htime]
    simp
  · rename_i hour minute second fraction htime
    rw [Outcome.exists_map_eq_ok_iff, Calendar.exists_moment_iff, htime]
    constructor
    · rintro ⟨hday, htime⟩
      refine ⟨hday, fun _ _ _ _ h => ?_⟩
      cases h
      exact htime
    · rintro ⟨hday, htime⟩
      exact ⟨hday, htime hour minute second fraction rfl⟩

/-! ## Types of plain scalars -/

/-- What the type of a plain scalar says about its form. -/
theorem plainKind_cases (hend : t.getLast? ≠ some '\n') :
    plainKind t = .bool ∧ isTruth t = true ∨ plainKind t = .float ∧ isFloatForm t = true ∨
      plainKind t = .int ∧ isIntegerForm t = true ∨
      plainKind t = .timestamp ∧ isTimestampForm t = true ∨
      plainKind t ∈ [.null, .merge, .standIn, .unknown, .text] := by
  unfold plainKind dropLastBreak
  rw [if_neg hend]
  dsimp only
  split
  · simp
  · split
    · simp_all
    · split
      · simp_all
      · split
        · simp_all
        · split
          · simp
          · split
            · simp_all
            · split
              · simp
              · split
                · simp
                · simp

/-- The plain scalars that have no value of the type that their form shows, each with the exception
that it raises. -/
inductive Valueless (t : Text) : Raised → Prop where
  | integer {e : Raised} (hkind : plainKind t = .int) (h : UnreadInteger t e) : Valueless t e
  | sixties (hkind : plainKind t = .float) (h : mostParts < (Text.split ':' (dropSign t)).length) :
      Valueless t beyondFloats
  | timestamp {s : Timestamp} {fault : Calendar.Fault} (hkind : plainKind t = .timestamp)
      (hread : readTimestamp? t = some s) (hmissing : ¬ s.Exists) (h : s.value = .error fault) :
      Valueless t (.ofCalendar fault)

theorem readTimestamp_eq_error_iff (hend : t.getLast? ≠ some '\n')
    (hform : isTimestampForm t = true) :
    readTimestamp t = .error (.raised e) ↔
      ∃ s fault, readTimestamp? t = some s ∧ s.value = .error fault ∧ e = .ofCalendar fault := by
  obtain ⟨s, hs⟩ : ∃ s, readTimestamp? t = some s := by
    unfold isTimestampForm at hform
    split at hform
    · cases hform
    · exact ⟨_, ‹_›⟩
    · exact ⟨_, ‹_›⟩
  unfold readTimestamp dropLastBreak
  rw [if_neg hend, hs]
  refine Outcome.mapError_eq_error_iff.trans ?_
  simp [eq_comm]

/-- A plain scalar that ends with no line feed has a value, unless it is one of those without. -/
theorem readScalar_plainKind_eq_error_iff (hend : t.getLast? ≠ some '\n') :
    readScalar (plainKind t) t = .error (.raised e) ↔ Valueless t e := by
  obtain ⟨hkind, hform⟩ | ⟨hkind, hform⟩ | ⟨hkind, hform⟩ | ⟨hkind, hform⟩ | hkind :=
    plainKind_cases hend
  · obtain ⟨b, hb⟩ := exists_readTruth_eq hform
    rw [hkind]
    refine ⟨fun h => ?_, fun h => ?_⟩
    · cases h.symm.trans hb
    · cases h with
      | integer hother => cases hkind.symm.trans hother
      | sixties hother => cases hkind.symm.trans hother
      | timestamp hother => cases hkind.symm.trans hother
  · rw [hkind]
    refine (readFloat_eq_error_iff hform).trans ⟨?_, fun h => ?_⟩
    · rintro ⟨rfl, hlength⟩
      exact .sixties hkind hlength
    · cases h with
      | integer hother => cases hkind.symm.trans hother
      | sixties _ hlength => exact ⟨rfl, hlength⟩
      | timestamp hother => cases hkind.symm.trans hother
  · rw [hkind]
    refine (readInteger_eq_error_iff hform).trans ⟨.integer hkind, fun h => ?_⟩
    cases h with
    | integer _ hunread => exact hunread
    | sixties hother => cases hkind.symm.trans hother
    | timestamp hother => cases hkind.symm.trans hother
  · rw [hkind]
    refine (readTimestamp_eq_error_iff hend hform).trans ⟨?_, fun h => ?_⟩
    · rintro ⟨s, fault, hread, hfault, rfl⟩
      refine .timestamp hkind hread (fun hexists => ?_) hfault
      obtain ⟨v, hv⟩ := Timestamp.exists_value_iff.2 hexists
      cases hv.symm.trans hfault
    · cases h with
      | integer hother => cases hkind.symm.trans hother
      | sixties hother => cases hkind.symm.trans hother
      | timestamp _ hread _ hfault => exact ⟨_, _, hread, hfault, rfl⟩
  · have hnone : readScalar (plainKind t) t ≠ .error (.raised e) := by
      simp only [List.mem_cons, List.not_mem_nil, or_false] at hkind
      rcases hkind with hkind | hkind | hkind | hkind | hkind <;> rw [hkind] <;> nofun
    refine ⟨fun h => absurd h hnone, fun h => ?_⟩
    cases h with
    | integer hother => simp [hother] at hkind
    | sixties hother => simp [hother] at hkind
    | timestamp hother => simp [hother] at hkind

end Yaml
end Stencil
