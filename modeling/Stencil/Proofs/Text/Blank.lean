import Mathlib.Data.List.TakeWhile
import Stencil.Text.Blank
import Stencil.Text.Word

/-!
# Blanks and words

No blank is a word character: the tables of both lie apart, range by range.  So blanks around a
text without blanks are what trimming takes away, and nothing else.

Main results:

- Theorem `isWord_eq_false_of_isBlank`: blanks are no word characters.
- Theorem `exists_eq_append_trim`: trimming takes away blanks only.
- Theorem `trim_append`: blanks around a text without blanks are taken away.
-/

namespace Stencil
namespace Text

variable {c : Char} {t before after : Text}

/-! ## Tables that lie apart -/

namespace Ranges

variable {table other : Ranges}

theorem holds_iff : table.holds c = true ↔ ∃ r ∈ table, r.1 ≤ c.toNat ∧ c.toNat ≤ r.2 := by
  simp [holds]

/-- Whether no range of one table meets a range of the other one. -/
def apart (table other : Ranges) : Bool :=
  table.all fun r => other.all fun s => r.2 < s.1 || s.2 < r.1

theorem holds_eq_false_of_apart (h : table.apart other = true) (hc : table.holds c = true) :
    other.holds c = false := by
  rcases holds_iff.1 hc with ⟨r, hr, hfirst, hlast⟩
  rw [← Bool.not_eq_true, holds_iff]
  rintro ⟨s, hs, hfirst', hlast'⟩
  have hapart := List.all_eq_true.1 (List.all_eq_true.1 h r hr) s hs
  simp only [Bool.or_eq_true, decide_eq_true_eq] at hapart
  omega

end Ranges

/-- The letters and digits of ASCII, and the low line. -/
def plainWords : Ranges := [(0x30, 0x39), (0x41, 0x5A), (0x5F, 0x5F), (0x61, 0x7A)]

theorem holds_plainWords_of_isAlphanum (h : c.isAlphanum = true) : plainWords.holds c = true := by
  have hupper (h : c.isUpper = true) : 65 ≤ c.toNat ∧ c.toNat ≤ 90 := of_decide_eq_true h
  have hlower (h : c.isLower = true) : 97 ≤ c.toNat ∧ c.toNat ≤ 122 := by
    rcases Bool.and_eq_true_iff.1 h with ⟨hfirst, hlast⟩
    exact ⟨of_decide_eq_true hfirst, of_decide_eq_true hlast⟩
  have hdigit (h : c.isDigit = true) : 48 ≤ c.toNat ∧ c.toNat ≤ 57 := by
    simpa [Char.isDigit, UInt32.le_iff_toNat_le] using h
  have hclass : (c.isUpper = true ∨ c.isLower = true) ∨ c.isDigit = true := by
    rw [← Bool.or_eq_true, ← Bool.or_eq_true]
    exact h
  rw [Ranges.holds_iff]
  rcases hclass with (h | h) | h
  · exact ⟨(0x41, 0x5A), by simp [plainWords], hupper h⟩
  · exact ⟨(0x61, 0x7A), by simp [plainWords], hlower h⟩
  · exact ⟨(0x30, 0x39), by simp [plainWords], hdigit h⟩

/-- A word character stands in one of two tables. -/
theorem holds_of_isWord (h : isWord c = true) :
    plainWords.holds c = true ∨ foreignWords.holds c = true := by
  simp only [isWord, Bool.or_eq_true, beq_iff_eq] at h
  rcases h with (halphanum | rfl) | hforeign
  · exact Or.inl (holds_plainWords_of_isAlphanum halphanum)
  · exact Or.inl (by decide)
  · exact Or.inr hforeign

theorem isWord_eq_false_of_isBlank (h : isBlank c = true) : isWord c = false := by
  have hplain : plainWords.holds c = false :=
    Ranges.holds_eq_false_of_apart (by decide +kernel) h
  have hforeign : foreignWords.holds c = false :=
    Ranges.holds_eq_false_of_apart (by decide +kernel) h
  rw [← Bool.not_eq_true]
  intro hword
  rcases holds_of_isWord hword with hholds | hholds
  · rw [hplain] at hholds
    cases hholds
  · rw [hforeign] at hholds
    cases hholds

/-! ## Trimming -/

/-- Trimming takes away blanks only. -/
theorem exists_eq_append_trim (t : Text) : ∃ before after, t = before ++ trim t ++ after ∧
    (∀ c ∈ before, isBlank c = true) ∧ ∀ c ∈ after, isBlank c = true := by
  let inner := t.dropWhile isBlank
  have hfront : t.takeWhile isBlank ++ inner = t := List.takeWhile_append_dropWhile
  have hback : trim t ++ (inner.reverse.takeWhile isBlank).reverse = inner := by
    rw [trim, trimBoth, trimEnd, ← List.reverse_append, List.takeWhile_append_dropWhile,
      List.reverse_reverse]
  refine ⟨t.takeWhile isBlank, (inner.reverse.takeWhile isBlank).reverse, ?_, ?_, ?_⟩
  · rw [List.append_assoc, hback, hfront]
  · intro c hc
    exact List.mem_takeWhile_imp hc
  · intro c hc
    exact List.mem_takeWhile_imp (List.mem_reverse.1 hc)

/-- Blanks around a text without blanks are taken away. -/
theorem trim_append (hbefore : ∀ c ∈ before, isBlank c = true)
    (hafter : ∀ c ∈ after, isBlank c = true) (hne : t ≠ []) (ht : ∀ c ∈ t, isBlank c = false) :
    trim (before ++ t ++ after) = t := by
  have hfront : (before ++ t ++ after).dropWhile isBlank = t ++ after := by
    rcases List.exists_cons_of_ne_nil hne with ⟨c, rest, rfl⟩
    have hc := ht c List.mem_cons_self
    rw [List.append_assoc, List.dropWhile_append_of_pos hbefore, List.cons_append,
      List.dropWhile_cons_of_neg (by simp [hc])]
  have hback : (t ++ after).reverse.dropWhile isBlank = t.reverse := by
    have hreverse : ∀ c ∈ after.reverse, isBlank c = true := by
      intro c hc
      exact hafter c (List.mem_reverse.1 hc)
    rcases List.exists_cons_of_ne_nil (List.reverse_ne_nil_iff.2 hne) with ⟨c, rest, hrev⟩
    have hc : isBlank c = false := ht c (List.mem_reverse.1 (hrev ▸ List.mem_cons_self))
    rw [List.reverse_append, List.dropWhile_append_of_pos hreverse, hrev,
      List.dropWhile_cons_of_neg (by simp [hc])]
  rw [trim, trimBoth, trimEnd, hfront, hback, List.reverse_reverse]

end Text
end Stencil
