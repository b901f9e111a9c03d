import Mathlib.Data.List.Forall2
import Stencil.Proofs.Text.Occurrence
import Stencil.Proofs.Text.Splitting

/-!
# Texts that differ in their filling

Two texts are alike for a class of fixed characters when they are equal but for their filling:
where one has a run of other characters, the other one may have any other such run, but never
none.  A word of fixed characters cannot tell them apart.  It is found at the same places among
the fixed characters, so that it is cut out and counted alike.

Main results:

- Relation `Alike`: texts that differ in their filling.
- Theorem `Alike.cut_cases`: a word is cut out of both texts or of none.
- Theorem `Alike.count_eq`: a word counts alike.
- Theorem `Alike.forall₂_lines`: the lines are alike one by one.
-/

namespace Stencil
namespace Text

/-- Texts that are equal but for runs of characters that are not fixed. -/
inductive Alike (fixed : Char → Prop) : Text → Text → Prop
  | nil : Alike fixed [] []
  | cons {t t' : Text} (c : Char) (h : Alike fixed t t') : Alike fixed (c :: t) (c :: t')
  | filling {run run' t t' : Text} (hne : run ≠ []) (hne' : run' ≠ [])
      (hrun : ∀ c ∈ run, ¬ fixed c) (hrun' : ∀ c ∈ run', ¬ fixed c) (h : Alike fixed t t') :
      Alike fixed (run ++ t) (run' ++ t')

namespace Alike

variable {fixed : Char → Prop} {t t' u u' word : Text}

theorem refl (fixed : Char → Prop) (t : Text) : Alike fixed t t := by
  induction t with
  | nil => exact .nil
  | cons c t ih => exact .cons c ih

theorem append (h : Alike fixed t t') (hu : Alike fixed u u') :
    Alike fixed (t ++ u) (t' ++ u') := by
  induction h with
  | nil => exact hu
  | cons c h ih => exact .cons c ih
  | filling hne hne' hrun hrun' h ih =>
      rw [List.append_assoc, List.append_assoc]
      exact .filling hne hne' hrun hrun' ih

/-- The fixed characters are the same. -/
theorem mem_iff (h : Alike fixed t t') {c : Char} (hc : fixed c) : c ∈ t ↔ c ∈ t' := by
  induction h with
  | nil => rfl
  | cons b h ih => rw [List.mem_cons, List.mem_cons, ih]
  | filling hne hne' hrun hrun' h ih =>
      have hrun : c ∉ _ := fun hmem => hrun c hmem hc
      have hrun' : c ∉ _ := fun hmem => hrun' c hmem hc
      rw [List.mem_append, List.mem_append, or_iff_right hrun, or_iff_right hrun', ih]

/-! ## Words -/

/-- A word of fixed characters stands at the beginning of both texts or of none. -/
theorem after?_cases (h : Alike fixed t t') (hword : ∀ c ∈ word, fixed c) :
    (after? word t = none ∧ after? word t' = none) ∨
      ∃ rest rest', after? word t = some rest ∧ after? word t' = some rest' ∧
        Alike fixed rest rest' := by
  induction word generalizing t t' with
  | nil => exact Or.inr ⟨t, t', rfl, rfl, h⟩
  | cons w word ih =>
      rcases List.forall_mem_cons.1 hword with ⟨hw, hword⟩
      cases h with
      | nil => exact Or.inl ⟨rfl, rfl⟩
      | cons c h =>
          by_cases hwc : w = c
          · simpa [after?, hwc] using ih h hword
          · simp [after?, hwc]
      | @filling run run' t t' hne hne' hrun hrun' h =>
          rcases List.exists_cons_of_ne_nil hne with ⟨c, run, rfl⟩
          rcases List.exists_cons_of_ne_nil hne' with ⟨c', run', rfl⟩
          have hwc : w ≠ c := by
            rintro rfl
            exact hrun w List.mem_cons_self hw
          have hwc' : w ≠ c' := by
            rintro rfl
            exact hrun' w List.mem_cons_self hw
          simp [after?, hwc, hwc']

/-- A word of fixed characters is cut out of both texts or of none, and what stands in front of it
and behind it is alike. -/
theorem cut_cases (h : Alike fixed t t') (hne : word ≠ []) (hword : ∀ c ∈ word, fixed c) :
    (cut word t = none ∧ cut word t' = none) ∨
      ∃ before after before' after', cut word t = some (before, after) ∧
        cut word t' = some (before', after') ∧ Alike fixed before before' ∧
        Alike fixed after after' := by
  induction h with
  | nil => simp [cut, hne]
  | @cons t t' c h ih =>
      rcases (Alike.cons c h).after?_cases hword with
        ⟨hnone, hnone'⟩ | ⟨rest, rest', hat, hat', hrest⟩
      · rcases ih with
          ⟨hcut, hcut'⟩ | ⟨before, after, before', after', hcut, hcut', hbefore, hafter⟩
        · simp [cut, hnone, hnone', hcut, hcut']
        · right
          refine ⟨c :: before, after, c :: before', after', ?_, ?_, .cons c hbefore, hafter⟩
          · simp [cut, hnone, hcut]
          · simp [cut, hnone', hcut']
      · right
        refine ⟨[], rest, [], rest', ?_, ?_, .nil, hrest⟩
        · simp [cut, hat]
        · simp [cut, hat']
  | @filling run run' t t' hrunNe hrunNe' hrun hrun' h ih =>
      have hskip : ∀ c ∈ run, c ∉ word := fun c hc hmem => hrun c hc (hword c hmem)
      have hskip' : ∀ c ∈ run', c ∉ word := fun c hc hmem => hrun' c hc (hword c hmem)
      rw [cut_append_of_disjoint hne hskip, cut_append_of_disjoint hne hskip']
      rcases ih with
        ⟨hcut, hcut'⟩ | ⟨before, after, before', after', hcut, hcut', hbefore, hafter⟩
      · simp [hcut, hcut']
      · right
        refine ⟨run ++ before, after, run' ++ before', after', ?_, ?_, ?_, hafter⟩
        · simp [hcut]
        · simp [hcut']
        · exact .filling hrunNe hrunNe' hrun hrun' hbefore

/-- A word of fixed characters counts alike. -/
theorem count_eq (h : Alike fixed t t') (hne : word ≠ []) (hword : ∀ c ∈ word, fixed c) :
    count word t = count word t' := by
  induction hlen : t.length using Nat.strongRecOn generalizing t t' with
  | ind n ih =>
      rcases h.cut_cases hne hword with
        ⟨hcut, hcut'⟩ | ⟨before, after, before', after', hcut, hcut', -, hafter⟩
      · rw [count_of_cut_eq_none hne hcut, count_of_cut_eq_none hne hcut']
      · have hshort : after.length < n := by
          rw [← hlen]
          exact length_after_lt hcut hne
        rw [count_of_cut hne hcut, count_of_cut hne hcut', ih after.length hshort hafter rfl]

/-! ## Lines -/

/-- Where line feeds are fixed, the lines are alike one by one. -/
theorem forall₂_lines (h : Alike fixed t t') (hfeed : fixed '\n') :
    List.Forall₂ (Alike fixed) (lines t) (lines t') := by
  induction h with
  | nil => exact .cons .nil .nil
  | @cons t t' c h ih =>
      by_cases hc : c = '\n'
      · subst hc
        rw [lines, lines, split_cons_self, split_cons_self]
        exact .cons .nil ih
      · rcases List.exists_cons_of_ne_nil (split_ne_nil '\n' t) with ⟨line, rest, ht⟩
        rcases List.exists_cons_of_ne_nil (split_ne_nil '\n' t') with ⟨line', rest', ht'⟩
        rw [lines, lines, ht, ht', List.forall₂_cons] at ih
        rw [lines, lines, split_cons_of_ne hc ht, split_cons_of_ne hc ht']
        exact .cons (.cons c ih.1) ih.2
  | @filling run run' t t' hne hne' hrun hrun' h ih =>
      rcases List.exists_cons_of_ne_nil (split_ne_nil '\n' t) with ⟨line, rest, ht⟩
      rcases List.exists_cons_of_ne_nil (split_ne_nil '\n' t') with ⟨line', rest', ht'⟩
      have hflat : '\n' ∉ run := fun hmem => hrun '\n' hmem hfeed
      have hflat' : '\n' ∉ run' := fun hmem => hrun' '\n' hmem hfeed
      rw [lines, lines, ht, ht', List.forall₂_cons] at ih
      rw [lines, lines, split_append_of_not_mem hflat ht, split_append_of_not_mem hflat' ht']
      exact .cons (.filling hne hne' hrun hrun' ih.1) ih.2

end Alike
end Text
end Stencil
