import Stencil.Text.Basic

/-!
# Splitting and joining

Splitting at a character is inverse to joining pieces that do not hold it, and it
goes through a text piece by piece.

Main results:

- Theorem `split_append_of_not_mem`: text without the separator only extends the
  first piece of what follows.
- Theorem `split_join`: pieces without the separator survive joining and splitting.
- Theorem `split_append`: the pieces of two texts in a row.
- Definition `weld`, with Theorem `split_append_eq_weld`: two lists of pieces in a row,
  where the two pieces that meet grow together.
-/

namespace Stencil
namespace Text

variable {sep : Char}

theorem split_cons_self (sep : Char) (t : Text) : split sep (sep :: t) = [] :: split sep t := by
  simp [split]

/-- Another character belongs to the first piece. -/
theorem split_cons_of_ne {c : Char} (h : c ≠ sep) {t piece : Text} {pieces : List Text}
    (ht : split sep t = piece :: pieces) : split sep (c :: t) = (c :: piece) :: pieces := by
  simp [split, h, ht]

/-- Text without the separator extends the first piece of what follows. -/
theorem split_append_of_not_mem {a t piece : Text} {pieces : List Text} (ha : sep ∉ a)
    (ht : split sep t = piece :: pieces) : split sep (a ++ t) = (a ++ piece) :: pieces := by
  induction a with
  | nil => exact ht
  | cons c a ih =>
      rw [List.mem_cons, not_or] at ha
      exact split_cons_of_ne (Ne.symm ha.1) (ih ha.2)

/-- A text without the separator is one piece. -/
theorem split_of_not_mem {a : Text} (ha : sep ∉ a) : split sep a = [a] := by
  have := split_append_of_not_mem (t := []) ha rfl
  simpa using this

/-- What stands before the first separator is the first piece. -/
theorem split_append_sep {a : Text} (ha : sep ∉ a) (t : Text) :
    split sep (a ++ sep :: t) = a :: split sep t := by
  have := split_append_of_not_mem ha (split_cons_self sep t)
  simpa using this

/-- No piece holds the separator. -/
theorem not_mem_of_mem_split {t piece : Text} (h : piece ∈ split sep t) : sep ∉ piece := by
  induction t generalizing piece with
  | nil => simp_all [split]
  | cons c t ih =>
      by_cases hc : c = sep
      · subst hc
        rw [split_cons_self, List.mem_cons] at h
        rcases h with rfl | h
        · exact List.not_mem_nil
        · exact ih h
      · cases ht : split sep t with
        | nil => exact absurd ht (split_ne_nil sep t)
        | cons first pieces =>
            rw [split_cons_of_ne hc ht, List.mem_cons] at h
            rw [ht] at ih
            rcases h with rfl | h
            · have hfirst := ih List.mem_cons_self
              simp [hfirst, Ne.symm hc]
            · exact ih (List.mem_cons_of_mem _ h)

/-- There is one piece more than there are separators. -/
theorem length_split (sep : Char) (t : Text) : (split sep t).length = List.count sep t + 1 := by
  induction t with
  | nil => simp [split]
  | cons c t ih =>
      by_cases hc : c = sep
      · rw [hc, split_cons_self, List.length_cons, List.count_cons_self, ih]
      · rcases List.exists_cons_of_ne_nil (split_ne_nil sep t) with ⟨piece, pieces, ht⟩
        rw [split_cons_of_ne hc ht, List.count_cons_of_ne hc, ← ih, ht]
        simp

theorem join_cons_cons (sep : Char) (a b : Text) (rest : List Text) :
    join [sep] (a :: b :: rest) = a ++ sep :: join [sep] (b :: rest) := by
  simp [join, List.intercalate, List.intersperse]

theorem join_singleton (sep : Char) (a : Text) : join [sep] [a] = a := by
  simp [join, List.intercalate, List.intersperse]

/-- Joining brings in no character but the separator. -/
theorem mem_join {c : Char} (hc : c ≠ sep) {pieces : List Text} :
    c ∈ join [sep] pieces ↔ ∃ piece ∈ pieces, c ∈ piece := by
  induction pieces with
  | nil => simp [join, List.intercalate]
  | cons a rest ih =>
      cases rest with
      | nil => simp [join_singleton]
      | cons b rest =>
          rw [join_cons_cons, List.mem_append, List.mem_cons, ih]
          simp [hc]

/-- Pieces without the separator survive joining and splitting. -/
theorem split_join {pieces : List Text} (hne : pieces ≠ [])
    (h : ∀ piece ∈ pieces, sep ∉ piece) : split sep (join [sep] pieces) = pieces := by
  induction pieces with
  | nil => exact absurd rfl hne
  | cons a rest ih =>
      have ha := h a List.mem_cons_self
      cases rest with
      | nil => rw [join_singleton, split_of_not_mem ha]
      | cons b rest =>
          rw [join_cons_cons, split_append_sep ha,
            ih (by simp) fun piece hp => h piece (List.mem_cons_of_mem _ hp)]

/-- Pieces have no characters but those of the text. -/
theorem mem_of_mem_split {c : Char} {t piece : Text} (hpiece : piece ∈ split sep t)
    (hc : c ∈ piece) : c ∈ t := by
  have hne : c ≠ sep := fun heq => not_mem_of_mem_split hpiece (heq ▸ hc)
  rw [← join_split sep t, mem_join hne]
  exact ⟨piece, hpiece, hc⟩

/-- The pieces of two texts in a row: the last piece of the first text and the first piece
of the second one grow together. -/
theorem split_append (sep : Char) (a b : Text) :
    ∃ before last first after, split sep a = before ++ [last] ∧ split sep b = first :: after ∧
      split sep (a ++ b) = before ++ (last ++ first) :: after := by
  induction a with
  | nil =>
      obtain ⟨first, after, hb⟩ := List.exists_cons_of_ne_nil (split_ne_nil sep b)
      exact ⟨[], [], first, after, rfl, hb, hb⟩
  | cons c a ih =>
      obtain ⟨before, last, first, after, ha, hb, hab⟩ := ih
      by_cases hc : c = sep
      · subst hc
        refine ⟨[] :: before, last, first, after, ?_, hb, ?_⟩
        · rw [split_cons_self, ha]
          rfl
        · rw [List.cons_append, split_cons_self, hab]
          rfl
      · cases before with
        | nil =>
            exact ⟨[], c :: last, first, after, split_cons_of_ne hc ha, hb, split_cons_of_ne hc hab⟩
        | cons front before =>
            exact ⟨(c :: front) :: before, last, first, after, split_cons_of_ne hc ha, hb,
              split_cons_of_ne hc hab⟩

/-- The pieces on both sides of a separator. -/
theorem split_append_cons_self (sep : Char) (a b : Text) :
    split sep (a ++ sep :: b) = split sep a ++ split sep b := by
  obtain ⟨before, last, first, after, ha, hb, hab⟩ := split_append sep a (sep :: b)
  rw [split_cons_self] at hb
  obtain ⟨rfl, rfl⟩ := List.cons.inj hb
  rw [hab, ha]
  simp

/-! ## Pieces that grow together -/

section Weld

variable {α β : Type}

/-- Two lists of pieces in a row: the last piece of the first list and the first piece of the
second one grow together. -/
def weld (xs ys : List (List α)) : List (List α) :=
  xs.dropLast ++ (xs.getLast?.getD [] ++ ys.head?.getD []) :: ys.tail

/-- The last piece and the first one of the next list become one. -/
theorem weld_concat_cons (before after : List (List α)) (last first : List α) :
    weld (before ++ [last]) (first :: after) = before ++ (last ++ first) :: after := by
  simp [weld]

theorem weld_singleton_cons (last first : List α) (after : List (List α)) :
    weld [last] (first :: after) = (last ++ first) :: after := by
  simp [weld]

/-- Pieces before the last one are left alone. -/
theorem weld_cons {xs : List (List α)} (hxs : xs ≠ []) (x : List α) (ys : List (List α)) :
    weld (x :: xs) ys = x :: weld xs ys := by
  cases xs with
  | nil => exact absurd rfl hxs
  | cons x' xs => simp [weld]

theorem weld_ne_nil (xs ys : List (List α)) : weld xs ys ≠ [] := by
  simp [weld]

theorem nil_weld {ys : List (List α)} (hys : ys ≠ []) : weld [[]] ys = ys := by
  cases ys with
  | nil => exact absurd rfl hys
  | cons y ys => simp [weld]

/-- Pieces after the first one are left alone. -/
theorem weld_append {ys : List (List α)} (hys : ys ≠ []) (xs zs : List (List α)) :
    weld xs (ys ++ zs) = weld xs ys ++ zs := by
  cases ys with
  | nil => exact absurd rfl hys
  | cons y ys => simp [weld]

theorem append_weld {ys : List (List α)} (hys : ys ≠ []) (xs zs : List (List α)) :
    weld (xs ++ ys) zs = xs ++ weld ys zs := by
  induction xs with
  | nil => rfl
  | cons x xs ih =>
      have hne : xs ++ ys ≠ [] := by simp [hys]
      rw [List.cons_append, weld_cons hne, ih, List.cons_append]

/-- Welding loses nothing. -/
theorem flatten_weld (xs ys : List (List α)) : (weld xs ys).flatten = xs.flatten ++ ys.flatten := by
  have hys : ys.head?.getD [] ++ ys.tail.flatten = ys.flatten := by cases ys <;> simp
  have hxs : xs.dropLast.flatten ++ xs.getLast?.getD [] = xs.flatten := by
    rcases List.eq_nil_or_concat xs with rfl | ⟨before, last, rfl⟩ <;> simp
  rw [weld, List.flatten_append, List.flatten_cons, ← hys, ← hxs]
  simp

/-- What makes one text of a piece makes as many texts of the whole, when it goes through a
piece part by part. -/
theorem map_weld {f : List α → List β} (hnil : f [] = [])
    (happend : ∀ x y, f (x ++ y) = f x ++ f y) (xs ys : List (List α)) :
    (weld xs ys).map f = weld (xs.map f) (ys.map f) := by
  have hlast : f (xs.getLast?.getD []) = (xs.map f).getLast?.getD [] := by
    cases h : xs.getLast? <;> simp [h, hnil]
  have hfirst : f (ys.head?.getD []) = (ys.map f).headD [] := by
    cases ys <;> simp [hnil]
  simp [weld, happend, hlast, hfirst]

end Weld

/-- The pieces of two texts in a row are their pieces in a row. -/
theorem split_append_eq_weld (sep : Char) (a b : Text) :
    split sep (a ++ b) = weld (split sep a) (split sep b) := by
  rcases split_append sep a b with ⟨before, last, first, after, ha, hb, hab⟩
  rw [hab, ha, hb, weld_concat_cons]

/-- Pieces that grow together, all split once more. -/
theorem flatMap_split_weld (sep : Char) {xs ys : List Text} (hxs : xs ≠ []) (hys : ys ≠ []) :
    (weld xs ys).flatMap (split sep) =
      weld (xs.flatMap (split sep)) (ys.flatMap (split sep)) := by
  rcases List.eq_nil_or_concat xs with rfl | ⟨before, last, rfl⟩
  · exact absurd rfl hxs
  · rcases List.exists_cons_of_ne_nil hys with ⟨first, after, rfl⟩
    have hlast := split_ne_nil sep last
    have hfirst := split_ne_nil sep first
    have hjoined : split sep last ++ [] ≠ [] := by simp [hlast]
    rw [List.concat_eq_append, weld_concat_cons, List.flatMap_append, List.flatMap_append,
      List.flatMap_cons, List.flatMap_cons, List.flatMap_cons, List.flatMap_nil,
      split_append_eq_weld, append_weld hjoined, List.append_nil, weld_append hfirst]

/-- Pieces without the separator are not split any further. -/
theorem flatMap_split_of_not_mem {pieces : List Text} (h : ∀ piece ∈ pieces, sep ∉ piece) :
    pieces.flatMap (split sep) = pieces := by
  induction pieces with
  | nil => rfl
  | cons piece pieces ih =>
      rcases List.forall_mem_cons.1 h with ⟨hpiece, hrest⟩
      rw [List.flatMap_cons, split_of_not_mem hpiece, ih hrest, List.singleton_append]

end Text
end Stencil
