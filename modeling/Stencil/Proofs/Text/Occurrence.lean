import Stencil.Text.Basic

/-!
# Occurrences of a word

A word occurs at a position of a text when it is a prefix of what follows there.
This is the declarative reading of `Text.cut`: a cut is made exactly at the first
occurrence, and there is no cut exactly when there is no occurrence.

Main results:

- Theorem `occursAt_append_cons_iff`: a word occurs on one side of a character that it
  does not hold.
- Theorem `cut_eq_some_iff`: a cut is a factorization with no earlier occurrence.
- Theorem `cut_eq_none_iff`: without an occurrence there is no cut, and conversely.
- Theorem `firstFrom_of_cut`: cutting the rest of a text finds the first occurrence
  from there on.
- Theorems `cut_append_of_disjoint` and `count_append_of_disjoint`: text that shares no
  character with a word is passed over.
- Theorem `count_append_of_separated`: such text between two others keeps their counts
  apart.
-/

namespace Stencil
namespace Text

/-- The word stands at a position of the text. -/
def OccursAt (word t : Text) (p : Nat) : Prop :=
  word <+: t.drop p

instance (word t : Text) (p : Nat) : Decidable (OccursAt word t p) :=
  inferInstanceAs (Decidable (word <+: t.drop p))

/-- The first position from `p` on at which the word stands is `q`. -/
structure FirstFrom (word t : Text) (p q : Nat) : Prop where
  le : p ≤ q
  occurs : OccursAt word t q
  first : ∀ r, p ≤ r → r < q → ¬ OccursAt word t r

/-- There is at most one first position. -/
theorem FirstFrom.unique {word t : Text} {p q r : Nat} (hq : FirstFrom word t p q)
    (hr : FirstFrom word t p r) : q = r := by
  rcases Nat.lt_trichotomy q r with hlt | heq | hgt
  · exact absurd hq.occurs (hr.first q hq.le hlt)
  · exact heq
  · exact absurd hr.occurs (hq.first r hr.le hgt)

/-! ## Occurrences in concatenations -/

/-- Positions behind a text in front are shifted by its length. -/
@[simp]
theorem occursAt_append_add (word front t : Text) (p : Nat) :
    OccursAt word (front ++ t) (front.length + p) ↔ OccursAt word t p := by
  rw [OccursAt, List.drop_length_add_append, OccursAt]

/-- A word stands directly behind what precedes it. -/
theorem occursAt_length (word front after : Text) :
    OccursAt word (front ++ word ++ after) front.length := by
  rw [List.append_assoc]
  exact (occursAt_append_add word front (word ++ after) 0).2 ⟨after, by simp⟩

/-- A non-empty word occurs only inside the text. -/
theorem OccursAt.lt_length {word t : Text} {p : Nat} (h : OccursAt word t p)
    (hw : word ≠ []) : p < t.length := by
  have hlen := h.length_le
  have hpos := List.length_pos_iff.2 hw
  rw [List.length_drop] at hlen
  omega

/-- First positions are shifted in the same way. -/
theorem firstFrom_append_add (word front t : Text) (p q : Nat) :
    FirstFrom word (front ++ t) (front.length + p) (front.length + q) ↔
      FirstFrom word t p q := by
  constructor
  · rintro ⟨hle, hoccurs, hfirst⟩
    refine ⟨by omega, (occursAt_append_add word front t q).1 hoccurs, fun r hr hlt h => ?_⟩
    exact hfirst (front.length + r) (by omega) (by omega)
      ((occursAt_append_add word front t r).2 h)
  · rintro ⟨hle, hoccurs, hfirst⟩
    refine ⟨by omega, (occursAt_append_add word front t q).2 hoccurs, fun r hr hlt => ?_⟩
    obtain ⟨k, rfl⟩ := Nat.exists_eq_add_of_le (Nat.le_trans (Nat.le_add_right _ _) hr)
    rw [occursAt_append_add]
    exact hfirst k (by omega) (by omega)

/-- Where a word stands, the text has its characters. -/
theorem OccursAt.getElem?_add {word t : Text} {p : Nat} (h : OccursAt word t p) {k : Nat}
    (hk : k < word.length) : t[p + k]? = word[k]? := by
  obtain ⟨after, hafter⟩ := h
  rw [← List.getElem?_drop, ← hafter, List.getElem?_append_left hk]

/-- An occurrence that ends inside the first part does not depend on what follows. -/
theorem occursAt_append_of_le {word t after : Text} {p : Nat}
    (hp : p + word.length ≤ t.length) :
    OccursAt word (t ++ after) p ↔ OccursAt word t p := by
  rw [OccursAt, OccursAt, List.drop_append_of_le_length (by omega)]
  constructor
  · intro h
    exact List.prefix_of_prefix_length_le h (List.prefix_append _ _)
      (by rw [List.length_drop]; omega)
  · intro h
    exact h.trans (List.prefix_append _ _)

/-- A word that does not hold a character occurs on one side of it. -/
theorem occursAt_append_cons_iff {word a b : Text} {c : Char} (hword : word ≠ []) (hc : c ∉ word)
    {p : Nat} :
    OccursAt word (a ++ c :: b) p ↔
      OccursAt word a p ∨ ∃ k, p = (a ++ [c]).length + k ∧ OccursAt word b k := by
  have hjoin : a ++ c :: b = a ++ [c] ++ b := by simp
  constructor
  · intro h
    by_cases hp : (a ++ [c]).length ≤ p
    · obtain ⟨k, rfl⟩ := Nat.exists_eq_add_of_le hp
      rw [hjoin, occursAt_append_add] at h
      exact Or.inr ⟨k, rfl, h⟩
    · left
      have hle : p + word.length ≤ a.length := by
        refine Nat.le_of_not_lt fun hcon => ?_
        rw [List.length_append, List.length_singleton] at hp
        obtain ⟨k, hk⟩ := Nat.exists_eq_add_of_le (show p ≤ a.length by omega)
        have hsep := h.getElem?_add (show k < word.length by omega)
        rw [← hk] at hsep
        have hat : (a ++ c :: b)[a.length]? = some c := by simp
        rw [hat] at hsep
        exact hc (List.mem_of_getElem? hsep.symm)
      exact (occursAt_append_of_le hle).1 h
  · rintro (h | ⟨k, rfl, h⟩)
    · have hlt := h.lt_length hword
      have hlen := h.length_le
      rw [List.length_drop] at hlen
      exact (occursAt_append_of_le (by omega)).2 h
    · rw [hjoin, occursAt_append_add]
      exact h

/-! ## Cutting at the first occurrence -/

theorem after?_eq_none_iff {word t : Text} : after? word t = none ↔ ¬ word <+: t := by
  rw [Option.eq_none_iff_forall_ne_some]
  constructor
  · rintro h ⟨rest, hrest⟩
    exact h rest (after?_eq_some_iff.2 hrest.symm)
  · intro h rest hrest
    exact h ⟨rest, (after?_eq_some_iff.1 hrest).symm⟩

theorem cut_eq_none_iff {word t : Text} : cut word t = none ↔ ∀ p, ¬ OccursAt word t p := by
  induction t with
  | nil => simp [cut, OccursAt]
  | cons c rest ih =>
      have hsplit : (∀ p, ¬ OccursAt word (c :: rest) p) ↔
          ¬ word <+: c :: rest ∧ ∀ p, ¬ OccursAt word rest p := by
        constructor
        · intro h
          exact ⟨h 0, fun p => h (p + 1)⟩
        · rintro ⟨hzero, hsucc⟩ p
          cases p with
          | zero => exact hzero
          | succ p => exact hsucc p
      rw [hsplit, ← ih, ← after?_eq_none_iff]
      cases hafter : after? word (c :: rest) with
      | none => simp [cut, hafter]
      | some after => simp [cut, hafter]

/-- A cut is made at the first occurrence. -/
theorem not_occursAt_of_cut {word t before after : Text}
    (h : cut word t = some (before, after)) {p : Nat} (hp : p < before.length) :
    ¬ OccursAt word t p := by
  induction t generalizing before after p with
  | nil =>
      simp only [cut] at h
      split at h <;> simp_all
  | cons c rest ih =>
      simp only [cut] at h
      split at h
      · simp only [Option.some.injEq, Prod.mk.injEq] at h
        rw [← h.1] at hp
        exact absurd hp (Nat.not_lt_zero p)
      · rename_i hnone
        obtain ⟨⟨b, a⟩, hcut, heq⟩ := Option.map_eq_some_iff.1 h
        simp only [Prod.mk.injEq] at heq
        rw [← heq.1, List.length_cons] at hp
        cases p with
        | zero => exact after?_eq_none_iff.1 hnone
        | succ p => exact ih hcut (Nat.lt_of_succ_lt_succ hp)

theorem cut_eq_some_iff {word t before after : Text} :
    cut word t = some (before, after) ↔
      t = before ++ word ++ after ∧ ∀ p < before.length, ¬ OccursAt word t p := by
  constructor
  · intro h
    exact ⟨eq_of_cut h, fun p hp => not_occursAt_of_cut h hp⟩
  · rintro ⟨ht, hfirst⟩
    have hoccurs : OccursAt word t before.length := ht ▸ occursAt_length word before after
    cases hcut : cut word t with
    | none => exact absurd hoccurs (cut_eq_none_iff.1 hcut before.length)
    | some pair =>
        obtain ⟨b, a⟩ := pair
        have hb : t = b ++ word ++ a := eq_of_cut hcut
        have hlen : b.length = before.length := by
          rcases Nat.lt_trichotomy b.length before.length with hlt | heq | hgt
          · exact absurd (hb ▸ occursAt_length word b a) (hfirst b.length hlt)
          · exact heq
          · exact absurd hoccurs (not_occursAt_of_cut hcut hgt)
        have hsame : b ++ (word ++ a) = before ++ (word ++ after) := by
          rw [← List.append_assoc, ← List.append_assoc, ← hb, ← ht]
        obtain ⟨rfl, hrest⟩ := List.append_inj hsame hlen
        rw [List.append_cancel_left hrest]

/-- What follows the first occurrence has no influence on where it is. -/
theorem cut_append {word t before after more : Text}
    (h : cut word t = some (before, after)) :
    cut word (t ++ more) = some (before, after ++ more) := by
  have ht := eq_of_cut h
  refine cut_eq_some_iff.2 ⟨by simp [ht], fun p hp => ?_⟩
  have hle : p + word.length ≤ t.length := by
    simp only [ht, List.length_append]
    omega
  rw [occursAt_append_of_le hle]
  exact not_occursAt_of_cut h hp

/-- In front of the first occurrence the word does not stand by itself either. -/
theorem not_occursAt_before_of_cut {word t before after : Text} (hword : word ≠ [])
    (h : cut word t = some (before, after)) (p : Nat) : ¬ OccursAt word before p := by
  intro hoccurs
  have hlt := hoccurs.lt_length hword
  have hfits := hoccurs.length_le
  rw [List.length_drop] at hfits
  apply not_occursAt_of_cut h hlt
  rw [eq_of_cut h, List.append_assoc, occursAt_append_of_le (by omega)]
  exact hoccurs

/-- The first occurrence can be seen without what follows it. -/
theorem cut_of_append {word before after : Text}
    (h : cut word (before ++ word ++ after) = some (before, after)) :
    cut word (before ++ word) = some (before, []) := by
  refine cut_eq_some_iff.2 ⟨by simp, fun p hp hoccurs => ?_⟩
  have hle : p + word.length ≤ (before ++ word).length := by
    rw [List.length_append]
    omega
  exact not_occursAt_of_cut h hp ((occursAt_append_of_le hle).2 hoccurs)

/-- Another text may follow the first occurrence. -/
theorem cut_replace {word t before after : Text} (h : cut word t = some (before, after))
    (other : Text) : cut word (before ++ word ++ other) = some (before, other) := by
  rw [eq_of_cut h] at h
  have hcut : cut word (before ++ word ++ other) = some (before, [] ++ other) :=
    cut_append (cut_of_append h)
  rwa [List.nil_append] at hcut

/-- Cutting the rest of a text finds the first occurrence from there on. -/
theorem firstFrom_of_cut {word rest before after : Text} (front : Text)
    (h : cut word rest = some (before, after)) :
    FirstFrom word (front ++ rest) front.length (front.length + before.length) where
  le := Nat.le_add_right _ _
  occurs := by
    rw [occursAt_append_add, eq_of_cut h]
    exact occursAt_length word before after
  first := by
    intro r hr hlt
    obtain ⟨k, rfl⟩ := Nat.exists_eq_add_of_le hr
    rw [occursAt_append_add]
    exact not_occursAt_of_cut h (by omega)

/-- Without a cut of the rest of a text there is no occurrence from there on. -/
theorem not_occursAt_of_cut_eq_none {word rest : Text} (front : Text)
    (h : cut word rest = none) {p : Nat} (hp : front.length ≤ p) :
    ¬ OccursAt word (front ++ rest) p := by
  obtain ⟨k, rfl⟩ := Nat.exists_eq_add_of_le hp
  rw [occursAt_append_add]
  exact cut_eq_none_iff.1 h k

/-! ## Text that shares no character with a word -/

theorem cut_self_append (word rest : Text) : cut word (word ++ rest) = some ([], rest) :=
  cut_eq_some_iff.2 ⟨rfl, fun _ hp => absurd hp (Nat.not_lt_zero _)⟩

/-- Text in which the word does not begin is passed over when the word is cut out. -/
theorem cut_append_of_not_occursAt {word t rest : Text}
    (h : ∀ p < t.length, ¬ OccursAt word (t ++ rest) p) :
    cut word (t ++ rest) = (cut word rest).map fun (before, after) => (t ++ before, after) := by
  induction t with
  | nil => cases hcut : cut word rest <;> simp [hcut]
  | cons c t ih =>
      have hafter : after? word (c :: (t ++ rest)) = none :=
        after?_eq_none_iff.2 (h 0 (Nat.zero_lt_succ _))
      have hrest : ∀ p < t.length, ¬ OccursAt word (t ++ rest) p := by
        intro p hp
        exact h (p + 1) (Nat.succ_lt_succ hp)
      rw [List.cons_append, cut, hafter]
      dsimp only
      rw [ih hrest, Option.map_map]
      rfl

/-- A word does not begin in text without its first character. -/
theorem not_occursAt_of_head_not_mem {word t : Text} (hword : word ≠ [])
    (h : ∀ c ∈ word.head?, c ∉ t) (rest : Text) :
    ∀ p < t.length, ¬ OccursAt word (t ++ rest) p := by
  intro p hp hoccurs
  have hchar := hoccurs.getElem?_add (List.length_pos_iff.2 hword)
  rw [Nat.add_zero, List.getElem?_append_left hp, List.getElem?_eq_getElem hp,
    ← List.head?_eq_getElem?] at hchar
  exact h t[p] hchar.symm (List.getElem_mem hp)

/-- A word does not begin in text that shares no character with it. -/
theorem not_occursAt_of_disjoint {word t : Text} (hword : word ≠ []) (h : ∀ c ∈ t, c ∉ word)
    (rest : Text) : ∀ p < t.length, ¬ OccursAt word (t ++ rest) p := by
  apply not_occursAt_of_head_not_mem hword
  intro c hc hmem
  exact h c hmem (List.mem_of_mem_head? hc)

/-- Text that shares no character with a word is passed over when the word is cut out. -/
theorem cut_append_of_disjoint {word t : Text} (hword : word ≠ []) (h : ∀ c ∈ t, c ∉ word)
    (rest : Text) :
    cut word (t ++ rest) = (cut word rest).map fun (before, after) => (t ++ before, after) :=
  cut_append_of_not_occursAt (not_occursAt_of_disjoint hword h rest)

/-- The first place of a single character. -/
theorem cut_singleton_append {c : Char} {t : Text} (h : c ∉ t) (rest : Text) :
    cut [c] (t ++ c :: rest) = some (t, rest) := by
  have hcut : cut [c] (c :: rest) = some ([], rest) := cut_self_append [c] rest
  rw [cut_append_of_disjoint (by simp) _ _, hcut]
  · simp
  · intro d hd heq
    exact h (List.mem_singleton.1 heq ▸ hd)

theorem cut_singleton_eq_none {c : Char} {t : Text} (h : c ∉ t) : cut [c] t = none := by
  cases hcut : cut [c] t with
  | none => rfl
  | some pair => exact absurd (eq_of_cut hcut ▸ by simp) h

theorem count_of_cut_eq_none {word t : Text} (hword : word ≠ []) (h : cut word t = none) :
    count word t = 0 := by
  rw [count, dif_neg hword]
  split
  · rfl
  · rename_i hcut
    simp [h] at hcut

theorem count_of_cut {word t before after : Text} (hword : word ≠ [])
    (h : cut word t = some (before, after)) : count word t = count word after + 1 := by
  rw [count, dif_neg hword]
  split
  · rename_i hcut
    simp [h] at hcut
  · rename_i hcut
    rw [h] at hcut
    simp only [Option.some.injEq, Prod.mk.injEq] at hcut
    rw [hcut.2]

theorem count_nil {word : Text} (hword : word ≠ []) : count word [] = 0 :=
  count_of_cut_eq_none hword (by simp [cut, hword])

theorem count_self_append {word : Text} (hword : word ≠ []) (rest : Text) :
    count word (word ++ rest) = count word rest + 1 :=
  count_of_cut hword (cut_self_append word rest)

/-- Text that shares no character with a word does not count. -/
theorem count_append_of_disjoint {word t : Text} (hword : word ≠ []) (h : ∀ c ∈ t, c ∉ word)
    (rest : Text) : count word (t ++ rest) = count word rest := by
  have hcut := cut_append_of_disjoint hword h rest
  cases hrest : cut word rest with
  | none =>
      rw [hrest] at hcut
      rw [count_of_cut_eq_none hword hcut, count_of_cut_eq_none hword hrest]
  | some pair =>
      rw [hrest] at hcut
      rw [count_of_cut hword hcut, count_of_cut hword hrest]

/-- Where a word stands, it counts. -/
theorem count_pos_of_occursAt {word t : Text} (hword : word ≠ []) {p : Nat}
    (h : OccursAt word t p) : 0 < count word t := by
  cases hcut : cut word t with
  | none => exact absurd h (cut_eq_none_iff.1 hcut p)
  | some pair =>
      rw [count_of_cut hword hcut]
      omega

/-- A word that counts nowhere stands nowhere, and conversely. -/
theorem count_eq_zero_iff {word t : Text} (hword : word ≠ []) :
    count word t = 0 ↔ ∀ p, ¬ OccursAt word t p := by
  constructor
  · intro hzero p hoccurs
    have hpos := count_pos_of_occursAt hword hoccurs
    omega
  · intro h
    exact count_of_cut_eq_none hword (cut_eq_none_iff.2 h)

/-- The first occurrence stands on the right of a character that the word does not hold,
when there is none on its left. -/
theorem cut_append_cons_of_cut_eq_none {word a b : Text} {c : Char} (hword : word ≠ [])
    (hc : c ∉ word) (ha : cut word a = none) :
    cut word (a ++ c :: b) =
      (cut word b).map fun (before, after) => (a ++ c :: before, after) := by
  have hwhole : ∀ p, OccursAt word (a ++ c :: b) p →
      ∃ k, p = (a ++ [c]).length + k ∧ OccursAt word b k := by
    intro p hp
    rcases (occursAt_append_cons_iff hword hc).1 hp with hleft | hright
    · exact absurd hleft (cut_eq_none_iff.1 ha p)
    · exact hright
  cases hb : cut word b with
  | none =>
      rw [Option.map_none, cut_eq_none_iff]
      intro p hp
      rcases hwhole p hp with ⟨k, -, hk⟩
      exact cut_eq_none_iff.1 hb k hk
  | some pair =>
      rcases pair with ⟨before, after⟩
      rw [Option.map_some, cut_eq_some_iff]
      constructor
      · rw [eq_of_cut hb]
        simp
      · intro p hp hoccurs
        rcases hwhole p hoccurs with ⟨k, hk, hbk⟩
        apply not_occursAt_of_cut hb _ hbk
        simp only [List.length_append, List.length_cons, List.length_nil] at hp hk
        omega

/-- A character that the word does not hold keeps the counts on both sides apart. -/
theorem count_append_cons_of_not_mem {word : Text} {c : Char} (hword : word ≠ []) (hc : c ∉ word)
    (a b : Text) : count word (a ++ c :: b) = count word a + count word b := by
  induction hlen : a.length using Nat.strongRecOn generalizing a with
  | ind n ih =>
      cases ha : cut word a with
      | none =>
          have hcut := cut_append_cons_of_cut_eq_none (b := b) hword hc ha
          rw [count_of_cut_eq_none hword ha, Nat.zero_add]
          cases hb : cut word b with
          | none =>
              rw [hb] at hcut
              rw [count_of_cut_eq_none hword hcut, count_of_cut_eq_none hword hb]
          | some pair =>
              rw [hb] at hcut
              rw [count_of_cut hword hcut, count_of_cut hword hb]
      | some pair =>
          rcases pair with ⟨before, after⟩
          have hshort : after.length < n := by
            rw [← hlen]
            exact length_after_lt ha hword
          rw [count_of_cut hword ha, count_of_cut hword (cut_append ha),
            ih after.length hshort after rfl]
          omega

/-- Text that shares no character with a word keeps the counts on both sides apart. -/
theorem count_append_of_separated {word sep : Text} (hword : word ≠ []) (hsep : sep ≠ [])
    (h : ∀ c ∈ sep, c ∉ word) (a b : Text) :
    count word (a ++ (sep ++ b)) = count word a + count word b := by
  cases sep with
  | nil => exact absurd rfl hsep
  | cons c sep =>
      have hc : c ∉ word := h c List.mem_cons_self
      have hrest : ∀ x ∈ sep, x ∉ word := by
        intro x hx
        exact h x (List.mem_cons_of_mem c hx)
      rw [List.cons_append, count_append_cons_of_not_mem hword hc,
        count_append_of_disjoint hword hrest]

end Text
end Stencil
