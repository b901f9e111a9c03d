import Mathlib.Data.List.Nodup
import Stencil.Render.Cache

/-!
# Entries of a cache

Looking at a cache, using an entry and writing one never bring up an entry that was not
there or is not the one written.  So what holds of every entry that is written holds of
every entry that is found.

Main results:

- Theorem `mem_of_find?`: what is found under a key is an entry.
- Theorem `mem_touch`: a use changes the order only.
- Theorem `mem_of_mem_write`: after writing there are old entries and the new one.
- Theorems `nodup_keys_touch` and `nodup_keys_write`: no key ever has two entries.
- Theorem `size_write_le`: a bounded cache never has too many entries.
- Theorem `entries_write_of_not_mem`: an unbounded cache adds a new entry at the end.
- Theorems `find?_touch` and `mem_write_self`: what is found after a use, and after writing.
- Theorems `find?_write_self` and `find?_write_of_ne`: an unbounded cache has what was
  written, and all that it had under other keys.
-/

namespace Stencil
namespace Render
namespace Cache

variable {κ ν : Type} {c : Cache κ ν} {key : κ} {value : ν} {e : κ × ν}

/-- Nothing is kept that was not there. -/
theorem mem_of_mem_kept {policy : Policy} {entries : List (κ × ν)}
    (h : e ∈ kept policy entries) : e ∈ entries := by
  cases policy with
  | keepAll => exact h
  | keepRecent limit => exact List.mem_of_mem_drop h

variable [BEq κ]

/-- What is found under a key is an entry. -/
theorem mem_of_find? [LawfulBEq κ] (h : c.find? key = some value) : (key, value) ∈ c.entries := by
  obtain ⟨before, after, hentries, -⟩ := List.lookup_eq_some_iff.1 h
  rw [hentries]
  simp

/-- An entry that is moved stays. -/
theorem mem_moveToEnd {entries : List (κ × ν)} : e ∈ moveToEnd key entries ↔ e ∈ entries := by
  induction entries with
  | nil => rfl
  | cons first rest ih =>
      rw [moveToEnd]
      split
      · rw [List.mem_append, List.mem_singleton, List.mem_cons, or_comm]
      · rw [List.mem_cons, List.mem_cons, ih]

/-- The use of an entry changes the order only. -/
theorem mem_touch : e ∈ (c.touch key).entries ↔ e ∈ c.entries := by
  unfold touch
  cases c.policy with
  | keepAll => rfl
  | keepRecent limit => exact mem_moveToEnd

/-- Overwriting brings up the new value only. -/
theorem mem_of_mem_overwrite [LawfulBEq κ] {entries : List (κ × ν)}
    (h : e ∈ overwrite key value entries) : e ∈ entries ∨ e = (key, value) := by
  induction entries with
  | nil => exact Or.inr (List.mem_singleton.1 h)
  | cons first rest ih =>
      obtain ⟨k, v⟩ := first
      rw [overwrite] at h
      split at h
      · rename_i hkey
        rcases List.mem_cons.1 h with rfl | hrest
        · exact Or.inr (by rw [eq_of_beq hkey])
        · exact Or.inl (List.mem_cons_of_mem _ hrest)
      · rcases List.mem_cons.1 h with rfl | hrest
        · exact Or.inl (List.mem_cons_self ..)
        · exact (ih hrest).imp_left (List.mem_cons_of_mem _)

/-- After writing there are old entries and the new one. -/
theorem mem_of_mem_write [LawfulBEq κ] (h : e ∈ (c.write key value).entries) :
    e ∈ c.entries ∨ e = (key, value) :=
  mem_of_mem_overwrite (mem_of_mem_kept h)

/-! ## Keys -/

/-- The keys of the entries, in their order. -/
def keys (c : Cache κ ν) : List κ := c.entries.map Prod.fst

omit [BEq κ] in
theorem mem_keys {k : κ} : k ∈ c.keys ↔ ∃ v, (k, v) ∈ c.entries := by
  simp [keys]

/-- Nothing is found under the keys that are not there, and only under those. -/
theorem find?_eq_none_iff [LawfulBEq κ] : c.find? key = none ↔ key ∉ c.keys := by
  rw [find?, List.lookup_eq_none_iff, keys, List.mem_map]
  constructor
  · rintro h ⟨e, he, rfl⟩
    simpa using h e he
  · intro h e he
    rw [bne_iff_ne]
    rintro rfl
    exact h ⟨e, he, rfl⟩

theorem moveToEnd_perm (key : κ) (entries : List (κ × ν)) :
    (moveToEnd key entries).Perm entries := by
  induction entries with
  | nil => exact List.Perm.refl _
  | cons first rest ih =>
      rw [moveToEnd]
      split
      · exact List.perm_append_singleton _ _
      · exact ih.cons _

/-- A use reorders the entries. -/
theorem touch_perm (key : κ) (c : Cache κ ν) : (c.touch key).entries.Perm c.entries := by
  unfold touch
  cases c.policy with
  | keepAll => exact List.Perm.refl _
  | keepRecent limit => exact moveToEnd_perm key c.entries

theorem nodup_keys_touch (h : c.keys.Nodup) : (c.touch key).keys.Nodup :=
  ((touch_perm key c).map Prod.fst).nodup_iff.2 h

theorem mem_keys_touch {k : κ} : k ∈ (c.touch key).keys ↔ k ∈ c.keys :=
  ((touch_perm key c).map Prod.fst).mem_iff

theorem size_touch (key : κ) (c : Cache κ ν) : (c.touch key).size = c.size :=
  (touch_perm key c).length_eq

/-- A new key goes to the end. -/
theorem overwrite_of_not_mem [LawfulBEq κ] {entries : List (κ × ν)}
    (h : key ∉ entries.map Prod.fst) : overwrite key value entries = entries ++ [(key, value)] := by
  induction entries with
  | nil => rfl
  | cons first rest ih =>
      obtain ⟨k, v⟩ := first
      rw [List.map_cons, List.mem_cons, not_or] at h
      rw [overwrite, if_neg (by simpa using h.1), ih h.2, List.cons_append]

/-- A key that is there keeps its place. -/
theorem keys_overwrite_of_mem [LawfulBEq κ] {entries : List (κ × ν)}
    (h : key ∈ entries.map Prod.fst) :
    (overwrite key value entries).map Prod.fst = entries.map Prod.fst := by
  induction entries with
  | nil => simp at h
  | cons first rest ih =>
      obtain ⟨k, v⟩ := first
      rw [overwrite]
      by_cases hkey : key = k
      · simp [hkey]
      · rw [List.map_cons, List.mem_cons] at h
        rw [if_neg (by simpa using hkey), List.map_cons, List.map_cons,
          ih (h.resolve_left hkey)]

/-- Writing gives no key a second entry. -/
theorem nodup_keys_write [LawfulBEq κ] (h : c.keys.Nodup) : (c.write key value).keys.Nodup := by
  have hoverwrite : ((overwrite key value c.entries).map Prod.fst).Nodup := by
    by_cases hkey : key ∈ c.keys
    · rw [keys_overwrite_of_mem hkey]
      exact h
    · rw [overwrite_of_not_mem hkey, List.map_append]
      refine List.nodup_append.2 ⟨h, by simp, fun k hk k' hk' heq => ?_⟩
      obtain rfl : k' = key := by simpa using hk'
      exact hkey (heq ▸ hk)
  unfold keys write kept
  cases c.policy with
  | keepAll => exact hoverwrite
  | keepRecent limit => exact hoverwrite.sublist ((List.drop_sublist _ _).map _)

/-- A bounded cache never has too many entries. -/
theorem size_write_le {limit : Nat} (h : c.policy = .keepRecent limit) :
    (c.write key value).size ≤ limit := by
  unfold size write kept
  rw [h, List.length_drop]
  omega

/-- An unbounded cache adds a new entry at the end. -/
theorem entries_write_of_not_mem [LawfulBEq κ] (hpolicy : c.policy = .keepAll)
    (h : key ∉ c.keys) : (c.write key value).entries = c.entries ++ [(key, value)] := by
  unfold write kept
  rw [hpolicy]
  exact overwrite_of_not_mem h

/-- Where no key has two entries, an entry is what is found under its key. -/
theorem find?_eq_some_iff [LawfulBEq κ] (h : c.keys.Nodup) :
    c.find? key = some value ↔ (key, value) ∈ c.entries := by
  constructor
  · exact mem_of_find?
  · intro hmem
    cases hfind : c.find? key with
    | none => exact absurd (mem_keys.2 ⟨value, hmem⟩) (find?_eq_none_iff.1 hfind)
    | some found =>
        have hsame := List.inj_on_of_nodup_map h (mem_of_find? hfind) hmem rfl
        rw [(Prod.mk.inj hsame).2]

/-- A use changes nothing of what is found. -/
theorem find?_touch [LawfulBEq κ] (h : c.keys.Nodup) (k : κ) :
    (c.touch key).find? k = c.find? k := by
  ext value
  rw [find?_eq_some_iff (nodup_keys_touch h), find?_eq_some_iff h, mem_touch]

/-- A new entry is kept, if only one entry is. -/
theorem mem_write_self [LawfulBEq κ] (h : key ∉ c.keys)
    (hlimit : ∀ n, c.policy = .keepRecent n → 1 ≤ n) :
    (key, value) ∈ (c.write key value).entries := by
  unfold write
  rw [overwrite_of_not_mem h]
  cases hpolicy : c.policy with
  | keepAll => simp [kept]
  | keepRecent limit =>
      have hpos := hlimit limit hpolicy
      rw [kept, List.drop_append_of_le_length (by simp; omega)]
      simp

/-! ## Unbounded caches -/

/-- An unbounded cache takes no notice of uses. -/
theorem touch_of_keepAll (h : c.policy = .keepAll) (key : κ) : c.touch key = c := by
  unfold touch
  rw [h]

/-- The value that was written is found. -/
theorem lookup_overwrite_self [LawfulBEq κ] (entries : List (κ × ν)) :
    (overwrite key value entries).lookup key = some value := by
  induction entries with
  | nil => simp [overwrite]
  | cons first rest ih =>
      obtain ⟨k, v⟩ := first
      rw [overwrite]
      by_cases hkey : key = k
      · simp [hkey]
      · simp [ih, List.lookup_cons, beq_false_of_ne hkey]

/-- Other keys keep their values. -/
theorem lookup_overwrite_of_ne [LawfulBEq κ] {k : κ} (h : k ≠ key) (entries : List (κ × ν)) :
    (overwrite key value entries).lookup k = entries.lookup k := by
  induction entries with
  | nil => simp [overwrite, List.lookup_cons, beq_false_of_ne h]
  | cons first rest ih =>
      obtain ⟨k', v⟩ := first
      rw [overwrite]
      by_cases hkey : key = k'
      · subst hkey
        simp [List.lookup_cons, beq_false_of_ne h]
      · simp [hkey, List.lookup_cons, ih]

/-- An unbounded cache has what was written. -/
theorem find?_write_self [LawfulBEq κ] (h : c.policy = .keepAll) :
    (c.write key value).find? key = some value := by
  unfold find? write kept
  rw [h]
  exact lookup_overwrite_self c.entries

/-- An unbounded cache still has what is under other keys. -/
theorem find?_write_of_ne [LawfulBEq κ] (h : c.policy = .keepAll) {k : κ} (hk : k ≠ key) :
    (c.write key value).find? k = c.find? k := by
  unfold find? write kept
  rw [h]
  exact lookup_overwrite_of_ne hk c.entries

end Cache
end Render
end Stencil
