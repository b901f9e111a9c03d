import Mathlib.Data.List.Forall2
import Stencil.Value.Mapping

/-!
# Mappings in another order

Two mappings are alike when their entries are the same in some order, and values under the same key
are alike again.  Writing under two different keys in either order makes mappings that are alike.

Main results:

- Definition `Value.Alike`: values that are equal but for the order of entries.
- Definition `Data.Alike`: data that are, collection by collection.
- Theorem `put_put_perm`: writing under different keys in either order.
- Theorem `alike_put`: writing values that are alike.
-/

namespace Stencil

/-- Values that are equal but for the order of the entries of mappings, at any depth of nested
mappings.  A number of the pool is alike to itself only. -/
inductive Value.Alike : Value → Value → Prop where
  | refl (v : Value) : Alike v v
  | mapping {es fs gs : List (Value × Value)} (hperm : es.Perm fs)
      (hkeys : fs.map Prod.fst = gs.map Prod.fst)
      (hvalues : List.Forall₂ Alike (fs.map Prod.snd) (gs.map Prod.snd)) :
      Alike (.mapping es) (.mapping gs)

/-- Data that are equal but for the order of the entries of mappings, in the root and in every
collection of the pool. -/
structure Data.Alike (d e : Data) : Prop where
  root : d.root.Alike e.root
  pool : ∀ number, (d.pool.getD number .null).Alike (e.pool.getD number .null)

namespace Entries

variable {key other : Text} {v w : Value} {entries : Entries}

/-- What is written last under a key counts. -/
theorem put_put_same (key : Text) (v w : Value) (entries : Entries) :
    put (.text key) v (put (.text key) w entries) = put (.text key) v entries := by
  induction entries with
  | nil => simp [put, Value.isText]
  | cons e rest ih =>
      obtain ⟨k, u⟩ := e
      by_cases hk : k.isText key <;> simp [put, hk, ih]

/-- Writing under different keys, in either order. -/
theorem put_put_perm (h : key ≠ other) (v w : Value) (entries : Entries) :
    (put (.text key) v (put (.text other) w entries)).Perm
      (put (.text other) w (put (.text key) v entries)) := by
  induction entries with
  | nil =>
      have hkey : (Value.text key).isText other = false := by simpa [Value.isText] using h
      have hother : (Value.text other).isText key = false := by simpa [Value.isText] using h.symm
      simpa [put, hkey, hother] using List.Perm.swap _ _ _
  | cons e rest ih =>
      obtain ⟨k, u⟩ := e
      by_cases hk : k.isText key
      · have hne : k.isText other = false := by
          rw [(isText_iff key k).1 hk]
          simpa [Value.isText] using h
        simp [put, hk, hne]
      · by_cases ho : k.isText other
        · simp [put, hk, ho]
        · simpa [put, hk, ho] using ih

theorem map_fst_put (key : Text) (v w : Value) (entries : Entries) :
    (put (.text key) v entries).map Prod.fst = (put (.text key) w entries).map Prod.fst := by
  induction entries with
  | nil => rfl
  | cons e rest ih =>
      obtain ⟨k, u⟩ := e
      by_cases hk : k.isText key <;> simp [put, hk, ih]

/-- Writing values that are alike makes mappings that are. -/
theorem alike_put (h : v.Alike w) (key : Text) (entries : Entries) :
    (Value.mapping (put (.text key) v entries)).Alike (.mapping (put (.text key) w entries)) := by
  refine .mapping (.refl _) (map_fst_put key v w entries) ?_
  have hsame : ∀ rest : Entries, List.Forall₂ Value.Alike (rest.map Prod.snd) (rest.map Prod.snd) :=
    fun rest => List.forall₂_same.2 fun u _ => .refl u
  induction entries with
  | nil => exact .cons h .nil
  | cons e rest ih =>
      obtain ⟨k, u⟩ := e
      by_cases hk : k.isText key
      · rw [put, put, sameKey_text, if_pos hk, if_pos hk]
        exact .cons h (hsame rest)
      · rw [put, put, sameKey_text, if_neg hk, if_neg hk]
        exact .cons (.refl u) ih

theorem alike_of_perm {es fs : Entries} (h : es.Perm fs) :
    (Value.mapping es).Alike (.mapping fs) :=
  .mapping h rfl (List.forall₂_same.2 fun u _ => .refl u)

end Entries
end Stencil
