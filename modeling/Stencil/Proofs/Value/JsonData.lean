import Stencil.Json.Read
import Stencil.Proofs.Outcome
import Stencil.Value.Display

/-!
# JSON data

The data that a JSON document can hold: null, truth values, integers of 64 bits, finite
floating-point numbers, texts, and lists and mappings of such data, where mappings have texts for
keys.  Reading a JSON document gives nothing else, and all of it has a text.

Main results:

- Predicate `Value.IsJson`: the data that a JSON document can hold.
- Theorem `isJson_of_read?`: a JSON document is read as such data.
- Theorem `IsJson.exists_display`: such data have a text.
-/

namespace Stencil
namespace Value

open Outcome

/-- The data that a JSON document can hold. -/
inductive IsJson : Value → Prop where
  | null : IsJson .null
  | bool (b : Bool) : IsJson (.bool b)
  | int {n : Int} (hword : Json.isWord n = true) : IsJson (.int n)
  | float {x : Number.Binary64} (hfinite : x.isFinite = true) : IsJson (.float x)
  | text (t : Text) : IsJson (.text t)
  | list {items : List Value} (hitems : ∀ v ∈ items, IsJson v) : IsJson (.list items)
  | mapping {entries : Entries} (hkeys : ∀ e ∈ entries, ∃ t, e.1 = .text t)
      (hvalues : ∀ e ∈ entries, IsJson e.2) : IsJson (.mapping entries)

/-! ## Reading -/

/-- The entries of a mapping that a JSON document can hold. -/
def JsonEntries (entries : Entries) : Prop := ∀ e ∈ entries, (∃ t, e.1 = .text t) ∧ e.2.IsJson

theorem JsonEntries.isJson {entries : Entries} (h : JsonEntries entries) :
    (Value.mapping entries).IsJson := by
  apply IsJson.mapping
  · intro e he
    exact (h e he).1
  · intro e he
    exact (h e he).2

theorem JsonEntries.cons {entries : Entries} (h : JsonEntries entries) (t : Text) {v : Value}
    (hv : v.IsJson) : JsonEntries ((.text t, v) :: entries) :=
  List.forall_mem_cons.2 ⟨⟨⟨t, rfl⟩, hv⟩, h⟩

theorem JsonEntries.put {entries : Entries} (h : JsonEntries entries) (t : Text) {v : Value}
    (hv : v.IsJson) : JsonEntries (entries.put (.text t) v) := by
  induction entries with
  | nil => exact JsonEntries.cons h t hv
  | cons e entries ih =>
      rcases e with ⟨key, old⟩
      rcases List.forall_mem_cons.1 h with ⟨⟨hkey, hold⟩, hrest⟩
      rw [Entries.put]
      split
      · exact List.forall_mem_cons.2 ⟨⟨hkey, hv⟩, hrest⟩
      · exact List.forall_mem_cons.2 ⟨⟨hkey, hold⟩, ih hrest⟩

theorem JsonEntries.ofPairs {pairs : Entries} (h : JsonEntries pairs) :
    JsonEntries (Entries.ofPairs pairs) := by
  have hnone : JsonEntries [] := by simp [JsonEntries]
  apply List.foldlRecOn pairs _ hnone
  intro entries hentries e he
  rcases e with ⟨key, v⟩
  rcases h (key, v) he with ⟨⟨t, hkey⟩, hv⟩
  dsimp only at hkey
  subst hkey
  exact hentries.put t hv

theorem isJson_of_finite? {x : Number.Binary64} {v : Value} (h : Json.finite? x = some v) :
    v.IsJson := by
  unfold Json.finite? at h
  split at h
  · rename_i hfinite
    cases h
    exact .float hfinite
  · cases h

/-- A number is an integer within 64 bits, or else a finite floating-point number. -/
theorem isJson_of_word_or_finite {plain : Bool} {n : Int} {x : Number.Binary64} {v : Value}
    {rest rest' : Text}
    (h : (if (plain && Json.isWord n) = true then some (.int n, rest) else do
      let v ← Json.finite? x
      return (v, rest)) = some (v, rest')) : v.IsJson := by
  split at h
  · rename_i hplain
    cases h
    rw [Bool.and_eq_true] at hplain
    exact .int hplain.2
  · simp only [Option.bind_eq_bind, Option.bind_eq_some_iff] at h
    rcases h with ⟨found, hfound, h⟩
    cases h
    exact isJson_of_finite? hfound

theorem isJson_of_readNumber? {t rest : Text} {v : Value}
    (h : Json.readNumber? t = some (v, rest)) : v.IsJson := by
  unfold Json.readNumber? at h
  simp only [Option.bind_eq_bind, Option.bind_eq_some_iff] at h
  rcases h with ⟨⟨whole, rest₁⟩, -, ⟨fraction, rest₂⟩, -, ⟨exponent, rest₃⟩, -, h⟩
  exact isJson_of_word_or_finite h

/-- Whatever is read of a value, of the items of an array or of the members of an object, it is
JSON data. -/
theorem isJson_of_reads (fuel : Nat) :
    (∀ depth t v rest, Json.readValue? fuel depth t = some (v, rest) → v.IsJson) ∧
    (∀ depth t vs rest, Json.readItems? fuel depth t = some (vs, rest) → ∀ v ∈ vs, v.IsJson) ∧
    (∀ depth t ms rest, Json.readMembers? fuel depth t = some (ms, rest) → JsonEntries ms) := by
  -- All three readers at once: each calls the others with less fuel.
  induction fuel with
  | zero =>
      refine ⟨?_, ?_, ?_⟩
      · intro depth t v rest h
        simp [Json.readValue?] at h
      · intro depth t vs rest h
        simp [Json.readItems?] at h
      · intro depth t ms rest h
        simp [Json.readMembers?] at h
  | succ fuel ih =>
      rcases ih with ⟨ihValue, ihItems, ihMembers⟩
      refine ⟨?_, ?_, ?_⟩
      · intro depth t v rest h
        rw [Json.readValue?] at h
        split at h
        · cases h
          exact .null
        · cases h
          exact .bool true
        · cases h
          exact .bool false
        · rcases Option.map_eq_some_iff.1 h with ⟨⟨s, rest'⟩, -, h⟩
          cases h
          exact .text s
        · split at h
          · cases h
          · cases h
            exact .list (by simp)
          · rcases Option.map_eq_some_iff.1 h with ⟨⟨vs, rest'⟩, hvs, h⟩
            cases h
            exact .list (ihItems _ _ vs _ hvs)
        · split at h
          · cases h
          · cases h
            exact JsonEntries.isJson (by simp [JsonEntries])
          · rcases Option.map_eq_some_iff.1 h with ⟨⟨ms, rest'⟩, hms, h⟩
            cases h
            exact (ihMembers _ _ ms _ hms).ofPairs.isJson
        · exact isJson_of_readNumber? h
      · intro depth t vs rest h
        rw [Json.readItems?] at h
        simp only [Option.bind_eq_bind, Option.bind_eq_some_iff] at h
        rcases h with ⟨⟨v, rest₁⟩, hv, h⟩
        have hfirst : v.IsJson := ihValue _ _ v _ hv
        dsimp only at h
        split at h
        · simp only [Option.bind_eq_some_iff] at h
          rcases h with ⟨⟨others, rest₂⟩, hothers, h⟩
          cases h
          exact List.forall_mem_cons.2 ⟨hfirst, ihItems _ _ others _ hothers⟩
        · cases h
          simpa using hfirst
        · cases h
      · intro depth t ms rest h
        rw [Json.readMembers?] at h
        simp only [Option.bind_eq_bind, Option.bind_eq_some_iff] at h
        rcases h with ⟨rest₁, -, ⟨name, rest₂⟩, -, rest₃, -, ⟨v, rest₄⟩, hv, h⟩
        have hfirst : v.IsJson := ihValue _ _ v _ hv
        have hnone : JsonEntries [] := by simp [JsonEntries]
        dsimp only at h
        split at h
        · simp only [Option.bind_eq_some_iff] at h
          rcases h with ⟨⟨others, rest₅⟩, hothers, h⟩
          cases h
          exact (ihMembers _ _ others _ hothers).cons name hfirst
        · cases h
          exact hnone.cons name hfirst
        · cases h

/-- A JSON document is read as JSON data. -/
theorem isJson_of_read? {bytes : List UInt8} {v : Value} (h : Json.read? bytes = some v) :
    v.IsJson := by
  unfold Json.read? at h
  rcases Option.bind_eq_some_iff.1 h with ⟨t, -, h⟩
  unfold Json.readText? at h
  rcases Option.bind_eq_some_iff.1 h with ⟨⟨found, rest⟩, hfound, h⟩
  rcases Option.bind_eq_some_iff.1 h with ⟨_, -, h⟩
  cases h
  exact (isJson_of_reads _).1 _ _ _ _ hfound

/-! ## Text -/

theorem twoTo_lt_tenTo : twoTo 64 < tenTo Number.digitLimit := by
  have htwenty : tenTo 20 ≤ tenTo Number.digitLimit := tenTo_le (by decide)
  have hless : twoTo 64 < tenTo 20 := by decide
  omega

/-- An integer of 64 bits is short enough to be written. -/
theorem exists_write_of_isWord {n : Int} (h : Json.isWord n = true) :
    ∃ t, Number.write n = .ok t := by
  have hlimit := twoTo_lt_tenTo
  have hhalf : twoTo 64 = twoTo 63 * 2 := twoTo_succ 63
  have hrange : -(twoTo 63 : Int) ≤ n ∧ n < (twoTo 64 : Int) := by simpa [Json.isWord] using h
  have hshort : ¬ tenTo Number.digitLimit ≤ n.natAbs := by omega
  exact ⟨Number.digits n, if_neg hshort⟩

section Forms

variable {part : Nat → Except Raised Text}

theorem exists_formsWith {items : List Value} (h : ∀ v ∈ items, ∃ t, formWith part v = .ok t) :
    ∃ fs, formsWith part items = .ok fs := by
  induction items with
  | nil => exact ⟨[], by rw [formsWith]⟩
  | cons v items ih =>
      rcases List.forall_mem_cons.1 h with ⟨⟨f, hf⟩, hrest⟩
      rcases ih hrest with ⟨fs, hfs⟩
      refine ⟨f :: fs, ?_⟩
      rw [formsWith, hf, hfs]
      rfl

theorem exists_entryFormsWith {entries : Entries}
    (hkeys : ∀ e ∈ entries, ∃ t, formWith part e.1 = .ok t)
    (hvalues : ∀ e ∈ entries, ∃ t, formWith part e.2 = .ok t) :
    ∃ fs, entryFormsWith part entries = .ok fs := by
  induction entries with
  | nil => exact ⟨[], by rw [entryFormsWith]⟩
  | cons e entries ih =>
      rcases e with ⟨key, v⟩
      rcases List.forall_mem_cons.1 hkeys with ⟨⟨keyForm, hkey⟩, hkeys⟩
      rcases List.forall_mem_cons.1 hvalues with ⟨⟨form, hform⟩, hvalues⟩
      rcases ih hkeys hvalues with ⟨fs, hfs⟩
      refine ⟨(keyForm ++ ": " ++ form) :: fs, ?_⟩
      rw [entryFormsWith, hkey, hform, hfs]
      rfl

/-- JSON data have a form, whatever shared collections are shown as. -/
theorem IsJson.exists_formWith {v : Value} (h : v.IsJson) : ∃ t, formWith part v = .ok t := by
  induction h with
  | null => exact ⟨_, by rw [formWith]⟩
  | bool b => exact ⟨_, by rw [formWith]⟩
  | int hword =>
      rcases exists_write_of_isWord hword with ⟨t, ht⟩
      refine ⟨t, ?_⟩
      rw [formWith, ht]
      rfl
  | float hfinite => exact ⟨_, by rw [formWith]⟩
  | text t => exact ⟨_, by rw [formWith]⟩
  | list _ ih =>
      rcases exists_formsWith ih with ⟨fs, hfs⟩
      refine ⟨bracketed "[" fs "]", ?_⟩
      rw [formWith, hfs]
      rfl
  | @mapping entries hkeys _ ih =>
      have hkeyForms : ∀ e ∈ entries, ∃ t, formWith part e.1 = .ok t := by
        intro e he
        rcases hkeys e he with ⟨t, ht⟩
        rw [ht]
        exact ⟨_, by rw [formWith]⟩
      rcases exists_entryFormsWith hkeyForms ih with ⟨fs, hfs⟩
      refine ⟨bracketed "\x7b" fs "\x7d", ?_⟩
      rw [formWith, hfs]
      rfl

end Forms

/-- JSON data have a text. -/
theorem IsJson.exists_display {v : Value} (h : v.IsJson) (pool : Pool) :
    ∃ t, v.display pool = .ok t := by
  have hform : ∃ t, v.form pool = .ok t := h.exists_formWith
  cases h with
  | text t => exact ⟨t, rfl⟩
  | null => exact hform
  | bool b => exact hform
  | int hword => exact hform
  | float hfinite => exact hform
  | list hitems => exact hform
  | mapping hkeys hvalues => exact hform

end Value
end Stencil
