import Stencil.Config.Validate
import Stencil.Proofs.File.PathText
import Stencil.Proofs.Outcome
import Stencil.Proofs.Template.Tokenisation

/-!
# Valid configurations

What validation guarantees of every configuration that it lets through: delimiters
that are not empty, a directory of components that is written as it is read, and a
cache that keeps at least one entry.

Main results:

- Theorem `valid_of_validate`: a validated configuration is valid.
- Theorem `normal_componentPath`: in a valid configuration the path of a component is
  read back from its identifier.
-/

namespace Stencil
namespace Config

open Template File

/-- What every validated configuration satisfies. -/
structure Valid (c : Config) : Prop where
  proper : c.delimiters.Proper
  basePath : c.basePath.Normal
  cacheSize : ∀ n, c.cacheSize = some n → 1 ≤ n

theorem valid_standard : standard.Valid where
  proper := ⟨by decide, by decide⟩
  basePath := by
    intro name hname
    rw [List.mem_singleton.1 hname]
    decide
  cacheSize := by simp [standard]

/-! ## Fields -/

/-- A field holds its standard value or one that was read. -/
theorem readField_cases {α : Type} {entries : Entries} {field : Text} {standard a : α}
    {read : Value → Except Reason α} (h : readField entries field standard read = .ok a) :
    a = standard ∨ ∃ v, read v = .ok a := by
  unfold readField at h
  split at h
  · left
    exact (Except.ok.inj h).symm
  · rename_i v _
    right
    exact ⟨v, Outcome.mapError_eq_ok_iff.1 h⟩

/-- A path that is read is normal. -/
theorem normal_of_readPath {v : Value} {p : File.Path} (h : readPath v = .ok p) : p.Normal := by
  cases v <;> simp only [readPath, reduceCtorEq, Except.ok.injEq] at h
  rw [← h]
  exact Path.normal_ofText _

/-- A size that is accepted is positive. -/
theorem one_le_of_readSize {v : Value} {size : Option Nat} (h : readSize v = .ok size) :
    ∀ n, size = some n → 1 ≤ n := by
  have hread : ∀ n, readAtLeast 1 v = .ok n → 1 ≤ n := by
    intro n hn
    unfold readAtLeast at hn
    split at hn
    · exact absurd hn (by simp)
    · split at hn
      · exact absurd hn (by simp)
      · have := Except.ok.inj hn
        omega
  intro n hn
  subst hn
  cases v <;> simp only [readSize, reduceCtorEq, Except.ok.injEq] at h <;>
    exact hread n (by
      revert h
      cases readAtLeast 1 _ <;> simp [Except.map])

/-- Two delimiters that are accepted are not empty. -/
theorem proper_of_readPair {field : Text} {items : List Value} {d : Delimiters}
    (h : readPair field items = .ok d) : d.Proper := by
  unfold readPair at h
  split at h
  · exact absurd h (by simp)
  · split at h
    · split at h
      · exact absurd h (by simp)
      · rename_i hne
        rw [Bool.or_eq_true, not_or, List.isEmpty_iff, List.isEmpty_iff] at hne
        rw [← Except.ok.inj h]
        exact ⟨hne.1, hne.2⟩
    · exact absurd h (by simp)

/-- So are those of a field, set or not. -/
theorem proper_of_readDelimiters {entries : Entries} {field : Text} {d : Delimiters}
    (h : readDelimiters entries field = .ok d) : d.Proper := by
  unfold readDelimiters at h
  split at h
  · rw [← Except.ok.inj h]
    exact valid_standard.proper
  · exact proper_of_readPair h
  · exact proper_of_readPair h
  · exact proper_of_readPair h
  · exact absurd h (by simp)

/-- A validated configuration is valid. -/
theorem valid_of_validate {entries : Entries} {c : Config} (h : validate entries = .ok c) :
    c.Valid := by
  unfold validate at h
  simp only at h
  split at h
  · rename_i delimiters basePath extension maxDepth errorLog crashLog cacheSize
      hdelimiters hbasePath _ _ _ _ hcacheSize
    rw [← Except.ok.inj h]
    refine ⟨proper_of_readDelimiters hdelimiters, ?_, ?_⟩
    · rcases readField_cases hbasePath with rfl | ⟨v, hv⟩
      · exact valid_standard.basePath
      · exact normal_of_readPath hv
    · rcases readField_cases hcacheSize with rfl | ⟨v, hv⟩
      · exact valid_standard.cacheSize
      · exact one_le_of_readSize hv
  · exact absurd h (by simp)

/-- In a valid configuration the path of a component is read back from its identifier. -/
theorem normal_componentPath {c : Config} (hc : c.Valid) (name : Text) :
    (c.componentPath name).Normal :=
  hc.basePath.join (Path.normal_ofText _)

end Config
end Stencil
