import Stencil.File.Tree
import Stencil.Proofs.Text.Splitting

/-!
# Faults of paths that can be paths

The character zero is the only thing that makes a path none at all.  A path without it
can still lead nowhere, but every fault on the way comes from the file system.

Main results:

- Theorem `isSystem_of_makeDirectories`: making directories along a path without the
  character zero fails at most with a fault of the file system.
- Theorem `isSystem_of_append`: so does writing to a file.
-/

namespace Stencil
namespace File

open Text

/-- A path in which no name holds the character zero. -/
def Path.ZeroFree (p : Path) : Prop :=
  ∀ name ∈ p.names, '\x00' ∉ name

/-- Writing a path brings in no zero. -/
theorem Path.zeroFree_iff_text {p : Path} : p.ZeroFree ↔ '\x00' ∉ p.text := by
  have hnames : '\x00' ∉ Text.join ['/'] p.names ↔ p.ZeroFree := by
    rw [mem_join (by decide)]
    simp [ZeroFree]
  have hroot : '\x00' ∉ p.root.text := by cases p.root <;> decide
  rw [← hnames, Path.text]
  split
  · rename_i hempty
    rw [Bool.and_eq_true, List.isEmpty_iff] at hempty
    rw [hempty.2]
    decide
  · rw [List.mem_append]
    simp [hroot]

theorem Path.ZeroFree.parent {p : Path} (h : p.ZeroFree) : p.parent.ZeroFree :=
  fun name hmem => h name (List.dropLast_subset _ hmem)

namespace Tree

/-- Walking from name to name never fails for a zero character. -/
theorem walk_ne_zeroCharacter (t : Tree) (l : Location) (names : List Text) :
    t.walk l names ≠ .error .zeroCharacter := by
  induction names generalizing l with
  | nil => simp [walk]
  | cons name rest ih =>
      have henter : t.enter l name ≠ .error .zeroCharacter := by
        unfold enter
        split
        · simp
        · simp
        · split
          · simp
          · split <;> simp
      rw [walk]
      cases hnext : t.enter l name with
      | error cause =>
          rw [hnext] at henter
          simpa [Except.bind] using henter
      | ok next => exact ih next

/-- Only the character zero makes a path none. -/
theorem locate_ne_zeroCharacter (t : Tree) {p : Path} (h : p.ZeroFree) :
    t.locate p ≠ .error .zeroCharacter := by
  unfold locate
  rw [if_neg (by simpa using Path.zeroFree_iff_text.1 h)]
  split
  · simp
  · exact walk_ne_zeroCharacter t _ _

/-- A path without zero characters raises system faults only. -/
theorem isSystem_of_makeDirectory {t : Tree} {p : Path} {fault : Fault} (h : p.ZeroFree)
    (hfault : t.makeDirectory p = .error fault) : fault.isSystem = true := by
  have hlocate := locate_ne_zeroCharacter t h
  unfold makeDirectory at hfault
  split at hfault
  · rename_i cause hcause
    rw [hcause] at hlocate
    rw [← Except.error.inj hfault]
    simpa [Fault.isSystem] using hlocate
  · split at hfault
    · rw [← Except.error.inj hfault]
      rfl
    · exact absurd hfault (by simp)

/-- A fault that is not forgiven is raised as it is. -/
theorem forgive_fst {t : Tree} {fault other : Fault}
    (h : (t.forgive fault).1 = .error other) : other = fault := by
  unfold forgive at h
  split at h
  · exact absurd h (by simp)
  · exact (Except.error.inj h).symm

theorem isSystem_of_makeDirectoriesFrom {t : Tree} {root : Root} {names : List Text}
    {fault : Fault} (h : ∀ name ∈ names, '\x00' ∉ name)
    (hfault : (t.makeDirectoriesFrom root names).1 = .error fault) : fault.isSystem = true := by
  have hpath : Path.ZeroFree ⟨root, names.reverse⟩ := by
    intro name hmem
    exact h name (List.mem_reverse.1 hmem)
  -- Every fault that is passed on was met on making one of the directories.
  induction names generalizing t fault with
  | nil =>
      unfold makeDirectoriesFrom at hfault
      split at hfault
      · exact absurd hfault (by simp)
      · rename_i made hmade
        rw [forgive_fst hfault]
        exact isSystem_of_makeDirectory hpath hmade
  | cons name above ih =>
      have habove : ∀ name ∈ above, '\x00' ∉ name := fun n hn => h n (List.mem_cons_of_mem _ hn)
      unfold makeDirectoriesFrom at hfault
      dsimp only at hfault
      split at hfault
      · exact absurd hfault (by simp)
      · split at hfault
        · rename_i inner _ habovefault
          rw [← Except.error.inj hfault]
          exact ih habove (by rw [habovefault])
            fun n hn => habove n (List.mem_reverse.1 hn)
        · split at hfault
          · exact absurd hfault (by simp)
          · rw [← Except.error.inj hfault]
            rfl
          · rename_i again
            rw [forgive_fst hfault]
            exact isSystem_of_makeDirectory hpath again
      · rename_i first
        rw [forgive_fst hfault]
        exact isSystem_of_makeDirectory hpath first

/-- Only the file system keeps directories from being made along a path without zero characters. -/
theorem isSystem_of_makeDirectories {t : Tree} {p : Path} {fault : Fault} (h : p.ZeroFree)
    (hfault : (t.makeDirectories p).1 = .error fault) : fault.isSystem = true :=
  isSystem_of_makeDirectoriesFrom (fun name hmem => h name (List.mem_reverse.1 hmem)) hfault

/-- Where a path holds no zero character, only the file system keeps bytes from its file. -/
theorem isSystem_of_append {t : Tree} {p : Path} {bytes : List UInt8} {fault : Fault}
    (h : p.ZeroFree) (hfault : t.append p bytes = .error fault) : fault.isSystem = true := by
  have hlocate := locate_ne_zeroCharacter t h
  unfold append update at hfault
  split at hfault
  · rename_i cause hcause
    rw [hcause] at hlocate
    rw [← Except.error.inj hfault]
    simpa [Fault.isSystem] using hlocate
  · split at hfault
    · rw [← Except.error.inj hfault]
      rfl
    · exact absurd hfault (by simp)
    · exact absurd hfault (by simp)

end Tree
end File
end Stencil
