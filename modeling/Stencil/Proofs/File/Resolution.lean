import Mathlib.Data.List.Induction
import Stencil.File.Tree

/-!
# Where paths lead

Following a path needs the directories on the way, while resolving it is a matter of its names
alone.  Where a path leads somewhere both come to the same, so that all spellings of a path, from
all working directories, lead to one location.

Main results:

- Theorem `eq_collapse_of_walk`: the location that names lead to.
- Theorem `resolve_of_locate`: a path that leads somewhere is resolved to its location.
- Theorem `read_eq_ok_iff`: reading gives the bytes of the file where the path leads.
-/

namespace Stencil
namespace File

variable {t : Tree} {p : Path} {l : Location} {names above : List Text} {name : Text}

namespace Path

/-- One name more goes one further or, if it is a double point, one back. -/
theorem collapse_concat (names : List Text) (name : Text) :
    collapse (names ++ [name]) =
      if name = "..".toList then (collapse names).dropLast else collapse names ++ [name] := by
  simp [collapse]

/-- Names without double points stay as they are. -/
theorem collapse_of_not_mem (h : "..".toList ∉ names) : collapse names = names := by
  induction names using List.reverseRecOn with
  | nil => rfl
  | append_singleton names name ih =>
      rw [List.mem_append, List.mem_singleton, not_or] at h
      rw [collapse_concat, if_neg (Ne.symm h.2), ih h.1]

end Path

namespace Tree

/-- The same files from another working directory. -/
def withHome (t : Tree) (home : Location) : Tree := { t with home := home }

@[simp]
theorem home_withHome (t : Tree) (home : Location) : (t.withHome home).home = home := rfl

@[simp]
theorem node?_withHome (t : Tree) (home l : Location) : (t.withHome home).node? l = t.node? l := rfl

theorem eq_of_enter {next : Location} (h : t.enter l name = .ok next) :
    next = if name = "..".toList then l.dropLast else l ++ [name] := by
  unfold enter at h
  split at h
  · cases h
  · cases h
  · split at h
    · rename_i hback
      rw [if_pos hback]
      exact (Except.ok.inj h).symm
    · rename_i hback
      rw [if_neg hback]
      split at h
      · cases h
      · exact (Except.ok.inj h).symm

/-- Names lead to the location that they collapse to. -/
theorem eq_collapse_of_walk (h : t.walk (Path.collapse above) names = .ok l) :
    l = Path.collapse (above ++ names) := by
  induction names generalizing above with
  | nil =>
      rw [List.append_nil]
      exact (Except.ok.inj h).symm
  | cons name rest ih =>
      rw [walk] at h
      cases hnext : t.enter (Path.collapse above) name with
      | error cause =>
          rw [hnext] at h
          cases h
      | ok next =>
          rw [hnext, eq_of_enter hnext, ← Path.collapse_concat] at h
          rw [List.append_cons]
          exact ih h

/-- A path that leads somewhere is resolved to its location. -/
theorem resolve_of_locate (hhome : "..".toList ∉ t.home) (h : t.locate p = .ok l) :
    p.resolve t.home = ⟨.slash, l⟩ := by
  unfold locate at h
  split at h
  · cases h
  · split at h
    · cases h
    · -- The walk begins at the collapsed names of the root or of the working directory.
      unfold Path.resolve
      split at h
      · rename_i habsolute
        rw [if_pos habsolute]
        have hroot : t.walk (Path.collapse []) p.names = .ok l := h
        exact congrArg (Path.mk .slash) (eq_collapse_of_walk hroot).symm
      · rename_i hrelative
        rw [if_neg hrelative]
        rw [← Path.collapse_of_not_mem hhome] at h
        exact congrArg (Path.mk .slash) (eq_collapse_of_walk h).symm

/-- Reading gives the bytes of the file where the path leads. -/
theorem read_eq_ok_iff {bytes : List UInt8} :
    t.read p = .ok bytes ↔ ∃ l, t.locate p = .ok l ∧ t.node? l = some (.file bytes) := by
  unfold read
  constructor
  · intro h
    split at h
    · cases h
    · rename_i l hlocate
      refine ⟨l, hlocate, ?_⟩
      split at h
      · cases h
      · cases h
      · rename_i hnode
        rw [hnode, Except.ok.inj h]
  · rintro ⟨l, hlocate, hnode⟩
    rw [hlocate]
    dsimp only
    rw [hnode]

end Tree
end File
end Stencil
