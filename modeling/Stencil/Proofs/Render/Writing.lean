import Mathlib.Control.Monad.Basic
import Stencil.Proofs.File.Gain
import Stencil.Proofs.Render.Effect

/-!
# Writing to logs

What is written to logs one after the other is found in them in that order, when all of it could be
written, and no other file gains anything.

Main results:

- Theorem `gains_writeLog`: what one write leaves in the files.
- Definition `writeAll` and theorem `gains_writeAll`: what writes in a row leave.
-/

namespace Stencil
namespace Render

/-- Bytes for the log at a path. -/
structure Write where
  path : File.Path
  bytes : List UInt8

/-- The file tree after bytes were written, or could not be. -/
def Write.apply (w : Write) (tree : File.Tree) : File.Tree := (writeLog w.path w.bytes tree).2

/-- The file tree after writes in a row. -/
def writeAll (writes : List Write) (tree : File.Tree) : File.Tree :=
  writes.foldl (fun tree w => w.apply tree) tree

/-- All of the bytes can be written. -/
def AllWritten : List Write → File.Tree → Prop
  | [], _ => True
  | w :: writes, tree =>
    (writeLog w.path w.bytes tree).1 = .ok () ∧ AllWritten writes (w.apply tree)

instance AllWritten.decidable :
    (writes : List Write) → (tree : File.Tree) → Decidable (AllWritten writes tree)
  | [], _ => isTrue trivial
  | w :: writes, tree =>
    have := AllWritten.decidable writes (w.apply tree)
    inferInstanceAs (Decidable ((writeLog w.path w.bytes tree).1 = .ok () ∧
      AllWritten writes (w.apply tree)))

/-- The bytes of the writes whose log is the file at a location. -/
def added (tree : File.Tree) (writes : List Write) (l : File.Location) : List UInt8 :=
  writes.flatMap fun w => if tree.locate w.path = .ok l then w.bytes else []

variable {w : Write} {writes later : List Write} {tree : File.Tree} {l : File.Location}

theorem writeAll_append (writes later : List Write) (tree : File.Tree) :
    writeAll (writes ++ later) tree = writeAll later (writeAll writes tree) := List.foldl_append

theorem allWritten_append :
    AllWritten (writes ++ later) tree ↔
      AllWritten writes tree ∧ AllWritten later (writeAll writes tree) := by
  induction writes generalizing tree with
  | nil => exact (and_iff_right trivial).symm
  | cons w writes ih =>
      rw [List.cons_append, AllWritten, AllWritten, ih, and_assoc]
      rfl

/-- A log that can be written to gains the bytes that are written, and no other file gains
anything. -/
theorem gains_writeLog {path : File.Path} {bytes : List UInt8} {tree : File.Tree}
    (h : (writeLog path bytes tree).1 = .ok ()) :
    ∃ l, (writeLog path bytes tree).2.locate path = .ok l ∧
      tree.Gains (writeLog path bytes tree).2 fun k => if k = l then bytes else [] := by
  have hmade := File.Tree.gains_makeDirectories tree path.parent
  unfold writeLog at h ⊢
  rcases hrun : tree.makeDirectories path.parent with ⟨fault | ⟨⟩, made⟩
  · rw [hrun] at h
    cases h
  · rw [hrun] at h hmade
    dsimp only at h hmade ⊢
    cases happend : made.append path bytes with
    | error fault =>
        rw [happend] at h
        cases h
    | ok whole =>
        obtain ⟨l, hlocate, hgains⟩ := File.Tree.gains_append happend
        exact ⟨l, hgains.locate_eq_ok hlocate, hmade.trans hgains⟩

/-- When everything can be written, every log gains its bytes in their order, and no other file
gains anything. -/
theorem gains_writeAll (h : AllWritten writes tree) :
    tree.Gains (writeAll writes tree) (added (writeAll writes tree) writes) := by
  induction writes generalizing tree with
  | nil => exact File.Tree.gains_refl tree
  | cons w writes ih =>
      obtain ⟨l, hlocate, hfirst⟩ := gains_writeLog h.1
      have hrest := ih h.2
      -- Later writes do not change where the log of the first one is.
      have hfinal : (writeAll (w :: writes) tree).locate w.path = .ok l :=
        hrest.locate_eq_ok hlocate
      have hadded : added (writeAll (w :: writes) tree) (w :: writes) = fun k =>
          (if k = l then w.bytes else []) ++ added (writeAll (w :: writes) tree) writes k := by
        funext k
        simp only [added, List.flatMap_cons, hfinal, Except.ok.injEq, eq_comm]
      rw [hadded]
      exact hfirst.trans hrest

/-- A log that was written to is there. -/
theorem exists_locate_of_allWritten (h : AllWritten writes tree) (hmem : w ∈ writes) :
    ∃ l, (writeAll writes tree).locate w.path = .ok l := by
  induction writes generalizing tree with
  | nil => cases hmem
  | cons first writes ih =>
      obtain rfl | hrest := List.mem_cons.1 hmem
      · obtain ⟨l, hlocate, -⟩ := gains_writeLog h.1
        exact ⟨l, (gains_writeAll h.2).locate_eq_ok hlocate⟩
      · exact ih h.2 hrest

/-- What can be written can be written at a path without the character zero. -/
theorem not_mem_text_of_allWritten (h : AllWritten writes tree) (hmem : w ∈ writes) :
    '\x00' ∉ w.path.text := by
  induction writes generalizing tree with
  | nil => cases hmem
  | cons first writes ih =>
      obtain rfl | hrest := List.mem_cons.1 hmem
      · obtain ⟨l, hlocate, -⟩ := gains_writeLog h.1
        intro hzero
        unfold File.Tree.locate at hlocate
        rw [if_pos (by simpa using hzero)] at hlocate
        cases hlocate
      · exact ih h.2 hrest

end Render
end Stencil
