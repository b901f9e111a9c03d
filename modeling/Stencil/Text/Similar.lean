import Stencil.Text.Basic

/-!
# Similar words

How alike two words are is measured by the characters that they share in order: the longest piece
that stands in both counts, and so do, on either side of it, the pieces that stand in both there.
-/

namespace Stencil.Text

/-- The length of the beginning that two texts share. -/
def sharedBeginning : Text → Text → Nat
  | a :: s, b :: t => if a = b then sharedBeginning s t + 1 else 0
  | _, _ => 0

/-- Where the longest piece that stands in both texts begins in either, and its length.  Of several
the one that comes first is meant. -/
def longestShared (s t : Text) : Nat × Nat × Nat :=
  let places := (List.range s.length).flatMap fun i => (List.range t.length).map fun j => (i, j)
  places.foldl (fun best (i, j) =>
    let n := sharedBeginning (s.drop i) (t.drop j)
    if best.2.2 < n then (i, j, n) else best) (0, 0, 0)

/-- How many characters two texts share.  A piece that is shared leaves less of the first text, so
that `fuel` as large as its length is enough. -/
def sharedWithin : (fuel : Nat) → Text → Text → Nat
  | 0, _, _ => 0
  | fuel + 1, s, t =>
    let (i, j, n) := longestShared s t
    if n = 0 then 0
    else n + sharedWithin fuel (s.take i) (t.take j)
      + sharedWithin fuel (s.drop (i + n)) (t.drop (j + n))

/-- How many characters two texts share. -/
def shared (s t : Text) : Nat := sharedWithin s.length s t

/-- Whether at least three fifths of the characters of two words are shared. -/
def isSimilar (s t : Text) : Bool := 3 * (s.length + t.length) ≤ 10 * shared s t

/-- The words of a list that are similar to a word, the most similar one first. -/
def similarWords (words : List Text) (t : Text) : List Text :=
  (words.filter fun s => isSimilar s t).mergeSort fun r s =>
    shared s t * (r.length + t.length) ≤ shared r t * (s.length + t.length)

example : similarWords ["render".toList, "check".toList] "rendr".toList = ["render".toList] := by
  decide +kernel

end Stencil.Text
