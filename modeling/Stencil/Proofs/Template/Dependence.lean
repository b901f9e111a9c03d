import Stencil.CommandLine.Run
import Stencil.Proofs.Template.CleanText
import Stencil.Proofs.Template.Looking

/-!
# What rendering depends on

A compiled template sees its data only through what it finds at the end of its paths.  So
data that look alike there give the same text or raise the same exception, however they
differ elsewhere, and the paths that a program is listed with are all that matter.  They are
listed once each, in the order in which they first occur.

Main results:

- Theorems `mem_firstOccurrences`, `nodup_firstOccurrences` and
  `pairwise_firstOccurrences`: what a list without later repetitions is.
- Theorem `lines_listing`: the paths of a program are read back from what is printed.
- Theorem `apply_depends_on_paths`: rendering depends on the listed paths only.
-/

namespace Stencil
namespace Template

open Text Outcome

/-! ## First occurrences -/

variable {xs : List Text} {x : Text}

theorem mem_firstOccurrences : x ∈ firstOccurrences xs ↔ x ∈ xs := by
  induction xs with
  | nil => rfl
  | cons y ys ih =>
      by_cases hxy : x = y <;> simp [firstOccurrences, ih, hxy]

theorem nodup_firstOccurrences (xs : List Text) : (firstOccurrences xs).Nodup := by
  induction xs with
  | nil => exact List.nodup_nil
  | cons y ys ih =>
      rw [firstOccurrences, List.nodup_cons]
      exact ⟨by simp, ih.filter _⟩

/-- First occurrences are in the order in which they occur. -/
theorem pairwise_firstOccurrences (xs : List Text) :
    (firstOccurrences xs).Pairwise fun x y => xs.idxOf x < xs.idxOf y := by
  induction xs with
  | nil => exact List.Pairwise.nil
  | cons z zs ih =>
      have hlater : ∀ x ∈ (firstOccurrences zs).filter (· ≠ z),
          (z :: zs).idxOf x = zs.idxOf x + 1 := by
        intro x hx
        have hne : x ≠ z := by simpa using (List.mem_filter.1 hx).2
        exact List.idxOf_cons_ne _ hne.symm
      rw [firstOccurrences, List.pairwise_cons]
      constructor
      · intro x hx
        rw [hlater x hx, List.idxOf_cons_self]
        exact Nat.succ_pos _
      · refine (ih.filter _).imp_of_mem fun hx hy hlt => ?_
        rw [hlater _ hx, hlater _ hy]
        exact Nat.succ_lt_succ hlt

/-! ## Listed paths -/

theorem mem_paths {p : Program} {path : Text} : path ∈ p.paths ↔ path ∈ p.lookups :=
  mem_firstOccurrences

/-! ## What is printed -/

theorem newline_not_mem_of_isPath {path : Text} (h : isPath path = true) : '\n' ∉ path :=
  fun hmem => absurd (isWord_of_isPath h hmem (by decide)) (by decide +kernel)

/-- The printed list of paths, read line by line, gives the paths back. -/
theorem lines_listing {paths : List Text} (h : ∀ path ∈ paths, isPath path = true) :
    (lines (CommandLine.listing paths)).filterMap (after? "- ") = paths := by
  by_cases hempty : paths = []
  · subst hempty
    rfl
  · have hlines : lines (CommandLine.listing paths) = paths.map (("- " : Text) ++ ·) := by
      rw [CommandLine.listing, if_neg (by simpa using hempty)]
      refine split_join (by simpa using hempty) fun line hline => ?_
      obtain ⟨path, hpath, rfl⟩ := List.mem_map.1 hline
      simpa using newline_not_mem_of_isPath (h path hpath)
    have hafter : ∀ path : Text, after? "- " ("- " ++ path) = some path :=
      fun path => after?_eq_some_iff.2 rfl
    rw [hlines, List.filterMap_map]
    exact (List.filterMap_congr fun path _ => hafter path).trans List.filterMap_some

/-! ## Rendering depends on the listed paths -/

/-- Data in which the lookups of the listed paths have the same outcomes give the same text
or raise the same exception.  The listed paths are those of the compiled lookups, without
repetitions and in the order of their first occurrence, and they are read back from what
is printed. -/
theorem apply_depends_on_paths {p : Program} {identifier : Text} {c : Compiled}
    (h : compile p identifier = .ok c) :
    (∀ data data' : Data,
      (∀ path ∈ p.paths, data.look (split '.' path) = data'.look (split '.' path)) →
        c.apply data = c.apply data') ∧
    p.paths.Nodup ∧ (∀ path, path ∈ p.paths ↔ path ∈ c.dotted) ∧
    p.paths.Pairwise (fun path later => c.dotted.idxOf path < c.dotted.idxOf later) ∧
    (lines (CommandLine.listing p.paths)).filterMap (after? "- ") = p.paths := by
  obtain ⟨hlookups, hpaths⟩ := lookups_of_compile h
  have hparts : ∀ path, .path path ∈ c.parts → ∃ e ∈ p.paths, split '.' e = path := by
    intro path hpath
    rw [← Compiled.mem_lookups, hlookups] at hpath
    obtain ⟨e, he, rfl⟩ := List.mem_map.1 hpath
    exact ⟨e, mem_paths.2 he, rfl⟩
  have hne : ∀ path, .path path ∈ c.parts → path ≠ [] := by
    intro path hpath
    obtain ⟨e, -, rfl⟩ := hparts path hpath
    exact split_ne_nil '.' e
  rw [dotted_of_compile h]
  refine ⟨fun data data' hsame => ?_, nodup_firstOccurrences _, fun _ => mem_paths,
    pairwise_firstOccurrences _, lines_listing fun path hpath => hpaths path (mem_paths.1 hpath)⟩
  rw [apply_eq_renderWith hne, apply_eq_renderWith hne]
  refine renderPartsWith_congr fun path hpath => ?_
  obtain ⟨e, he, rfl⟩ := hparts path hpath
  exact hsame e he

/-- A program that looks twice for the same. -/
def echoProgram : Program := ⟨[.lookup "a", .text "-", .lookup "b.c", .lookup "a"]⟩

/-- What this program is compiled to. -/
def echo : Compiled := ⟨[.path ["a"], .text "-", .path ["b", "c"], .path ["a"]]⟩

/-- Data that raise an exception where nobody looks. -/
def loudData : Data :=
  .ofTree (.mapping [(.text "a", .int 7), (.text "z", .object [] (.error ⟨"E", "boom"⟩) "z")])

/-- Data with something else beside what is looked for. -/
def quietData : Data :=
  .ofTree (.mapping [(.text "b", .mapping [(.text "d", .int 1)]), (.text "a", .text "7")])

/-- Both data give the same text, and two paths are listed. -/
theorem apply_depends_on_paths_echo :
    echo.apply loudData = echo.apply quietData ∧ echo.apply quietData = .ok "7-7" ∧
      echoProgram.paths = ["a", "b.c"] := by
  have hcompiled : compile echoProgram "page" = .ok echo := rfl
  have hsame : ∀ path ∈ echoProgram.paths,
      loudData.look (split '.' path) = quietData.look (split '.' path) := by decide +kernel
  exact ⟨(apply_depends_on_paths hcompiled).1 loudData quietData hsame, by decide +kernel,
    by decide +kernel⟩

end Template
end Stencil
