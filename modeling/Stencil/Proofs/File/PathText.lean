import Stencil.File.Path
import Stencil.Proofs.Text.Splitting

/-!
# Paths and how they are written

A path that was read has only names that lead somewhere, and such a path is read
back from the text it is written as.  So a component has one identifier, and the
file of that identifier is the file of the component.

Main results:

- Theorem `normal_ofText`: what is read is normal.
- Theorem `ofText_text`: a normal path survives writing and reading.
-/

namespace Stencil
namespace File
namespace Path

open Text

/-- A path whose names all lead somewhere and hold no slash. -/
def Normal (p : Path) : Prop :=
  ∀ name ∈ p.names, isName name = true ∧ '/' ∉ name

theorem normal_ofText (t : Text) : (ofText t).Normal := by
  intro name hname
  obtain ⟨hmem, hlead⟩ := List.mem_filter.1 hname
  exact ⟨hlead, not_mem_of_mem_split hmem⟩

theorem Normal.join {p q : Path} (hp : p.Normal) (hq : q.Normal) : (p.join q).Normal := by
  unfold Path.join
  split
  · exact hq
  · intro name hname
    rcases List.mem_append.1 hname with h | h
    · exact hp name h
    · exact hq name h

/-- The names of a normal path, written one after the other, begin with no slash. -/
theorem takeWhile_join_names {names : List Text}
    (h : ∀ name ∈ names, isName name = true ∧ '/' ∉ name) :
    (Text.join ['/'] names).takeWhile (· = '/') = [] := by
  cases names with
  | nil => rfl
  | cons name rest =>
      obtain ⟨hname, hslash⟩ := h name List.mem_cons_self
      cases name with
      | nil => simp [isName] at hname
      | cons c name =>
          have hc : c ≠ '/' := by
            rintro rfl
            exact hslash List.mem_cons_self
          cases rest with
          | nil => simp [Text.join, List.intercalate, List.intersperse, hc]
          | cons b rest => simp [join_cons_cons, hc]

/-- The names of a normal path are read back from how they are written. -/
theorem filter_split_join_names {names : List Text}
    (h : ∀ name ∈ names, isName name = true ∧ '/' ∉ name) :
    (Text.split '/' (Text.join ['/'] names)).filter isName = names := by
  have hnames : names.filter isName = names :=
    List.filter_eq_self.2 fun name hname => (h name hname).1
  by_cases hne : names = []
  · subst hne
    rfl
  · rw [split_join hne fun name hname => (h name hname).2, hnames]

/-- A normal path survives writing and reading. -/
theorem ofText_text {p : Path} (hp : p.Normal) : ofText p.text = p := by
  obtain ⟨root, names⟩ := p
  have hstart : (Text.join ['/'] names).takeWhile (· = '/') = [] := takeWhile_join_names hp
  have hnames : (Text.split '/' (Text.join ['/'] names)).filter isName = names :=
    filter_split_join_names hp
  cases root with
  | relative =>
      by_cases hempty : names = []
      · subst hempty
        rfl
      · have htext : (Path.mk .relative names).text = Text.join ['/'] names := by
          simp [text, hempty, Root.text]
        rw [htext, ofText, hstart, hnames]
        rfl
  | slash =>
      have htext : (Path.mk .slash names).text = '/' :: Text.join ['/'] names := by
        simp [text, Root.text]
      have hfilter : ([] :: Text.split '/' (Text.join ['/'] names)).filter isName = names := by
        rw [List.filter_cons_of_neg (by simp [isName]), hnames]
      rw [htext, ofText, split_cons_self, hfilter, List.takeWhile_cons_of_pos (by simp), hstart]
      rfl
  | doubleSlash =>
      have htext : (Path.mk .doubleSlash names).text = '/' :: '/' :: Text.join ['/'] names := by
        simp [text, Root.text]
      have hfilter : ([] :: [] :: Text.split '/' (Text.join ['/'] names)).filter isName =
          names := by
        rw [List.filter_cons_of_neg (by simp [isName]),
          List.filter_cons_of_neg (by simp [isName]), hnames]
      rw [htext, ofText, split_cons_self, split_cons_self, hfilter,
        List.takeWhile_cons_of_pos (by simp), List.takeWhile_cons_of_pos (by simp), hstart]
      rfl

end Path
end File
end Stencil
