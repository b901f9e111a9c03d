import Stencil.Proofs.Template.CleanText

/-!
# Printing programs

A program is printed by writing its texts as they are and its lookups between delimiters.
Where its texts are not empty, do not touch each other and hold no delimiter characters,
and its expressions are such that a marker holds nothing else, the printed template is
read as the program again.

Main results:

- Definitions `Program.print` and `Program.Printable`: a program as a template, and the
  programs that are told from all others in this way.
- Theorem `scanFrom_print`: a printed program is scanned segment by segment.
- Theorem `segments_map_token`: what is scanned is read as the segments.
- Theorem `interpolate_print`: reading a printed program gives the program, and different
  programs are printed differently.
-/

namespace Stencil
namespace Template

open Text Outcome

/-! ## Printed segments -/

namespace Segment

/-- How a segment is written in a template. -/
def print (d : Delimiters) : Segment → Text
  | text t => t
  | lookup expression => d.opening ++ expression ++ d.closing

/-- Whether a segment shows a text. -/
def isText : Segment → Bool
  | text _ => true
  | lookup _ => false

/-- A segment that can be told from its neighbours in a template: a text that is not empty
and holds no delimiter characters, or an expression that a marker can hold as it is. -/
def Printable (d : Delimiters) : Segment → Prop
  | text t => t ≠ [] ∧ Unmarked d t
  | lookup expression => expression ≠ [] ∧ trim expression = expression ∧ '\n' ∉ expression ∧
      Unmarked d expression ∧ ∀ name : Text, expression ≠ "component(" ++ name ++ ")"

instance (d : Delimiters) : (s : Segment) → Decidable (s.Printable d)
  | text t => inferInstanceAs (Decidable (t ≠ [] ∧ Unmarked d t))
  | lookup expression =>
    decidable_of_iff (expression ≠ [] ∧ trim expression = expression ∧ '\n' ∉ expression ∧
        Unmarked d expression ∧ componentName? expression = none) <| by
      rw [componentName?_eq_none_iff]
      rfl

/-- A segment as a piece of a template. -/
def piece : Segment → Piece
  | text t => .text t
  | lookup expression => .placeholder expression

/-- What a printed segment is scanned as. -/
def token (d : Delimiters) : Segment → Token
  | text t => .literal t
  | lookup expression => .placeholder expression (d.opening ++ expression ++ d.closing)

/-- A segment is printed as the source of its piece. -/
theorem source_piece (d : Delimiters) (s : Segment) : s.piece.source d = s.print d := by
  cases s <;> rfl

/-- A printable segment can be scanned. -/
theorem Printable.legible {d : Delimiters} {s : Segment} (h : s.Printable d) :
    s.piece.Legible d := by
  cases s with
  | text t => exact h.2
  | lookup expression => exact ⟨h.2.2.1, h.2.2.2.1⟩

end Segment

/-- The segments of a template, one after the other. -/
def printSegments (d : Delimiters) (ss : List Segment) : Text := ss.flatMap (Segment.print d)

/-- The template that shows a program. -/
def Program.print (d : Delimiters) (p : Program) : Text := printSegments d p.segments

/-- A program whose segments can be told from each other: no text stands next to another. -/
structure Program.Printable (d : Delimiters) (p : Program) : Prop where
  segment : ∀ s ∈ p.segments, s.Printable d
  separated : p.segments.IsChain fun a b => ¬ (a.isText ∧ b.isText)

variable {d : Delimiters} {ss : List Segment} {pending : Text}

theorem printSegments_cons (s : Segment) (ss : List Segment) :
    printSegments d (s :: ss) = s.print d ++ printSegments d ss := rfl

/-- A program is printed piece by piece. -/
theorem assemble_map_piece (d : Delimiters) (ss : List Segment) :
    assemble d (ss.map Segment.piece) = printSegments d ss := by
  induction ss with
  | nil => rfl
  | cons s ss ih => rw [List.map_cons, assemble_cons, ih, Segment.source_piece, printSegments_cons]

/-! ## Reading what was printed -/

/-- A printable lookup is no component. -/
theorem marker_of_printable {expression : Text} (h : (Segment.lookup expression).Printable d) :
    marker d expression = (Segment.lookup expression).token d := by
  obtain ⟨-, htrim, -, -, hcomponent⟩ := h
  unfold marker
  rw [htrim, componentName?_eq_none_iff.2 hcomponent]
  rfl

theorem segment_token {s : Segment} (h : s.Printable d) (identifier : Text) :
    segment identifier (s.token d) = .ok s := by
  cases s with
  | text t => rfl
  | lookup expression => exact if_neg h.1

/-- The tokens of printable segments stand for them. -/
theorem segments_map_token (h : ∀ s ∈ ss, s.Printable d) (identifier : Text) :
    segments identifier (ss.map (Segment.token d)) = .ok ss := by
  induction ss with
  | nil => rfl
  | cons s ss ih =>
      obtain ⟨hs, hss⟩ := List.forall_mem_cons.1 h
      rw [List.map_cons, segments]
      exact bind_eq_ok_iff.2 ⟨s, segment_token hs identifier,
        bind_eq_ok_iff.2 ⟨ss, ih hss, rfl⟩⟩

/-- A printed program is scanned segment by segment.  Text that is pending before it must
not run into a text of the program. -/
theorem scanFrom_print (hd : d.Apart) (h : ∀ s ∈ ss, s.Printable d)
    (hseparated : ss.IsChain fun a b => ¬ (a.isText ∧ b.isText))
    (hpending : pending = [] ∨ ∀ s ∈ ss.head?, s.isText = false) :
    scanFrom d pending (printSegments d ss) =
      literalTokens pending ++ ss.map (Segment.token d) := by
  induction ss generalizing pending with
  | nil =>
      have hopen : cut d.opening [] = none := by simp [cut, hd.opening_ne_nil]
      rw [printSegments, List.flatMap_nil, scanFrom_of_no_opening hopen]
      simp
  | cons s ss ih =>
      obtain ⟨hs, hss⟩ := List.forall_mem_cons.1 h
      obtain ⟨hnext, hrest⟩ := List.isChain_cons.1 hseparated
      rw [printSegments_cons, List.map_cons]
      cases s with
      | text t =>
          -- The pending text is empty, and what follows the text is a lookup.
          obtain rfl : pending = [] := hpending.resolve_right fun hhead => by
            simp [Segment.isText] at hhead
          have hlookup : ∀ s ∈ ss.head?, s.isText = false := by
            intro s hmem
            simpa [Segment.isText] using hnext s hmem
          rw [Segment.print, scanFrom_append_of_unmarked hd hs.2, List.nil_append,
            ih hss hrest (Or.inr hlookup), literalTokens, if_neg hs.1]
          rfl
      | lookup expression =>
          rw [Segment.print, scanFrom_marker_append hd hs.2.2.1 hs.2.2.2.1,
            ih hss hrest (Or.inl rfl), marker_of_printable hs]
          rfl

/-- Reading a printed program gives the program.  So each printable program has a
template, and no two of them have the same one. -/
theorem interpolate_print (hd : d.Apart) :
    (∀ p : Program, p.Printable d →
      ∀ identifier, interpolate d identifier (p.print d) = .ok p) ∧
    ∀ p q : Program, p.Printable d → q.Printable d → p.print d = q.print d → p = q := by
  have hread : ∀ p : Program, p.Printable d →
      ∀ identifier, interpolate d identifier (p.print d) = .ok p := by
    intro p hp identifier
    have hbalance : checkBalance d identifier (p.print d) = .ok () := by
      rw [Program.print, ← assemble_map_piece]
      refine checkBalance_assemble hd (fun piece hpiece => ?_) identifier
      obtain ⟨s, hs, rfl⟩ := List.mem_map.1 hpiece
      exact (hp.segment s hs).legible
    have hscan : scan d (p.print d) = p.segments.map (Segment.token d) :=
      scanFrom_print hd hp.segment hp.separated (Or.inl rfl)
    have hsegments := segments_map_token hp.segment identifier
    rw [← hscan] at hsegments
    exact bind_eq_ok_iff.2 ⟨(), hbalance, bind_eq_ok_iff.2 ⟨p.segments, hsegments, rfl⟩⟩
  refine ⟨hread, fun p q hp hq hprint => ?_⟩
  have hsame := hread p hp []
  rw [hprint, hread q hq []] at hsame
  exact (Except.ok.inj hsame).symm

/-- Delimiters that overlap themselves, a text over two lines, and an expression that is no
path. -/
def printedProgram : Program :=
  ⟨[.lookup "a b", .lookup "component(", .text "(x\n)", .lookup "y"]⟩

theorem interpolate_print_overlapping :
    (Delimiters.mk "<<" ">>>").Apart ∧ printedProgram.Printable ⟨"<<", ">>>"⟩ ∧
      printedProgram.print ⟨"<<", ">>>"⟩ = "<<a b>>><<component(>>>(x\n)<<y>>>" ∧
      interpolate ⟨"<<", ">>>"⟩ "page" (printedProgram.print ⟨"<<", ">>>"⟩) =
        .ok printedProgram := by
  have hdisjoint : ∀ c ∈ ("<<" : Text), c ∉ (">>>" : Text) := by simp
  have hd : (Delimiters.mk "<<" ">>>").Apart :=
    ⟨⟨by decide, by decide⟩, by decide, by decide, hdisjoint⟩
  have hprintable : printedProgram.Printable ⟨"<<", ">>>"⟩ := ⟨by decide +kernel, by decide⟩
  exact ⟨hd, hprintable, by decide, (interpolate_print hd).1 _ hprintable "page"⟩

end Template
end Stencil
