import Stencil.Proofs.Outcome
import Stencil.Template.Compiled

/-!
# Stages of a template

A text is scanned, read as a program and compiled.  Every stage fails with errors of its
own, which name the template concerned; what it gives otherwise does not depend on that
name.

Main results:

- Definition `components`: the components that a template marks.
- Theorem `segments_eq_ok_iff`: which tokens can be read, and as what.
- Theorem `interpolate_eq_error`: why a text is no program.
- Theorem `compile_eq_error`: why a program is not compiled.
- Theorem `compile_eq_ok`: a program is compiled alike for every template.
-/

namespace Stencil
namespace Template

open Outcome

/-- The names in the component markers among tokens, in order. -/
def componentNames (tokens : List Token) : List Text :=
  tokens.filterMap fun
    | .component name _ => some name
    | _ => none

@[simp]
theorem componentNames_nil : componentNames [] = [] := rfl

@[simp]
theorem componentNames_literal (text : Text) (tokens : List Token) :
    componentNames (.literal text :: tokens) = componentNames tokens := rfl

@[simp]
theorem componentNames_placeholder (expression raw : Text) (tokens : List Token) :
    componentNames (.placeholder expression raw :: tokens) = componentNames tokens := rfl

@[simp]
theorem componentNames_component (name raw : Text) (tokens : List Token) :
    componentNames (.component name raw :: tokens) = name :: componentNames tokens := rfl

theorem mem_componentNames {tokens : List Token} {name : Text} :
    name ∈ componentNames tokens ↔ ∃ raw, .component name raw ∈ tokens := by
  induction tokens with
  | nil => simp
  | cons token tokens ih => cases token <;> simp [ih, exists_or]

/-- The names of the components that a template marks, in order. -/
def components (d : Delimiters) (text : Text) : List Text := componentNames (scan d text)

/-! ## Reading tokens -/

namespace Token

/-- The segment that a token is read as. -/
def toSegment : Token → Segment
  | literal text => .text text
  | placeholder expression _ => .lookup expression
  | component name _ => .lookup ("component(" ++ name ++ ")")

/-- Whether a token can be read: a placeholder must hold something. -/
def Filled : Token → Prop
  | placeholder expression _ => expression ≠ []
  | _ => True

end Token

/-- A token becomes the one segment that it stands for, unless it is an empty marker. -/
theorem segment_eq_ok_iff {identifier : Text} {token : Token} {s : Segment} :
    segment identifier token = .ok s ↔ token.Filled ∧ token.toSegment = s := by
  cases token with
  | literal text => simp [segment, Token.Filled, Token.toSegment]
  | component name raw => simp [segment, Token.Filled, Token.toSegment]
  | placeholder expression raw =>
      by_cases hempty : expression = [] <;>
        simp [segment, Token.Filled, Token.toSegment, hempty]

/-- Tokens are read one by one, when all of them can be read. -/
theorem segments_eq_ok_iff {identifier : Text} {tokens : List Token} {ss : List Segment} :
    segments identifier tokens = .ok ss ↔
      (∀ token ∈ tokens, token.Filled) ∧ tokens.map Token.toSegment = ss := by
  induction tokens generalizing ss with
  | nil => simp [segments]
  | cons token tokens ih =>
      rw [List.forall_mem_cons, List.map_cons]
      constructor
      · intro h
        obtain ⟨s, hs, h⟩ := bind_eq_ok_iff.1 h
        obtain ⟨rest, hrest, h⟩ := bind_eq_ok_iff.1 h
        obtain rfl := Except.ok.inj h
        obtain ⟨hfirst, rfl⟩ := segment_eq_ok_iff.1 hs
        obtain ⟨hfilled, rfl⟩ := ih.1 hrest
        exact ⟨⟨hfirst, hfilled⟩, rfl⟩
      · rintro ⟨⟨hfirst, hfilled⟩, rfl⟩
        exact bind_eq_ok_iff.2 ⟨_, segment_eq_ok_iff.2 ⟨hfirst, rfl⟩,
          bind_eq_ok_iff.2 ⟨_, ih.2 ⟨hfilled, rfl⟩, rfl⟩⟩

/-- A program has one segment for each token of its template. -/
theorem segments_of_interpolate {d : Delimiters} {identifier text : Text} {p : Program}
    (h : interpolate d identifier text = .ok p) :
    p.segments = (scan d text).map Token.toSegment := by
  obtain ⟨⟨⟩, -, h⟩ := bind_eq_ok_iff.1 h
  obtain ⟨ss, hss, h⟩ := bind_eq_ok_iff.1 h
  obtain rfl := Except.ok.inj h
  exact (segments_eq_ok_iff.1 hss).2.symm

/-! ## Errors of the stages -/

/-- The only error of a segment is an expression that is no path. -/
theorem compileSegment_eq_error {identifier : Text} {s : Segment} {error : Error}
    (h : compileSegment identifier s = .error error) :
    ∃ expression, error = .notAPath expression identifier := by
  cases s with
  | text t => cases h
  | lookup expression =>
      rw [compileSegment] at h
      split at h
      · cases h
      · exact ⟨expression, (Except.error.inj h).symm⟩

theorem compileSegments_eq_error {identifier : Text} {ss : List Segment} {error : Error}
    (h : compileSegments identifier ss = .error error) :
    ∃ expression, error = .notAPath expression identifier := by
  induction ss with
  | nil => cases h
  | cons s ss ih =>
      rw [compileSegments] at h
      rcases bind_eq_error_iff.1 h with hfirst | ⟨part, -, h⟩
      · exact compileSegment_eq_error hfirst
      · rcases bind_eq_error_iff.1 h with hrest | ⟨parts, -, h⟩
        · exact ih hrest
        · exact absurd h pure_ne_error

/-- A program that is not compiled has an expression that is no path. -/
theorem compile_eq_error {program : Program} {identifier : Text} {error : Error}
    (h : compile program identifier = .error error) :
    ∃ expression, error = .notAPath expression identifier :=
  compileSegments_eq_error (map_eq_error_iff.1 h)

/-- A compiled part does not depend on the template that it is compiled for. -/
theorem compileSegment_eq_ok {identifier : Text} {s : Segment} {part : Part}
    (h : compileSegment identifier s = .ok part) (other : Text) :
    compileSegment other s = .ok part := by
  cases s with
  | text t => exact h
  | lookup expression =>
      rw [compileSegment] at h ⊢
      split at h
      · rename_i hpath
        rw [if_pos hpath, h]
      · cases h

theorem compileSegments_eq_ok {identifier : Text} {ss : List Segment} {parts : List Part}
    (h : compileSegments identifier ss = .ok parts) (other : Text) :
    compileSegments other ss = .ok parts := by
  induction ss generalizing parts with
  | nil => exact h
  | cons s ss ih =>
      rw [compileSegments] at h ⊢
      obtain ⟨part, hpart, h⟩ := bind_eq_ok_iff.1 h
      obtain ⟨rest, hrest, h⟩ := bind_eq_ok_iff.1 h
      exact bind_eq_ok_iff.2 ⟨part, compileSegment_eq_ok hpart other,
        bind_eq_ok_iff.2 ⟨rest, ih hrest, h⟩⟩

/-- A program that is compiled for one template is compiled alike for every other. -/
theorem compile_eq_ok {program : Program} {identifier : Text} {template : Compiled}
    (h : compile program identifier = .ok template) (other : Text) :
    compile program other = .ok template := by
  obtain ⟨parts, hparts, htemplate⟩ := map_eq_ok_iff.1 h
  exact map_eq_ok_iff.2 ⟨parts, compileSegments_eq_ok hparts other, htemplate⟩

/-- The only error of a token is an empty marker. -/
theorem segment_eq_error {identifier : Text} {token : Token} {error : Error}
    (h : segment identifier token = .error error) :
    ∃ raw, error = .emptyPlaceholder raw identifier := by
  cases token with
  | literal text => cases h
  | component name raw => cases h
  | placeholder expression raw =>
      rw [segment] at h
      split at h
      · exact ⟨raw, (Except.error.inj h).symm⟩
      · cases h

theorem segments_eq_error {identifier : Text} {tokens : List Token} {error : Error}
    (h : segments identifier tokens = .error error) :
    ∃ raw, error = .emptyPlaceholder raw identifier := by
  induction tokens with
  | nil => cases h
  | cons token tokens ih =>
      rw [segments] at h
      rcases bind_eq_error_iff.1 h with hfirst | ⟨s, -, h⟩
      · exact segment_eq_error hfirst
      · rcases bind_eq_error_iff.1 h with hrest | ⟨ss, -, h⟩
        · exact ih hrest
        · exact absurd h pure_ne_error

/-- A text that is no program has a line that does not balance, or an empty marker. -/
theorem interpolate_eq_error {d : Delimiters} {identifier text : Text} {error : Error}
    (h : interpolate d identifier text = .error error) :
    (∃ line imbalance, error = .unbalanced identifier line imbalance) ∨
      ∃ raw, error = .emptyPlaceholder raw identifier := by
  rw [interpolate] at h
  rcases bind_eq_error_iff.1 h with hbalance | ⟨-, -, h⟩
  · unfold checkBalance at hbalance
    split at hbalance
    · cases hbalance
    · exact Or.inl ⟨_, _, (Except.error.inj hbalance).symm⟩
  · rcases bind_eq_error_iff.1 h with hsegments | ⟨ss, -, h⟩
    · exact Or.inr (segments_eq_error hsegments)
    · exact absurd h pure_ne_error

end Template
end Stencil
