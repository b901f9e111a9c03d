import Stencil.Proofs.Template.Compilation
import Stencil.Proofs.Template.Dotted
import Stencil.Proofs.Template.Looking

/-!
# Which programs are compiled

The program of a template is compiled when every expression that it looks up is a dotted path.
It is refused at the first expression that is none; what a component marker is read as is never
one.  A compiled template keeps the whole program: its parts are the tokens one by one, and its
paths spell the expressions they come from.

Main results:

- Definition `FirstRefused`: the first expression that is no path.
- Theorem `compile_eq_error_iff`: when a program is refused, and what the error names.
- Theorem `program_of_compile`: the program is read back from the compiled template.
- Theorem `compile_accepts_dotted_paths`: which templates are compiled, and to what.
-/

namespace Stencil
namespace Template

open Text Outcome

variable {d : Delimiters} {tokens : List Token} {identifier text expression first : Text}
  {rest : List Text} {p : Program} {c : Compiled} {ss : List Segment}

/-! ## The first expression that is refused -/

/-- The given expression is the first of a list that does not split into words. -/
def FirstRefused (expressions : List Text) (expression : Text) : Prop :=
  ∃ before after, expressions = before ++ expression :: after ∧
    (∀ accepted ∈ before, Worded accepted) ∧ ¬ Worded expression

theorem not_firstRefused_nil : ¬ FirstRefused [] expression := by
  rintro ⟨before, after, hsplit, -⟩
  cases before <;> cases hsplit

/-- The first expression is refused itself, or it is accepted and refusal lies behind it. -/
theorem firstRefused_cons : FirstRefused (first :: rest) expression ↔
    (¬ Worded first ∧ expression = first) ∨ (Worded first ∧ FirstRefused rest expression) := by
  constructor
  · rintro ⟨before, after, hsplit, hbefore, hrefused⟩
    cases before with
    | nil =>
        rcases List.cons.inj hsplit with ⟨rfl, rfl⟩
        exact Or.inl ⟨hrefused, rfl⟩
    | cons accepted before =>
        rcases List.cons.inj hsplit with ⟨rfl, rfl⟩
        rcases List.forall_mem_cons.1 hbefore with ⟨hfirst, hbefore⟩
        exact Or.inr ⟨hfirst, before, after, rfl, hbefore, hrefused⟩
  · rintro (⟨hrefused, rfl⟩ | ⟨hfirst, before, after, rfl, hbefore, hrefused⟩)
    · exact ⟨[], rest, rfl, by simp, hrefused⟩
    · exact ⟨first :: before, after, rfl, List.forall_mem_cons.2 ⟨hfirst, hbefore⟩, hrefused⟩

theorem not_firstRefused_of_forall {expressions : List Text}
    (h : ∀ e ∈ expressions, Worded e) : ¬ FirstRefused expressions expression := by
  rintro ⟨before, after, rfl, -, hrefused⟩
  exact hrefused (h expression (by simp))

/-! ## Programs -/

theorem compileSegment_lookup (hworded : Worded expression) (identifier : Text) :
    compileSegment identifier (.lookup expression) = .ok (.path (split '.' expression)) :=
  if_pos (isPath_iff.2 hworded)

theorem compileSegment_lookup_of_not (hworded : ¬ Worded expression) (identifier : Text) :
    compileSegment identifier (.lookup expression) = .error (.notAPath expression identifier) :=
  if_neg fun hpath => hworded (isPath_iff.1 hpath)

theorem Program.lookups_text (t : Text) (ss : List Segment) :
    (⟨.text t :: ss⟩ : Program).lookups = (⟨ss⟩ : Program).lookups := rfl

theorem Program.lookups_lookup (expression : Text) (ss : List Segment) :
    (⟨.lookup expression :: ss⟩ : Program).lookups = expression :: (⟨ss⟩ : Program).lookups := rfl

/-- Segments are refused at the first one, or behind it when that one was compiled. -/
theorem compileSegments_cons_eq_error_iff {s : Segment} {error : Error} :
    compileSegments identifier (s :: ss) = .error error ↔
      compileSegment identifier s = .error error ∨
        (∃ part, compileSegment identifier s = .ok part) ∧
          compileSegments identifier ss = .error error := by
  simp only [compileSegments, bind_eq_error_iff, pure_ne_error, and_false, exists_false, or_false,
    exists_and_right]

theorem compileSegments_eq_error_iff {error : Error} :
    compileSegments identifier ss = .error error ↔
      ∃ expression, FirstRefused (⟨ss⟩ : Program).lookups expression ∧
        error = .notAPath expression identifier := by
  induction ss with
  | nil => simp [compileSegments, Program.lookups, not_firstRefused_nil]
  | cons s ss ih =>
      rw [compileSegments_cons_eq_error_iff, ih]
      cases s with
      | text t => simp [compileSegment, Program.lookups_text]
      | lookup expression =>
          rw [Program.lookups_lookup]
          by_cases hworded : Worded expression
          · simp [compileSegment_lookup hworded, firstRefused_cons, hworded]
          · simp [compileSegment_lookup_of_not hworded, firstRefused_cons, hworded, eq_comm]

/-- A program is refused at its first expression that is no path, and the error names it. -/
theorem compile_eq_error_iff {error : Error} :
    compile p identifier = .error error ↔
      ∃ expression, FirstRefused p.lookups expression ∧
        error = .notAPath expression identifier := by
  rw [compile, map_eq_error_iff, compileSegments_eq_error_iff]

/-- A program is compiled when all its expressions are paths. -/
theorem exists_compile_iff :
    (∃ c, compile p identifier = .ok c) ↔ ∀ expression ∈ p.lookups, Worded expression := by
  constructor
  · rintro ⟨c, hc⟩ expression hmem
    exact isPath_iff.1 ((lookups_of_compile hc).2 expression hmem)
  · intro hall
    cases hcompile : compile p identifier with
    | ok c => exact ⟨c, rfl⟩
    | error error =>
        rcases compile_eq_error_iff.1 hcompile with ⟨expression, hrefused, -⟩
        exact absurd hrefused (not_firstRefused_of_forall hall)

/-! ## Reading a program back -/

/-- The segment that a part was compiled from. -/
def Part.segment : Part → Segment
  | .text t => .text t
  | .path words => .lookup (join ['.'] words)

/-- The program that a template was compiled from. -/
def Compiled.program (c : Compiled) : Program := ⟨c.parts.map Part.segment⟩

theorem segment_of_compileSegment {s : Segment} {part : Part}
    (h : compileSegment identifier s = .ok part) : part.segment = s := by
  cases s with
  | text t =>
      obtain rfl := Except.ok.inj h
      rfl
  | lookup expression =>
      rw [compileSegment] at h
      split at h
      · obtain rfl := Except.ok.inj h
        rw [Part.segment, join_split]
      · cases h

theorem map_segment_of_compileSegments {parts : List Part}
    (h : compileSegments identifier ss = .ok parts) : parts.map Part.segment = ss := by
  induction ss generalizing parts with
  | nil =>
      obtain rfl := Except.ok.inj h
      rfl
  | cons s ss ih =>
      rcases bind_eq_ok_iff.1 h with ⟨part, hpart, h⟩
      rcases bind_eq_ok_iff.1 h with ⟨parts', hparts, h⟩
      obtain rfl := Except.ok.inj h
      rw [List.map_cons, segment_of_compileSegment hpart, ih hparts]

/-- Compiling loses nothing. -/
theorem program_of_compile (h : compile p identifier = .ok c) : c.program = p := by
  rcases map_eq_ok_iff.1 h with ⟨parts, hparts, rfl⟩
  rw [Compiled.program, map_segment_of_compileSegments hparts]

/-! ## Templates -/

namespace Token

/-- The expression that a token is looked up with.  Literal text has none. -/
def expression? : Token → Option Text
  | literal _ => none
  | placeholder expression _ => some expression
  | component name _ => some ("component(" ++ name ++ ")")

/-- The part of a compiled template that shows a token: its text, or words that spell its
expression when they are joined by points. -/
inductive CompiledTo : Token → Part → Prop
  | literal (t : Text) : CompiledTo (.literal t) (.text t)
  | placeholder (expression raw : Text) (words : List Text) (hne : words ≠ [])
      (hwords : ∀ word ∈ words, IsWord word) (hjoin : join ['.'] words = expression) :
      CompiledTo (.placeholder expression raw) (.path words)

end Token

theorem lookups_of_interpolate (h : interpolate d identifier text = .ok p) :
    p.lookups = (scan d text).filterMap Token.expression? := by
  rw [Program.lookups, segments_of_interpolate h, List.filterMap_map]
  congr 1
  funext token
  cases token <;> rfl

/-- What a component marker is read as splits into no words. -/
theorem not_worded_component (name : Text) : ¬ Worded ("component(" ++ name ++ ")") := by
  rw [← isPath_iff, isPath_component]
  exact Bool.false_ne_true

/-- The expressions of a template are paths when no component marker is left in it and its
placeholders hold paths. -/
theorem forall_worded_iff :
    (∀ expression ∈ tokens.filterMap Token.expression?, Worded expression) ↔
      (∀ name raw, .component name raw ∉ tokens) ∧
        ∀ expression raw, .placeholder expression raw ∈ tokens → Worded expression := by
  constructor
  · intro hall
    constructor
    · intro name raw hmem
      exact not_worded_component name (hall _ (List.mem_filterMap.2 ⟨_, hmem, rfl⟩))
    · intro expression raw hmem
      exact hall expression (List.mem_filterMap.2 ⟨_, hmem, rfl⟩)
  · rintro ⟨hcomponents, hplaceholders⟩ expression hmem
    rcases List.mem_filterMap.1 hmem with ⟨token, htoken, hexpression⟩
    cases token with
    | literal t => cases hexpression
    | component name raw => exact absurd htoken (hcomponents name raw)
    | placeholder inside raw =>
        obtain rfl : inside = expression := Option.some.inj hexpression
        exact hplaceholders inside raw htoken

/-- A template is compiled token by token. -/
theorem forall₂_compiledTo (h : interpolate d identifier text = .ok p) {name : Text}
    (hc : compile p name = .ok c) : List.Forall₂ Token.CompiledTo (scan d text) c.parts := by
  have htext : compileText d identifier text = .ok c :=
    bind_eq_ok_iff.2 ⟨p, h, compile_eq_ok hc identifier⟩
  rcases compileText_eq_ok_iff.1 htext with ⟨-, hcompilable, hparts⟩
  rw [← hparts, List.forall₂_map_right_iff, List.forall₂_same]
  intro token htoken
  cases token with
  | literal t => exact .literal t
  | component name raw => exact absurd (hcompilable _ htoken) id
  | placeholder expression raw =>
      rcases isPath_iff.1 (hcompilable _ htoken) with ⟨hne, hwords⟩
      exact .placeholder expression raw _ hne hwords (join_split '.' expression)

/-- A template that is read as a program is compiled exactly when no component marker is left
in it and every placeholder splits at its points into words; the expressions that do are those
of the grammar of paths.  Otherwise the error names the first expression that does not.  The
parts of the compiled template are the tokens, in order, and no other program has the same
parts. -/
theorem compile_accepts_dotted_paths (h : interpolate d identifier text = .ok p) (name : Text) :
    ((∃ c, compile p name = .ok c) ↔
      (∀ component raw, .component component raw ∉ scan d text) ∧
        ∀ expression raw, .placeholder expression raw ∈ scan d text → Worded expression) ∧
    (∀ expression, Worded expression ↔ expression ∈ Dotted.path) ∧
    (∀ error, compile p name = .error error ↔
      ∃ expression, FirstRefused ((scan d text).filterMap Token.expression?) expression ∧
        error = .notAPath expression name) ∧
    ∀ c, compile p name = .ok c →
      List.Forall₂ Token.CompiledTo (scan d text) c.parts ∧
        ∀ other otherName, compile other otherName = .ok c → other = p := by
  refine ⟨?_, fun expression => worded_iff_mem_path, ?_, ?_⟩
  · rw [exists_compile_iff, lookups_of_interpolate h, forall_worded_iff]
  · intro error
    rw [compile_eq_error_iff, lookups_of_interpolate h]
  · intro c hc
    refine ⟨forall₂_compiledTo h hc, ?_⟩
    intro other otherName hother
    rw [← program_of_compile hother, program_of_compile hc]

/-- A component marker between two placeholders is refused, although a later placeholder is
no path either. -/
theorem compile_accepts_dotted_paths_component :
    ∃ p, interpolate ⟨"<<", ">>"⟩ "page" "<<a.b>> <<component( x )>> <<b c>>" = .ok p ∧
      compile p "page" = .error (.notAPath "component(x)" "page") := by
  have hread : interpolate ⟨"<<", ">>"⟩ "page" "<<a.b>> <<component( x )>> <<b c>>" =
      .ok ⟨[.lookup "a.b", .text " ", .lookup "component(x)", .text " ", .lookup "b c"]⟩ := by
    decide +kernel
  refine ⟨_, hread, ((compile_accepts_dotted_paths hread "page").2.2.1 _).2 ?_⟩
  have haccepted : Worded "a.b" := by decide +kernel
  refine ⟨"component(x)", ⟨["a.b"], ["b c"], by decide +kernel, ?_, by decide +kernel⟩, rfl⟩
  simpa using haccepted

end Template
end Stencil
