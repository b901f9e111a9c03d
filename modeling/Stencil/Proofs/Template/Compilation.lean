import Stencil.Proofs.Template.CleanText

/-!
# Which templates are compiled

A template is compiled when its lines are balanced, no component marker is left in it, and
every placeholder holds a dotted path.  The parts of the compiled template are then its
tokens, one by one and in order.

Main results:

- Definitions `Token.Compilable` and `Token.part`: the tokens that can be compiled, and
  what they are compiled to.
- Theorem `compileText_eq_ok_iff`: when a template is compiled, and to what.
-/

namespace Stencil
namespace Template

open Text Outcome

variable {d : Delimiters} {tokens : List Token} {identifier text : Text}

/-- The compiled template of a text. -/
def compileText (d : Delimiters) (identifier text : Text) : Except Error Compiled := do
  let program ← interpolate d identifier text
  compile program identifier

namespace Token

/-- Whether a token can be compiled: a placeholder must hold a path, and a component marker
never can. -/
def Compilable : Token → Prop
  | literal _ => True
  | placeholder expression _ => isPath expression = true
  | component _ _ => False

/-- The part that a token is compiled to. -/
def part : Token → Part
  | literal t => .text t
  | placeholder expression _ => .path (split '.' expression)
  | component name _ => .path [name]

end Token

/-- What a component marker is read as is no path. -/
theorem isPath_component (name : Text) : isPath ("component(" ++ name ++ ")") = false := by
  rw [← Bool.not_eq_true]
  intro hpath
  exact componentName?_eq_none_iff.1 (componentName?_of_isPath hpath) name rfl

theorem segment_compile_eq_ok_iff {token : Token} {part : Part} :
    (∃ s, segment identifier token = .ok s ∧ compileSegment identifier s = .ok part) ↔
      token.Compilable ∧ token.part = part := by
  cases token with
  | literal t => simp [segment, compileSegment, Token.Compilable, Token.part]
  | component name raw =>
      have hrefused : compileSegment identifier (.lookup ("component(" ++ name ++ ")")) ≠
          .ok part := by
        rw [compileSegment, isPath_component]
        simp
      simpa [segment, Token.Compilable] using hrefused
  | placeholder expression raw =>
      rw [segment]
      by_cases hempty : expression = []
      · subst hempty
        have hpath : isPath [] = false := by decide
        simp [Token.Compilable, hpath]
      · rw [if_neg hempty]
        by_cases hpath : isPath expression = true
        · simp [compileSegment, Token.Compilable, Token.part, hpath]
        · simp [compileSegment, Token.Compilable, hpath]

theorem segments_compile_eq_ok_iff {parts : List Part} :
    (∃ ss, segments identifier tokens = .ok ss ∧ compileSegments identifier ss = .ok parts) ↔
      (∀ token ∈ tokens, token.Compilable) ∧ tokens.map Token.part = parts := by
  induction tokens generalizing parts with
  | nil => simp [segments, compileSegments, eq_comm]
  | cons token tokens ih =>
      rw [List.forall_mem_cons, List.map_cons]
      constructor
      · rintro ⟨ss, hss, hparts⟩
        obtain ⟨s, hs, hss⟩ := bind_eq_ok_iff.1 hss
        obtain ⟨ss', hss', hss⟩ := bind_eq_ok_iff.1 hss
        obtain rfl := Except.ok.inj hss
        obtain ⟨part, hpart, hparts⟩ := bind_eq_ok_iff.1 hparts
        obtain ⟨parts', hparts', hparts⟩ := bind_eq_ok_iff.1 hparts
        obtain rfl := Except.ok.inj hparts
        obtain ⟨hfirst, rfl⟩ := segment_compile_eq_ok_iff.1 ⟨s, hs, hpart⟩
        obtain ⟨hrest, rfl⟩ := ih.1 ⟨ss', hss', hparts'⟩
        exact ⟨⟨hfirst, hrest⟩, rfl⟩
      · rintro ⟨⟨hfirst, hrest⟩, rfl⟩
        obtain ⟨s, hs, hpart⟩ : ∃ s, segment identifier token = .ok s ∧
            compileSegment identifier s = .ok token.part :=
          segment_compile_eq_ok_iff.2 ⟨hfirst, rfl⟩
        obtain ⟨ss, hss, hparts⟩ := ih.2 ⟨hrest, rfl⟩
        exact ⟨s :: ss, bind_eq_ok_iff.2 ⟨s, hs, bind_eq_ok_iff.2 ⟨ss, hss, rfl⟩⟩,
          bind_eq_ok_iff.2 ⟨_, hpart, bind_eq_ok_iff.2 ⟨_, hparts, rfl⟩⟩⟩

/-- A template is compiled when it is balanced and all its tokens can be compiled, and then
part by part. -/
theorem compileText_eq_ok_iff {compiled : Compiled} :
    compileText d identifier text = .ok compiled ↔
      checkBalance d identifier text = .ok () ∧ (∀ token ∈ scan d text, token.Compilable) ∧
        (scan d text).map Token.part = compiled.parts := by
  have htokens : (∃ ss, segments identifier (scan d text) = .ok ss ∧
      compileSegments identifier ss = .ok compiled.parts) ↔ _ := segments_compile_eq_ok_iff
  rw [← htokens]
  constructor
  · intro h
    obtain ⟨program, hprogram, hcompiled⟩ := bind_eq_ok_iff.1 h
    obtain ⟨⟨⟩, hbalance, hprogram⟩ := bind_eq_ok_iff.1 hprogram
    obtain ⟨ss, hss, hprogram⟩ := bind_eq_ok_iff.1 hprogram
    obtain rfl := Except.ok.inj hprogram
    obtain ⟨parts, hparts, rfl⟩ := map_eq_ok_iff.1 hcompiled
    exact ⟨hbalance, ss, hss, hparts⟩
  · rintro ⟨hbalance, ss, hss, hparts⟩
    refine bind_eq_ok_iff.2 ⟨⟨ss⟩, ?_, map_eq_ok_iff.2 ⟨_, hparts, rfl⟩⟩
    exact bind_eq_ok_iff.2 ⟨(), hbalance, bind_eq_ok_iff.2 ⟨ss, hss, rfl⟩⟩

end Template
end Stencil
