import Stencil.Proofs.Render.Coherence
import Stencil.Proofs.Template.Lines

/-!
# Rendering line by line

With delimiters on one line, what is written on lines of its own is expanded, checked,
compiled and rendered by itself.  So all stages of rendering take a template that is
written below another one to what the two templates come to, again one below the other.

Main results:

- Theorem `expandTokens_append`: tokens in a row are expanded one list after the other.
- Theorem `Plain.expand_append_line`: two templates on lines of their own are expanded to
  their two expansions.
- Theorem `stages_append_line`: the same of all stages over a session.
-/

namespace Stencil
namespace Render

open Stencil.Render.Action Outcome Template

namespace Plain

variable {expand : Text → Except Failure Text}

/-! ## Expansion -/

/-- Tokens in a row are expanded one list after the other. -/
theorem expandTokens_append (expand : Text → Except Failure Text) (xs ys : List Token) :
    expandTokens expand (xs ++ ys) = (do
      let x ← expandTokens expand xs
      let y ← expandTokens expand ys
      return x ++ y) := by
  induction xs with
  | nil =>
      rw [List.nil_append]
      cases expandTokens expand ys <;> rfl
  | cons token xs ih =>
      rw [List.cons_append, expandTokens, expandTokens, ih]
      simp only [bind_assoc, pure_bind, List.append_assoc]

theorem expandTokens_literal (t : Text) (tokens : List Token) :
    expandTokens expand (.literal t :: tokens) = (t ++ ·) <$> expandTokens expand tokens := by
  rw [expandTokens]
  cases expandTokens expand tokens <;> rfl

theorem expandTokens_literalTokens (t : Text) :
    expandTokens expand (literalTokens t) = .ok t := by
  unfold literalTokens
  split
  · rename_i hnil
    rw [hnil]
    rfl
  · rw [expandTokens_literal, expandTokens]
    exact congrArg Except.ok (List.append_nil t)

theorem expandTokens_withText (t : Text) (tokens : List Token) :
    expandTokens expand (withText t tokens) = (t ++ ·) <$> expandTokens expand tokens := by
  rcases withText_cases t tokens with ⟨-, htokens⟩ | ⟨u, rest, rfl, htokens⟩
  · rw [htokens, expandTokens_append, expandTokens_literalTokens]
    cases expandTokens expand tokens <;> rfl
  · rw [htokens, expandTokens_literal, expandTokens_literal]
    cases expandTokens expand rest <;> simp

/-- Two templates on lines of their own are expanded to their two expansions, and fail as the
first of them that fails. -/
theorem expand_append_line {c : Config} (hd : c.delimiters.Proper)
    (hopening : '\n' ∉ c.delimiters.opening) (hclosing : '\n' ∉ c.delimiters.closing)
    (tree : File.Tree) (n : Nat) (identifier a b : Text) :
    Plain.expand c tree n identifier (a ++ '\n' :: b) = (do
      let x ← Plain.expand c tree n identifier a
      let y ← Plain.expand c tree n identifier b
      return x ++ '\n' :: y) := by
  obtain ⟨component, hexpand⟩ : ∃ component, ∀ text, Plain.expand c tree n identifier text =
      expandTokens component (scan c.delimiters text) := by
    cases n with
    | zero => exact ⟨_, fun _ => rfl⟩
    | succ n => exact ⟨_, fun _ => rfl⟩
  obtain ⟨front, tail, ha, hjoin⟩ := exists_scan_append_line hd hopening hclosing a
  rw [hexpand, hexpand, hexpand, hjoin b, ha, expandTokens_append, expandTokens_append,
    expandTokens_literalTokens, expandTokens_withText]
  generalize expandTokens component front = x
  generalize expandTokens component (scan c.delimiters b) = y
  cases x with
  | error f => rfl
  | ok x =>
      cases y with
      | error f => rfl
      | ok y =>
          change Except.ok (x ++ (tail ++ ['\n'] ++ y)) = Except.ok (x ++ tail ++ '\n' :: y)
          simp

end Plain

/-! ## All stages -/

/-- A template below another one, on lines of its own: it is checked after the other one
with its lines counted on; both are expanded, to the one expansion below the other; and
the whole is compiled when both are, and rendered to the one text below the other. -/
theorem stages_append_line (s : Session) (hc : s.config.Valid)
    (hopening : '\n' ∉ s.config.delimiters.opening)
    (hclosing : '\n' ∉ s.config.delimiters.closing)
    (hs : Coherent s.config (fun _ => True) s.tree s) (a b : Text) (depth : Int)
    (identifier : Text) :
    let d := s.config.delimiters
    let whole := a ++ '\n' :: b
    -- balance
    (checkBalance d identifier whole = .ok () ↔
      checkBalance d identifier a = .ok () ∧ checkBalance d identifier b = .ok ()) ∧
    (∀ line imbalance,
      checkBalance d identifier a = .error (.unbalanced identifier line imbalance) →
        checkBalance d identifier whole = .error (.unbalanced identifier line imbalance)) ∧
    (∀ line imbalance, checkBalance d identifier a = .ok () →
      checkBalance d identifier b = .error (.unbalanced identifier line imbalance) →
        checkBalance d identifier whole =
          .error (.unbalanced identifier ((Text.lines a).length + line) imbalance)) ∧
    -- expansion
    (∀ out, (inline whole depth identifier s).1 = .ok out ↔
      ∃ x y, (inline a depth identifier s).1 = .ok x ∧ (inline b depth identifier s).1 = .ok y ∧
        out = x ++ '\n' :: y) ∧
    -- compilation
    ((∃ compiled, compileText d identifier whole = .ok compiled) ↔
      (∃ above, compileText d identifier a = .ok above) ∧
        ∃ below, compileText d identifier b = .ok below) ∧
    (∀ compiled above below, compileText d identifier whole = .ok compiled →
      compileText d identifier a = .ok above → compileText d identifier b = .ok below →
        ∀ data x y, above.apply data = .ok x → below.apply data = .ok y →
          compiled.apply data = .ok (x ++ '\n' :: y)) := by
  intro d whole
  refine ⟨checkBalance_append_line_eq_ok_iff, fun _ _ => checkBalance_append_line_of_above,
    fun _ _ => checkBalance_append_line_of_below, ?_,
    exists_compileText_append_line_iff hc.proper hopening hclosing, ?_⟩
  · intro out
    rw [inline_run_fst hc hs, inline_run_fst hc hs, inline_run_fst hc hs,
      Plain.expand_append_line hc.proper hopening hclosing]
    simp only [mapError_eq_ok_iff, bind_eq_ok_iff, pure_eq_ok_iff]
    constructor
    · rintro ⟨x, hx, y, hy, rfl⟩
      exact ⟨x, y, hx, hy, rfl⟩
    · rintro ⟨x, y, hx, hy, rfl⟩
      exact ⟨x, hx, y, hy, rfl⟩
  · intro compiled above below hwhole habove hbelow data x y hx hy
    rw [apply_append_line hc.proper hopening hclosing hwhole habove hbelow, hx, hy]
    rfl

/-- A session over a component of two lines. -/
def seamSession : Session :=
  .start Config.standard
    ⟨[], [(["components"], .directory),
      (["components", "k.mizui"], .file (Text.Utf8.encode "<\n>"))]⟩ "now"

/-- An opening delimiter at the end of the upper template and a closing one at the beginning
of the lower template make no marker, and both templates are expanded by themselves. -/
theorem stages_append_line_seam :
    let above : Text := "\x7b\x7bcomponent(k)\x7d\x7d \x7b\x7b"
    let below : Text := "\x7d\x7d \x7b\x7bname\x7d\x7d"
    seamSession.config.Valid ∧ '\n' ∉ seamSession.config.delimiters.opening ∧
      '\n' ∉ seamSession.config.delimiters.closing ∧
      Coherent seamSession.config (fun _ => True) seamSession.tree seamSession ∧
      (inline (above ++ '\n' :: below) 0 "page" seamSession).1 =
        .ok ("<\n> \x7b\x7b" ++ '\n' :: below) ∧
      checkBalance seamSession.config.delimiters "page" (above ++ '\n' :: below) =
        .error (.unbalanced "page" 1 (.missing "\x7d\x7d")) := by
  intro above below
  have hopening : '\n' ∉ seamSession.config.delimiters.opening := by decide
  have hclosing : '\n' ∉ seamSession.config.delimiters.closing := by decide
  have hs : Coherent seamSession.config (fun _ => True) seamSession.tree seamSession :=
    coherent_of_entries_eq_nil rfl (.refl _ _) rfl
  obtain ⟨-, hbalance, -, hinline, -⟩ := stages_append_line seamSession Config.valid_standard
    hopening hclosing hs above below 0 "page"
  exact ⟨Config.valid_standard, hopening, hclosing, hs,
    (hinline _).2 ⟨_, below, by decide +kernel, by decide +kernel, rfl⟩,
    hbalance 1 _ (by decide +kernel)⟩

end Render
end Stencil
