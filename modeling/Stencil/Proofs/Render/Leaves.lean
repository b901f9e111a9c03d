import Stencil.Proofs.Render.Composition
import Stencil.Proofs.Template.Reassembly

/-!
# The leaves of an expansion

Expansion takes a text apart into literals and placeholders, its own and those of the files that
it includes, and writes them one after the other.  These leaves hold no component marker, but
what they are written to may: where an opening delimiter begins in literal text, it can be closed
by something that came from elsewhere.  Where none does, the expansion is complete: scanning it
finds the placeholders among the leaves and no other markers.

Main results:

- Relation `Flattens`: the leaves of a list of tokens, in order.
- Theorem `Flattens.mem_scan`: a leaf comes from the text or from a file that it includes.
- Theorem `inline_eq_self`: without component markers, expansion changes nothing.
- Theorem `inline_leaves`: what expansion leaves behind, and when it is complete.
-/

namespace Stencil
namespace Render

open Stencil.Render.Action Outcome Template

variable {c : Config} {tree : File.Tree} {tokens leaves : List Token} {text : Text}

/-! ## Leaves -/

/-- The leaves of a list of tokens: a component marker stands for the leaves of its file, and
every other token is a leaf itself. -/
inductive Flattens (c : Config) (tree : File.Tree) : List Token → List Token → Prop where
  | nil : Flattens c tree [] []
  | component {name raw inner : Text} {tokens front rest : List Token}
      (hread : readTree tree (c.componentPath name) = .ok inner)
      (hinner : Flattens c tree (scan c.delimiters inner) front)
      (hrest : Flattens c tree tokens rest) :
      Flattens c tree (.component name raw :: tokens) (front ++ rest)
  | other {token : Token} {tokens rest : List Token} (htoken : token.isComponent = false)
      (hrest : Flattens c tree tokens rest) : Flattens c tree (token :: tokens) (token :: rest)

/-- The full expansion is the leaves, one after the other. -/
theorem Expands.exists_leaves {out : Text} (h : Expands c tree tokens out) :
    ∃ leaves, Flattens c tree tokens leaves ∧ unscan leaves = out := by
  induction h with
  | nil => exact ⟨[], .nil, rfl⟩
  | component hread _ _ ihInner ihRest =>
      rcases ihInner with ⟨front, hfront, rfl⟩
      rcases ihRest with ⟨rest, hrest, rfl⟩
      exact ⟨front ++ rest, .component hread hfront hrest, unscan_append front rest⟩
  | @other token _ _ htoken _ ih =>
      rcases ih with ⟨rest, hrest, rfl⟩
      exact ⟨token :: rest, .other htoken hrest, unscan_cons token rest⟩

/-- No leaf is a component marker. -/
theorem Flattens.isComponent_eq_false (h : Flattens c tree tokens leaves) :
    ∀ leaf ∈ leaves, leaf.isComponent = false := by
  induction h with
  | nil => simp
  | component _ _ _ ihInner ihRest =>
      intro leaf hleaf
      rcases List.mem_append.1 hleaf with hfront | hrest
      · exact ihInner leaf hfront
      · exact ihRest leaf hrest
  | other htoken _ ih => exact List.forall_mem_cons.2 ⟨htoken, ih⟩

/-- A leaf comes from the text, or from a file that the text includes. -/
theorem Flattens.mem_scan (h : Flattens c tree tokens leaves)
    (htokens : ∀ token ∈ tokens, token ∈ scan c.delimiters text) {leaf : Token}
    (hleaf : leaf ∈ leaves) :
    leaf ∈ scan c.delimiters text ∨ ∃ name inner, Includes c tree text name ∧
      readTree tree (c.componentPath name) = .ok inner ∧ leaf ∈ scan c.delimiters inner := by
  induction h generalizing text with
  | nil => simp at hleaf
  | @component name raw inner tokens front rest hread _ _ ihInner ihRest =>
      have hname : name ∈ components c.delimiters text :=
        mem_componentNames.2 ⟨raw, htokens _ List.mem_cons_self⟩
      rcases List.mem_append.1 hleaf with hfront | hrest
      · right
        rcases ihInner (fun _ h => h) hfront with hhere | ⟨below, text', hbelow, hread', hthere⟩
        · exact ⟨name, inner, .here hname, hread, hhere⟩
        · exact ⟨below, text', .inside hname hread hbelow, hread', hthere⟩
      · apply ihRest _ hrest
        intro token htoken
        exact htokens token (List.mem_cons_of_mem _ htoken)
  | @other token tokens rest _ _ ih =>
      rcases List.mem_cons.1 hleaf with rfl | hrest
      · left
        exact htokens leaf List.mem_cons_self
      · apply ih _ hrest
        intro next hnext
        exact htokens next (List.mem_cons_of_mem token hnext)

/-- A leaf that is a marker ends at its own closing delimiter. -/
theorem Flattens.closed (hd : c.delimiters.Proper)
    (h : Flattens c tree (scan c.delimiters text) leaves) :
    ∀ leaf ∈ leaves, leaf.Closed c.delimiters := by
  intro leaf hleaf
  rcases h.mem_scan (fun _ h => h) hleaf with hhere | ⟨name, inner, -, -, hthere⟩
  · exact closed_of_mem_scanFrom hd hhere
  · exact closed_of_mem_scanFrom hd hthere

/-- The leaves are sealed when all literal text is quiet, in the text and the files that it
includes. -/
theorem Flattens.sealed (hd : c.delimiters.Proper)
    (h : Flattens c tree (scan c.delimiters text) leaves)
    (htext : ∀ t, .literal t ∈ scan c.delimiters text → Quiet c.delimiters t)
    (hfiles : ∀ name inner, Includes c tree text name →
      readTree tree (c.componentPath name) = .ok inner →
        ∀ t, .literal t ∈ scan c.delimiters inner → Quiet c.delimiters t) :
    Sealed c.delimiters leaves := by
  apply sealed_of_quiet hd
  intro t ht
  rcases h.mem_scan (fun _ h => h) ht with hhere | ⟨name, inner, hname, hread, hthere⟩
  · exact htext t hhere
  · exact hfiles name inner hname hread t hthere

/-! ## Expansion without component markers -/

theorem expandTokens_eq_pure (expand : Text → Action Text)
    (h : ∀ token ∈ tokens, token.isComponent = false) :
    expandTokens expand tokens = pure (unscan tokens) := by
  induction tokens with
  | nil => rfl
  | cons token tokens ih =>
      rcases List.forall_mem_cons.1 h with ⟨htoken, hrest⟩
      cases token with
      | literal t =>
          unfold expandTokens
          rw [ih hrest, unscan_cons]
          rfl
      | placeholder expression raw =>
          unfold expandTokens
          rw [ih hrest, unscan_cons]
          rfl
      | component name raw => cases htoken

/-- A text without component markers is expanded to itself, and nothing happens meanwhile. -/
theorem inline_eq_self {s : Session} {out : Text}
    (h : ∀ token ∈ scan s.config.delimiters out, token.isComponent = false) (depth : Int)
    (identifier : Text) : inline out depth identifier s = (.ok out, s) := by
  have hpure : ∀ expand, expandTokens expand (scan s.config.delimiters out) = pure out := by
    intro expand
    rw [expandTokens_eq_pure expand h, unscan_scan]
  unfold inline
  rw [bind_run, get_run]
  dsimp only
  cases remainingDepth s.config depth with
  | zero =>
      rw [expand, bind_run, get_run]
      dsimp only
      rw [hpure, pure_run]
  | succ remaining =>
      rw [expand, bind_run, get_run]
      dsimp only
      rw [hpure, pure_run]

/-! ## What expansion leaves behind -/

/-- Expansion over a coherent cache writes the leaves of the text one after the other.  When no
opening delimiter begins in their literal text, the expansion is complete: its markers are the
placeholders among the leaves, none of them is a component marker, and expanding it again, in
whatever session, gives it back and does nothing.  So it is when no literal text holds the
first character of the opening delimiter, in the text and in the files that it includes. -/
theorem inline_leaves (s : Session) (hc : s.config.Valid)
    (hs : Coherent s.config (fun _ => True) s.tree s) (text : Text) (depth : Int)
    (identifier out : Text) (hinline : (inline text depth identifier s).1 = .ok out) :
    let d := s.config.delimiters
    ∃ leaves, Flattens s.config s.tree (scan d text) leaves ∧ unscan leaves = out ∧
      (Sealed d leaves →
        markers (scan d out) = markers leaves ∧
        (∀ token ∈ scan d out, token.isComponent = false) ∧
        ∀ s' depth' identifier', s'.config.delimiters = d →
          inline out depth' identifier' s' = (.ok out, s')) ∧
      ((∀ t, .literal t ∈ scan d text → Quiet d t) →
        (∀ name inner, Includes s.config s.tree text name →
          readTree s.tree (s.config.componentPath name) = .ok inner →
            ∀ t, .literal t ∈ scan d inner → Quiet d t) →
        Sealed d leaves) := by
  intro d
  have hexpand : Plain.expand s.config s.tree (remainingDepth s.config depth) identifier text =
      .ok out := by
    rw [inline_run_fst hc hs, mapError_eq_ok_iff] at hinline
    exact hinline
  rcases (Plain.expands_of_expand hexpand).exists_leaves with ⟨leaves, hleaves, rfl⟩
  refine ⟨leaves, hleaves, rfl, ?_, hleaves.sealed hc.proper⟩
  intro hsealed
  have hmarkers := markers_scan_unscan hc.proper (hleaves.closed hc.proper) hsealed
  have hcomplete : ∀ token ∈ scan d (unscan leaves), token.isComponent = false := by
    intro token htoken
    cases hliteral : token.isLiteral with
    | true =>
        cases token with
        | literal t => rfl
        | placeholder expression raw => rfl
        | component name raw => cases hliteral
    | false =>
        have hmarker := mem_markers.2 ⟨htoken, hliteral⟩
        rw [hmarkers] at hmarker
        exact hleaves.isComponent_eq_false token (mem_markers.1 hmarker).1
  refine ⟨hmarkers, hcomplete, ?_⟩
  intro s' depth' identifier' hdelimiters
  apply inline_eq_self
  rw [hdelimiters]
  exact hcomplete

/-- A page of which one component opens a marker inside a placeholder. -/
def quotedSession : Session :=
  .start Config.standard
    ⟨[], [(["components"], .directory),
      (["components", "a.mizui"], .file (Text.Utf8.encode "\x7b\x7b \x7b\x7bx\x7d\x7d\x7d!"))]⟩
    "now"

theorem includes_quoted {name : Text}
    (h : Includes quotedSession.config quotedSession.tree
      "\x7b\x7bcomponent(a)\x7d\x7d component(b) \x7d\x7d" name) : name = "a".toList := by
  have hpage : components quotedSession.config.delimiters
      "\x7b\x7bcomponent(a)\x7d\x7d component(b) \x7d\x7d" = ["a".toList] := by decide +kernel
  have hfile : ∀ inner ∈ (readTree quotedSession.tree
      (quotedSession.config.componentPath "a")).toOption,
        components quotedSession.config.delimiters inner = [] := by decide +kernel
  cases h with
  | here hname =>
      rw [hpage] at hname
      exact List.mem_singleton.1 hname
  | inside hname hread hbelow =>
      rw [hpage] at hname
      obtain rfl := List.mem_singleton.1 hname
      have hnone := hfile _ (by rw [hread]; rfl)
      exact absurd hbelow (not_includes_of_components_eq_nil hnone name)

/-- The closing delimiter that the page has left over does no harm: no opening delimiter begins
in literal text, and the expansion is complete. -/
theorem inline_leaves_quoted :
    let page : Text := "\x7b\x7bcomponent(a)\x7d\x7d component(b) \x7d\x7d"
    let out : Text := "\x7b\x7b \x7b\x7bx\x7d\x7d\x7d! component(b) \x7d\x7d"
    quotedSession.config.Valid ∧
      Coherent quotedSession.config (fun _ => True) quotedSession.tree quotedSession ∧
      (inline page 0 "page" quotedSession).1 = .ok out ∧
      (∀ token ∈ scan quotedSession.config.delimiters out, token.isComponent = false) ∧
      inline out 0 "page" quotedSession = (.ok out, quotedSession) := by
  intro page out
  have hs : Coherent quotedSession.config (fun _ => True) quotedSession.tree quotedSession :=
    coherent_of_entries_eq_nil rfl (.refl _ _) rfl
  have hinline : (inline page 0 "page" quotedSession).1 = .ok out := by decide +kernel
  rcases inline_leaves quotedSession Config.valid_standard hs page 0 "page" out hinline with
    ⟨leaves, -, -, hcomplete, hsealed⟩
  have hpage : ∀ t, .literal t ∈ scan quotedSession.config.delimiters page →
      Quiet quotedSession.config.delimiters t := by
    intro t ht
    have hscan : scan quotedSession.config.delimiters page =
        [.component "a" "\x7b\x7bcomponent(a)\x7d\x7d", .literal " component(b) \x7d\x7d"] := by
      decide +kernel
    rw [hscan] at ht
    obtain rfl : t = " component(b) \x7d\x7d".toList := by simpa using ht
    decide +kernel
  have hfiles : ∀ name inner, Includes quotedSession.config quotedSession.tree page name →
      readTree quotedSession.tree (quotedSession.config.componentPath name) = .ok inner →
        ∀ t, .literal t ∈ scan quotedSession.config.delimiters inner →
          Quiet quotedSession.config.delimiters t := by
    intro name inner hname hread t ht
    obtain rfl := includes_quoted hname
    have hfile : readTree quotedSession.tree (quotedSession.config.componentPath "a") =
        .ok "\x7b\x7b \x7b\x7bx\x7d\x7d\x7d!" := by decide +kernel
    obtain rfl := Except.ok.inj (hfile.symm.trans hread)
    have hscan : scan quotedSession.config.delimiters "\x7b\x7b \x7b\x7bx\x7d\x7d\x7d!" =
        [.placeholder "\x7b\x7bx" "\x7b\x7b \x7b\x7bx\x7d\x7d", .literal "\x7d!"] := by
      decide +kernel
    rw [hscan] at ht
    obtain rfl : t = "\x7d!".toList := by simpa using ht
    decide +kernel
  rcases hcomplete (hsealed hpage hfiles) with ⟨-, hnone, hagain⟩
  exact ⟨Config.valid_standard, hs, hinline, hnone, hagain quotedSession 0 "page" rfl⟩

/-- A page of which a component leaves a marker open. -/
def openSession : Session :=
  .start Config.standard
    ⟨[], [(["components"], .directory),
      (["components", "a.mizui"], .file (Text.Utf8.encode "\x7b\x7b"))]⟩ "now"

/-- The opening delimiter of the component and what stands behind its marker in the page make a
component marker, which expansion leaves behind and stumbles over the next time. -/
theorem inline_leaves_component_at_seam :
    let page : Text := "\x7b\x7bcomponent(a)\x7d\x7d component(b) \x7d\x7d"
    let out : Text := "\x7b\x7b component(b) \x7d\x7d"
    openSession.config.Valid ∧ openSession.cache.entries = [] ∧
      (inline page 0 "page" openSession).1 = .ok out ∧
      scan openSession.config.delimiters out = [.component "b" out] ∧
      (inline out 0 "page" openSession).1 =
        .error (.template (.componentNotFound "components/b.mizui" "page")) := by
  intro page out
  exact ⟨Config.valid_standard, rfl, by decide +kernel, by decide +kernel, by decide +kernel⟩

end Render
end Stencil
