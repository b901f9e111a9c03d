import Stencil.Proofs.Render.BoundedExpansion
import Stencil.Proofs.Template.CleanText

/-!
# Composition of components

A template is rendered by expanding its components, reading the whole as one program and
applying it to data.  It could as well be rendered by composition: every component by
itself, and what comes of it put in the place of its marker.  For clean templates with
delimiters apart both give the same text, or raise the same exception.

Main results:

- Relation `Renders`, with Theorem `Renders.unique`: rendering by composition.
- Theorem `exists_pieces_of_expands`: the expansion of clean templates is put together from
  clean pieces, and composition renders these pieces one after the other.
- Theorem `inline_renders`: rendering the expansion is rendering by composition.
-/

namespace Stencil

/-- The data that a template is applied to: no data is the same as an empty mapping. -/
def Data.context (data : Data) : Data :=
  match data.root with
  | .null => .ofTree (.mapping [])
  | _ => data

namespace Render

open Stencil.Render.Action Outcome Template

variable {c : Config} {tree : File.Tree}

/-! ## Rendering by composition -/

/-- What composition makes of a list of tokens: every literal stands for itself, every
placeholder for the text that it looks up, and every component marker for what composition
makes of its file.  The first exception on the way is raised. -/
inductive Renders (c : Config) (tree : File.Tree) (data : Data) :
    List Token → Except Raised Text → Prop where
  | nil : Renders c tree data [] (.ok [])
  | literal {t : Text} {tokens : List Token} {rest : Except Raised Text}
      (hrest : Renders c tree data tokens rest) :
      Renders c tree data (.literal t :: tokens) (do
        let rest ← rest
        return t ++ rest)
  | placeholder {expression raw : Text} {tokens : List Token} {rest : Except Raised Text}
      (hrest : Renders c tree data tokens rest) :
      Renders c tree data (.placeholder expression raw :: tokens) (do
        let t ← (Part.path (Text.split '.' expression)).render data
        let rest ← rest
        return t ++ rest)
  | component {name raw inner : Text} {tokens : List Token} {text rest : Except Raised Text}
      (hread : readTree tree (c.componentPath name) = .ok inner)
      (hinner : Renders c tree data (scan c.delimiters inner) text)
      (hrest : Renders c tree data tokens rest) :
      Renders c tree data (.component name raw :: tokens) (do
        let t ← text
        let rest ← rest
        return t ++ rest)

/-- Composition has one outcome only. -/
theorem Renders.unique {data : Data} {tokens : List Token} {r r' : Except Raised Text}
    (h : Renders c tree data tokens r) (h' : Renders c tree data tokens r') : r = r' := by
  induction h generalizing r' with
  | nil =>
      cases h'
      rfl
  | literal _ ih =>
      cases h' with
      | literal hrest' => rw [ih hrest']
  | placeholder _ ih =>
      cases h' with
      | placeholder hrest' => rw [ih hrest']
  | component hread _ _ ihInner ihRest =>
      cases h' with
      | component hread' hinner' hrest' =>
          rw [hread] at hread'
          obtain rfl := Except.ok.inj hread'
          rw [ihInner hinner', ihRest hrest']

theorem Renders.piece {data : Data} {tokens : List Token} {parts : List Part}
    (h : Renders c tree data tokens (renderParts data parts)) (piece : Piece) :
    Renders c tree data (piece.token c.delimiters :: tokens)
      (renderParts data (piece.part :: parts)) := by
  cases piece with
  | text t => exact .literal h
  | placeholder inner => exact .placeholder h

/-! ## Expansions of clean templates -/

/-- The expansion of clean templates is put together from clean pieces, and composition
renders them one after the other. -/
theorem exists_pieces_of_expands {tokens : List Token} {out : Text} (hd : c.delimiters.Apart)
    (h : Expands c tree tokens out)
    (htokens : ∀ token ∈ tokens, token.isComponent = false →
      ∃ piece : Piece, piece.Clean c.delimiters ∧ piece.token c.delimiters = token)
    (hfiles : ∀ name ∈ componentNames tokens, ∀ inner,
      readTree tree (c.componentPath name) = .ok inner → Clean c.delimiters inner ∧
        ∀ below, Includes c tree inner below → ∀ text,
          readTree tree (c.componentPath below) = .ok text → Clean c.delimiters text) :
    ∃ pieces, (∀ piece ∈ pieces, piece.Clean c.delimiters) ∧
      assemble c.delimiters pieces = out ∧
      ∀ data, Renders c tree data tokens (renderParts data (pieces.map Piece.part)) := by
  induction h with
  | nil => exact ⟨[], by simp, rfl, fun data => .nil⟩
  | component hread _ _ ihInner ihRest =>
      obtain ⟨hclean, hbelow⟩ := hfiles _ (List.mem_cons_self ..) _ hread
      obtain ⟨front, hfront, rfl, hrender⟩ := ihInner
        (fun token htoken => exists_piece hd htoken (hclean token htoken))
        (fun name hname inner hread' => ⟨hbelow name (.here hname) inner hread',
          fun below hincludes => hbelow below (.inside hname hread' hincludes)⟩)
      obtain ⟨rest, hrest, rfl, hrender'⟩ := ihRest
        (fun token htoken => htokens token (List.mem_cons_of_mem _ htoken))
        (fun name hname => hfiles name (List.mem_cons_of_mem _ hname))
      refine ⟨front ++ rest, ?_, assemble_append front rest, fun data => ?_⟩
      · intro piece hpiece
        exact (List.mem_append.1 hpiece).elim (hfront piece) (hrest piece)
      · rw [List.map_append, renderParts_append]
        exact .component hread (hrender data) (hrender' data)
  | @other token rest tokens htoken _ ih =>
      obtain ⟨piece, hpiece, rfl⟩ := htokens token (List.mem_cons_self ..) htoken
      have hnames : componentNames (piece.token c.delimiters :: tokens) =
          componentNames tokens := by
        cases piece <;> rfl
      rw [hnames] at hfiles
      obtain ⟨pieces, hpieces, rfl, hrender⟩ := ih
        (fun token htoken => htokens token (List.mem_cons_of_mem _ htoken)) hfiles
      refine ⟨piece :: pieces, List.forall_mem_cons.2 ⟨hpiece, hpieces⟩, ?_, fun data => ?_⟩
      · rw [assemble_cons, source_token]
      · exact (hrender data).piece piece

/-- Expansion commutes with rendering.  When a clean text with clean components is expanded
over a coherent cache, the expansion is a program and is compiled; and for all data it is
rendered as composition renders the text and its components. -/
theorem inline_renders (s : Session) (hc : s.config.Valid) (hd : s.config.delimiters.Apart)
    (hs : Coherent s.config (fun _ => True) s.tree s) (text : Text) (depth : Int)
    (identifier out : Text) (hinline : (inline text depth identifier s).1 = .ok out)
    (htext : Clean s.config.delimiters text)
    (hfiles : ∀ name, Includes s.config s.tree text name → ∀ inner,
      readTree s.tree (s.config.componentPath name) = .ok inner →
        Clean s.config.delimiters inner) (reader : Text) :
    ∃ program compiled,
      Template.interpolate s.config.delimiters reader out = .ok program ∧
      Template.compile program reader = .ok compiled ∧
      ∀ data r, Renders s.config s.tree data.context (scan s.config.delimiters text) r ↔
        compiled.apply data = r := by
  have hexpand : Plain.expand s.config s.tree (remainingDepth s.config depth) identifier text =
      .ok out := by
    rw [inline_run_fst hc hs, mapError_eq_ok_iff] at hinline
    exact hinline
  obtain ⟨pieces, hpieces, rfl, hrenders⟩ := exists_pieces_of_expands hd
    (Plain.expands_of_expand hexpand)
    (fun token htoken => exists_piece hd htoken (htext token htoken))
    (fun name hname inner hread => ⟨hfiles name (.here hname) inner hread,
      fun below hbelow => hfiles below (.inside hname hread hbelow)⟩)
  obtain ⟨program, compiled, hprogram, hcompiled, happly⟩ := compile_assemble hd hpieces reader
  refine ⟨program, compiled, hprogram, hcompiled, fun data r => ?_⟩
  have hresult : compiled.apply data =
      renderParts data.context (pieces.map Piece.part) := happly data.context
  rw [hresult]
  constructor
  · intro h
    exact (hrenders data.context).unique h
  · rintro rfl
    exact hrenders data.context

theorem apart_standard : Config.standard.delimiters.Apart where
  toProper := Config.valid_standard.proper
  opening_line := by decide
  closing_line := by decide
  disjoint := by
    intro c hc
    obtain rfl : c = '\x7b' := by simpa [Config.standard] using hc
    decide

theorem includes_nested {name : Text}
    (h : Includes nestedSession.config nestedSession.tree "\x7b\x7bcomponent(a)\x7d\x7d!" name) :
    name ∈ (["a".toList, "b".toList] : List Text) := by
  have hclosed : ∀ name ∈ (["a".toList, "b".toList] : List Text),
      ∀ inner ∈ (readTree nestedSession.tree
        (nestedSession.config.componentPath name)).toOption,
        ∀ below ∈ components nestedSession.config.delimiters inner,
          below ∈ (["a".toList, "b".toList] : List Text) := by decide +kernel
  have hstart : ∀ name ∈ components nestedSession.config.delimiters
      "\x7b\x7bcomponent(a)\x7d\x7d!", name ∈ (["a".toList, "b".toList] : List Text) := by
    decide +kernel
  revert hstart
  generalize ("\x7b\x7bcomponent(a)\x7d\x7d!".toList : Text) = text at h
  intro hstart
  induction h with
  | here hname => exact hstart _ hname
  | inside hname hread _ ih =>
      exact ih (hclosed _ (hstart _ hname) _ (by simp [hread, Except.toOption]))

/-- A page with a component in a component. -/
theorem inline_renders_nested :
    ∃ program compiled,
      Template.interpolate nestedSession.config.delimiters "page" "<\x7b\x7bx\x7d\x7d>!" =
        .ok program ∧
      Template.compile program "page" = .ok compiled ∧
      ∀ data r, Renders nestedSession.config nestedSession.tree data.context
        (scan nestedSession.config.delimiters "\x7b\x7bcomponent(a)\x7d\x7d!") r ↔
          compiled.apply data = r := by
  have hvalid : nestedSession.config.Valid :=
    ⟨Config.valid_standard.proper, Config.valid_standard.basePath,
      Config.valid_standard.cacheSize⟩
  have hunmarked : ∀ c, c ∉ nestedSession.config.delimiters.opening →
      c ∉ nestedSession.config.delimiters.closing →
        Unmarked nestedSession.config.delimiters [c] := by
    intro c hopening hclosing c' hc'
    rw [List.mem_singleton.1 hc']
    exact ⟨hopening, hclosing⟩
  refine inline_renders nestedSession hvalid apart_standard
    (coherent_of_entries_eq_nil rfl (.refl _ _) rfl) "\x7b\x7bcomponent(a)\x7d\x7d!" 0 "page"
    "<\x7b\x7bx\x7d\x7d>!" (by decide +kernel) ?_ ?_ "page"
  · have hscan : scan nestedSession.config.delimiters "\x7b\x7bcomponent(a)\x7d\x7d!" =
        [.component "a" "\x7b\x7bcomponent(a)\x7d\x7d", .literal "!"] := by decide +kernel
    rw [Clean, hscan]
    exact List.forall_mem_cons.2 ⟨trivial, List.forall_mem_cons.2
      ⟨hunmarked '!' (by decide) (by decide), by simp⟩⟩
  · intro name hname inner hread
    rcases List.mem_cons.1 (includes_nested hname) with rfl | hname
    · have hfile : readTree nestedSession.tree (nestedSession.config.componentPath "a") =
          .ok "<\x7b\x7bcomponent( b )\x7d\x7d>" := by decide +kernel
      obtain rfl := Except.ok.inj (hread.symm.trans hfile)
      have hscan : scan nestedSession.config.delimiters "<\x7b\x7bcomponent( b )\x7d\x7d>" =
          [.literal "<", .component "b" "\x7b\x7bcomponent( b )\x7d\x7d", .literal ">"] := by
        decide +kernel
      rw [Clean, hscan]
      simp only [List.forall_mem_cons]
      exact ⟨hunmarked '<' (by decide) (by decide), trivial,
        hunmarked '>' (by decide) (by decide), by simp⟩
    · obtain rfl := List.mem_singleton.1 hname
      have hfile : readTree nestedSession.tree (nestedSession.config.componentPath "b") =
          .ok "\x7b\x7bx\x7d\x7d" := by decide +kernel
      obtain rfl := Except.ok.inj (hread.symm.trans hfile)
      have hscan : scan nestedSession.config.delimiters "\x7b\x7bx\x7d\x7d" =
          [.placeholder "x" "\x7b\x7bx\x7d\x7d"] := by decide +kernel
      rw [Clean, hscan]
      simp only [List.forall_mem_cons]
      exact ⟨⟨by decide, "x", rfl, hunmarked 'x' (by decide) (by decide)⟩, by simp⟩

end Render
end Stencil
