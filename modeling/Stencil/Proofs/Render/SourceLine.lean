import Stencil.Proofs.Render.Coherence
import Stencil.Proofs.Render.Inclusion
import Stencil.Proofs.Template.LineBalance

/-!
# Where an unbalanced line comes from

Preparation checks the balance of the expansion and names the page, but it counts the lines of
the expansion.  The rows of a page are expanded row by row, so every line of the expansion comes
from one row of the page; and it is as far below it as expansion has brought line feeds in above.

Main results:

- Theorem `Expands.exists_rows`: a text is expanded row by row.
- Structure `RowExpands`: a row of a page and what it and the rows above it are expanded to.
- Theorem `prepare_unbalanced`: the page line of an unbalanced line, and when its number is the
  one that is reported.
-/

namespace Stencil
namespace Render

open Stencil.Render.Action Outcome Template

variable {c : Config} {tree : File.Tree} {tokens : List Token}

/-! ## Expansion row by row -/

theorem expands_literalTokens (c : Config) (tree : File.Tree) (t : Text) :
    Expands c tree (literalTokens t) t := by
  by_cases ht : t = []
  · have hnil : Expands c tree [] [] := .nil
    simpa [literalTokens, ht] using hnil
  · have hliteral : Expands c tree [.literal t] (t ++ []) := .other rfl .nil
    rw [literalTokens_of_ne_nil ht]
    simpa using hliteral

/-- Where rows grow together, so do their expansions. -/
theorem forall₂_expands_weld {xs ys : List (List Token)} {texts others : List Text}
    (hxs : List.Forall₂ (Expands c tree) xs texts)
    (hys : List.Forall₂ (Expands c tree) ys others) :
    List.Forall₂ (Expands c tree) (Text.weld xs ys) (Text.weld texts others) := by
  induction hxs with
  | nil =>
      cases hys with
      | nil => exact .cons .nil .nil
      | cons hy hys => exact .cons hy hys
  | @cons x text xs texts hx hrest ih =>
      cases hrest with
      | nil =>
          cases hys with
          | nil => exact .cons (hx.append .nil) .nil
          | cons hy hys => exact .cons (hx.append hy) hys
      | @cons x' text' xs texts hnext hrest =>
          -- With rows to come on the left, the first pair is not at the seam.
          have hleft := Text.weld_cons (List.cons_ne_nil x' xs) x ys
          have hright := Text.weld_cons (List.cons_ne_nil text' texts) text others
          rw [hleft, hright]
          exact .cons hx ih

/-- What one token adds to an expansion goes through row by row. -/
theorem exists_rows_cons {token : Token} {texts others : List Text} {out rest : Text}
    (htoken : List.Forall₂ (Expands c tree) token.rows texts)
    (htexts : texts.flatMap Text.lines = Text.lines out)
    (htokens : List.Forall₂ (Expands c tree) (rows tokens) others)
    (hothers : others.flatMap Text.lines = Text.lines rest) :
    ∃ whole, List.Forall₂ (Expands c tree) (rows (token :: tokens)) whole ∧
      whole.flatMap Text.lines = Text.lines (out ++ rest) := by
  have hne : ∀ {pieces : List Text} {t : Text}, pieces.flatMap Text.lines = Text.lines t →
      pieces ≠ [] := by
    intro pieces t hpieces hnil
    rw [hnil] at hpieces
    exact Text.split_ne_nil '\n' t hpieces.symm
  refine ⟨Text.weld texts others, forall₂_expands_weld htoken htokens, ?_⟩
  have hweld := Text.flatMap_split_weld '\n' (hne htexts) (hne hothers)
  have happend := Text.split_append_eq_weld '\n' out rest
  calc (Text.weld texts others).flatMap Text.lines
      = Text.weld (texts.flatMap Text.lines) (others.flatMap Text.lines) := hweld
    _ = Text.weld (Text.lines out) (Text.lines rest) := by rw [htexts, hothers]
    _ = Text.lines (out ++ rest) := happend.symm

/-- Every row of a text is expanded by itself, and the lines of the whole are those of the
rows. -/
theorem Expands.exists_rows {out : Text} (h : Expands c tree tokens out) :
    ∃ texts, List.Forall₂ (Expands c tree) (rows tokens) texts ∧
      texts.flatMap Text.lines = Text.lines out := by
  induction h with
  | nil => exact ⟨[[]], .cons .nil .nil, rfl⟩
  | @component name raw inner out rest tokens hread hinner _ _ ih =>
      rcases ih with ⟨others, hrows, hothers⟩
      have hout : Expands c tree [.component name raw] (out ++ []) :=
        .component hread hinner .nil
      rw [List.append_nil] at hout
      exact exists_rows_cons (.cons hout .nil) (by simp) hrows hothers
  | @other token rest tokens htoken _ ih =>
      rcases ih with ⟨others, hrows, hothers⟩
      have hsource : Expands c tree [token] (token.source ++ []) := .other htoken .nil
      rw [List.append_nil] at hsource
      cases token with
      | literal t =>
          -- Only a literal can lie in several rows: one for each of its lines.
          have hlines : List.Forall₂ (Expands c tree) (Token.rows (.literal t)) (Text.lines t) := by
            rw [Token.rows, List.forall₂_map_left_iff, List.forall₂_same]
            intro line _
            exact expands_literalTokens c tree line
          have hpieces : (Text.lines t).flatMap Text.lines = Text.lines t := by
            apply Text.flatMap_split_of_not_mem
            intro line hline
            exact Text.not_mem_of_mem_split hline
          exact exists_rows_cons hlines hpieces hrows hothers
      | placeholder expression raw =>
          exact exists_rows_cons (.cons hsource .nil) (by simp) hrows hothers
      | component name raw => cases htoken

/-! ## Line feeds that expansion brings in -/

/-- Expansion brings in no line feed where no file holds one. -/
theorem Expands.newline_not_mem {out : Text} (h : Expands c tree tokens out)
    (htokens : '\n' ∉ unscan tokens)
    (hfiles : ∀ name ∈ componentNames tokens, ∀ inner,
      readTree tree (c.componentPath name) = .ok inner → '\n' ∉ inner ∧
        ∀ below, Includes c tree inner below → ∀ text,
          readTree tree (c.componentPath below) = .ok text → '\n' ∉ text) : '\n' ∉ out := by
  induction h with
  | nil => simp
  | @component name raw inner out rest tokens hread _ _ ihInner ihRest =>
      rw [unscan_cons, List.mem_append, not_or] at htokens
      rcases hfiles name List.mem_cons_self inner hread with ⟨hline, hbelow⟩
      have hinner : '\n' ∉ out := by
        apply ihInner
        · rwa [unscan_scan]
        · intro below hmem text hread'
          refine ⟨hbelow below (.here hmem) text hread', ?_⟩
          intro deeper hincludes
          exact hbelow deeper (.inside hmem hread' hincludes)
      have hrest : '\n' ∉ rest := by
        apply ihRest htokens.2
        intro next hmem
        exact hfiles next (List.mem_cons_of_mem name hmem)
      simp [hinner, hrest]
  | @other token rest tokens htoken _ ih =>
      rw [unscan_cons, List.mem_append, not_or] at htokens
      have hrest : '\n' ∉ rest := by
        apply ih htokens.2
        intro next hmem
        apply hfiles next
        rcases mem_componentNames.1 hmem with ⟨raw, hraw⟩
        exact mem_componentNames.2 ⟨raw, List.mem_cons_of_mem token hraw⟩
      simp [htokens.1, hrest]

theorem length_flatMap_lines (texts : List Text) :
    (texts.flatMap Text.lines).length = texts.length + List.count '\n' texts.flatten := by
  induction texts with
  | nil => rfl
  | cons t texts ih =>
      rw [List.flatMap_cons, List.length_append, ih, Text.lines, Text.length_split,
        List.length_cons, List.flatten_cons, List.count_append]
      omega

/-! ## The row of a failing line -/

/-- A row of a page, counted from zero: what its tokens are expanded to, and what the rows above
it are expanded to. -/
structure RowExpands (c : Config) (tree : File.Tree) (page : Text) (own : Nat) (above : List Text)
    (out : Text) : Prop where
  row : ∃ row, (rows (scan c.delimiters page))[own]? = some row ∧
    (Text.lines page)[own]? = some (unscan row) ∧ Expands c tree row out
  above : List.Forall₂ (Expands c tree) ((rows (scan c.delimiters page)).take own) above

/-- Where no included file holds a line feed, every row is expanded to one line. -/
theorem newline_not_mem_of_row {page out : Text} {row : List Token} (hd : c.delimiters.Proper)
    (hopening : '\n' ∉ c.delimiters.opening) (hclosing : '\n' ∉ c.delimiters.closing)
    (hfiles : ∀ name inner, Includes c tree page name →
      readTree tree (c.componentPath name) = .ok inner → '\n' ∉ inner)
    (hrow : row ∈ rows (scan c.delimiters page)) (h : Expands c tree row out) : '\n' ∉ out := by
  apply h.newline_not_mem
  · have hline : unscan row ∈ Text.lines page := by
      rw [← map_unscan_rows_scan hd hopening hclosing]
      exact List.mem_map_of_mem hrow
    exact Text.not_mem_of_mem_split hline
  · intro name hname inner hread
    rcases mem_componentNames.1 hname with ⟨raw, hraw⟩
    have hmem : name ∈ components c.delimiters page :=
      mem_componentNames.2 ⟨raw, mem_of_mem_rows hrow hraw rfl⟩
    refine ⟨hfiles name inner (.here hmem) hread, ?_⟩
    intro below hbelow text hread'
    exact hfiles below text (.inside hmem hread hbelow) hread'

theorem RowExpands.newline_not_mem {page out : Text} {own : Nat} {above : List Text}
    (h : RowExpands c tree page own above out) (hd : c.delimiters.Proper)
    (hopening : '\n' ∉ c.delimiters.opening) (hclosing : '\n' ∉ c.delimiters.closing)
    (hfiles : ∀ name inner, Includes c tree page name →
      readTree tree (c.componentPath name) = .ok inner → '\n' ∉ inner) :
    '\n' ∉ out ∧ '\n' ∉ above.flatten := by
  have hone : ∀ row ∈ rows (scan c.delimiters page), ∀ t, Expands c tree row t → '\n' ∉ t := by
    intro row hrow t hexpands
    exact newline_not_mem_of_row hd hopening hclosing hfiles hrow hexpands
  constructor
  · rcases h.row with ⟨row, hrow, -, hexpands⟩
    exact hone row (List.mem_of_getElem? hrow) out hexpands
  · have habove : List.Forall₂ (fun row t => row ∈ rows (scan c.delimiters page) ∧
        Expands c tree row t) ((rows (scan c.delimiters page)).take own) above := by
      apply (List.forall₂_and_left _ _).2
      exact ⟨fun row hrow => List.mem_of_mem_take hrow, h.above⟩
    generalize (rows (scan c.delimiters page)).take own = upper at habove
    clear h
    induction habove with
    | nil => simp
    | cons hfirst _ ih => simp [ih, hone _ hfirst.1 _ hfirst.2]

/-- The first line that fails among the lines of texts, and the text that it lies in. -/
theorem exists_failing_text {d : Delimiters} {texts : List Text} {number line : Nat}
    {imbalance : Imbalance}
    (h : firstImbalance? d number (texts.flatMap Text.lines) = some (line, imbalance)) :
    ∃ above out below offset bad, texts = above ++ out :: below ∧
      (Text.lines out)[offset]? = some bad ∧ lineImbalance? d bad = some imbalance ∧
      (∀ u ∈ above.flatMap Text.lines ++ (Text.lines out).take offset,
        lineImbalance? d u = none) ∧
      line = number + (above.flatMap Text.lines).length + offset := by
  induction texts generalizing number with
  | nil => cases h
  | cons t texts ih =>
      rw [List.flatMap_cons, firstImbalance?_append] at h
      cases hfirst : firstImbalance? d number (Text.lines t) with
      | some found =>
          -- The first text has the line; otherwise its lines only count on.
          rw [hfirst, Option.some_or] at h
          cases h
          rcases firstImbalance?_eq_some hfirst with ⟨up, bad, down, hlines, hline, hup, hbad⟩
          refine ⟨[], t, texts, up.length, bad, rfl, ?_, hbad, ?_, ?_⟩
          · simp [hlines]
          · simpa [hlines] using hup
          · simpa using hline
      | none =>
          rw [hfirst, Option.none_or] at h
          rcases ih h with ⟨above, out, below, offset, bad, rfl, hmem, hbad, habove, hline⟩
          refine ⟨t :: above, out, below, offset, bad, rfl, hmem, hbad, ?_, ?_⟩
          · have ht : ∀ u ∈ Text.lines t, lineImbalance? d u = none := by
              intro u hu
              exact lineImbalance?_eq_none_iff.2 (firstImbalance?_eq_none_iff.1 hfirst u hu)
            rw [List.flatMap_cons, List.append_assoc]
            exact List.forall_mem_append.2 ⟨ht, habove⟩
          · rw [List.flatMap_cons, List.length_append]
            omega

/-- The line of an expansion on which the balance check fails, and the row of the page that it
comes from. -/
theorem exists_row_of_firstImbalance {page out : Text} {line : Nat} {imbalance : Imbalance}
    (hd : c.delimiters.Proper) (hopening : '\n' ∉ c.delimiters.opening)
    (hclosing : '\n' ∉ c.delimiters.closing) (h : Expands c tree (scan c.delimiters page) out)
    (hfirst : firstImbalance? c.delimiters 1 (Text.lines out) = some (line, imbalance)) :
    ∃ own above text offset bad, RowExpands c tree page own above text ∧
      (Text.lines text)[offset]? = some bad ∧
      lineImbalance? c.delimiters bad = some imbalance ∧
      (∀ u ∈ above.flatMap Text.lines ++ (Text.lines text).take offset,
        lineImbalance? c.delimiters u = none) ∧
      line = own + 1 + List.count '\n' above.flatten + offset := by
  rcases h.exists_rows with ⟨texts, hrows, hlines⟩
  rw [← hlines] at hfirst
  rcases exists_failing_text hfirst with
    ⟨above, text, below, offset, bad, rfl, hmem, hbad, habove, hline⟩
  have hupper := List.forall₂_take_append _ _ _ hrows
  have hlower := List.forall₂_drop_append _ _ _ hrows
  rcases List.forall₂_cons_right_iff.1 hlower with ⟨row, rest, hrow, -, hdrop⟩
  have hown : (rows (scan c.delimiters page))[above.length]? = some row := by
    rw [← List.head?_drop, hdrop, List.head?_cons]
  have hpage : (Text.lines page)[above.length]? = some (unscan row) := by
    rw [← map_unscan_rows_scan hd hopening hclosing, List.getElem?_map, hown]
    rfl
  refine ⟨above.length, above, text, offset, bad, ⟨⟨row, hown, hpage, hrow⟩, hupper⟩, hmem, hbad,
    habove, ?_⟩
  rw [hline, length_flatMap_lines]
  omega

/-! ## What preparation reports -/

/-- Without a session, preparation fails on the first line of the expansion that does not
balance. -/
theorem Plain.prepare_eq_error_of_firstImbalance {identifier page out : Text} {line : Nat}
    {imbalance : Imbalance} (hpage : readTree tree (.ofText identifier) = .ok page)
    (hexpand : Plain.expand c tree (remainingDepth c 0) identifier page = .ok out)
    (hfirst : firstImbalance? c.delimiters 1 (Text.lines out) = some (line, imbalance)) :
    Plain.prepare c tree identifier =
      .error (.template (.unbalanced identifier line imbalance)) := by
  have hsource : Plain.source tree identifier = .ok page := by
    rw [Plain.source_eq_readTree (Plain.isFile_of_readTree hpage), hpage]
  have hprogram : Plain.interpolate c identifier out =
      .error (.template (.unbalanced identifier line imbalance)) := by
    rw [Plain.interpolate, Template.interpolate, checkBalance_eq_error_iff.2 hfirst]
    rfl
  apply bind_eq_error_iff.2
  refine .inr ⟨page, hsource, bind_eq_error_iff.2 ?_⟩
  exact .inr ⟨out, hexpand, bind_eq_error_iff.2 (.inl hprogram)⟩

/-- When a page is expanded and the expansion does not balance, preparation fails with an error
that names the page, unless a fault of the error log escapes instead.  The line that fails is line
`offset`, counted from zero, of what one row of the page is expanded to.  The number that is
reported is the number of this row, counted from one, and what expansion adds above: the line feeds
in the expansions of the rows above it, and `offset`.  So the row itself is reported exactly when
there are none of both.  That is always so for pages that include no file with a line feed. -/
theorem prepare_unbalanced (s : Session) (hc : s.config.Valid)
    (hopening : '\n' ∉ s.config.delimiters.opening)
    (hclosing : '\n' ∉ s.config.delimiters.closing)
    (hs : Coherent s.config (fun _ => True) s.tree s) (identifier page out : Text)
    (hpage : readTree s.tree (.ofText identifier) = .ok page)
    (hinline : (inline page 0 identifier s).1 = .ok out)
    (hbalance : checkBalance s.config.delimiters identifier out ≠ .ok ()) :
    let d := s.config.delimiters
    ∃ line imbalance own above text offset bad,
      (prepare identifier s).1 =
        .error (s.escaping (.template (.unbalanced identifier line imbalance))) ∧
      RowExpands s.config s.tree page own above text ∧
      (Text.lines text)[offset]? = some bad ∧ lineImbalance? d bad = some imbalance ∧
      (∀ u ∈ above.flatMap Text.lines ++ (Text.lines text).take offset,
        lineImbalance? d u = none) ∧
      line = own + 1 + List.count '\n' above.flatten + offset ∧
      (line = own + 1 ↔ '\n' ∉ above.flatten ∧ offset = 0) ∧
      ((∀ name inner, Includes s.config s.tree page name →
        readTree s.tree (s.config.componentPath name) = .ok inner → '\n' ∉ inner) →
          line = own + 1) := by
  intro d
  have hd : d.Proper := hc.proper
  have hexpand : Plain.expand s.config s.tree (remainingDepth s.config 0) identifier page =
      .ok out := by
    rw [inline_run_fst hc hs, mapError_eq_ok_iff] at hinline
    exact hinline
  cases hfirst : firstImbalance? d 1 (Text.lines out) with
  | none => exact absurd (checkBalance_eq_ok_iff.2 hfirst) hbalance
  | some found =>
      rcases found with ⟨line, imbalance⟩
      rcases exists_row_of_firstImbalance hd hopening hclosing (Plain.expands_of_expand hexpand)
        hfirst with ⟨own, above, text, offset, bad, hrow, hmem, hbad, habove, hline⟩
      have hprepare := Plain.prepare_eq_error_of_firstImbalance hpage hexpand hfirst
      have hreported : line = own + 1 ↔ '\n' ∉ above.flatten ∧ offset = 0 := by
        rw [hline, ← List.count_eq_zero]
        omega
      refine ⟨line, imbalance, own, above, text, offset, bad, ?_, hrow, hmem, hbad, habove, hline,
        hreported, ?_⟩
      · have hsettles : Settles (Coherent s.config (fun _ => True) s.tree) (prepare identifier) s
            (Plain.prepare s.config s.tree identifier) :=
          settles_prepare hc (fun _ _ _ _ _ _ => trivial) hs trivial
        rw [hsettles.run_fst, hprepare]
        rfl
      · intro hfiles
        rcases hrow.newline_not_mem hd hopening hclosing hfiles with ⟨htext, hflat⟩
        apply hreported.2
        refine ⟨hflat, ?_⟩
        have hone : Text.lines text = [text] := Text.split_of_not_mem htext
        rw [hone] at hmem
        have hlt := (List.getElem?_eq_some_iff.1 hmem).1
        simpa using hlt

/-- A page of two lines, the second of which includes a component that leaves a marker open. -/
def danglingSession : Session :=
  .start Config.standard
    ⟨[], [(["components"], .directory),
      (["components", "k.mizui"], .file (Text.Utf8.encode "a \x7b\x7b")),
      (["page"], .file (Text.Utf8.encode "x\n\x7b\x7bcomponent(k)\x7d\x7d"))]⟩ "now"

theorem newline_not_mem_of_includes_dangling {name inner : Text}
    (h : Includes danglingSession.config danglingSession.tree "x\n\x7b\x7bcomponent(k)\x7d\x7d"
      name)
    (hread : readTree danglingSession.tree (danglingSession.config.componentPath name) =
      .ok inner) : '\n' ∉ inner := by
  have hpage : components danglingSession.config.delimiters "x\n\x7b\x7bcomponent(k)\x7d\x7d" =
      ["k".toList] := by decide +kernel
  have hfile : readTree danglingSession.tree (danglingSession.config.componentPath "k") =
      .ok "a \x7b\x7b" := by decide +kernel
  have hnone : components danglingSession.config.delimiters "a \x7b\x7b" = [] := by decide +kernel
  cases h with
  | here hname =>
      rw [hpage, List.mem_singleton] at hname
      subst hname
      obtain rfl := Except.ok.inj (hfile.symm.trans hread)
      decide
  | inside hname hread' hbelow =>
      rw [hpage, List.mem_singleton] at hname
      subst hname
      obtain rfl := Except.ok.inj (hfile.symm.trans hread')
      exact absurd hbelow (not_includes_of_components_eq_nil hnone name)

/-- The line of the page that includes the component is the one that is reported. -/
theorem prepare_unbalanced_dangling :
    let page : Text := "x\n\x7b\x7bcomponent(k)\x7d\x7d"
    let out : Text := "x\na \x7b\x7b"
    let s := danglingSession
    s.config.Valid ∧ Coherent s.config (fun _ => True) s.tree s ∧
      readTree s.tree (.ofText "page") = .ok page ∧
      (inline page 0 "page" s).1 = .ok out ∧
      (prepare "page" s).1 = .error (.template (.unbalanced "page" 2 (.missing "\x7d\x7d"))) ∧
      ∃ above text, RowExpands s.config s.tree page 1 above text := by
  intro page out s
  have hs : Coherent s.config (fun _ => True) s.tree s :=
    coherent_of_entries_eq_nil rfl (.refl _ _) rfl
  have hpage : readTree s.tree (.ofText "page") = .ok page := by decide +kernel
  have hinline : (inline page 0 "page" s).1 = .ok out := by decide +kernel
  have hbalance : checkBalance s.config.delimiters "page" out ≠ .ok () := by decide +kernel
  have hprepare : (prepare "page" s).1 =
      .error (.template (.unbalanced "page" 2 (.missing "\x7d\x7d"))) := by decide +kernel
  rcases prepare_unbalanced s Config.valid_standard (by decide) (by decide) hs "page" page out hpage
    hinline hbalance with
    ⟨line, imbalance, own, above, text, offset, bad, herror, hrow, -, -, -, -, -, hline⟩
  have hlogged : s.logFault? = none := logFault?_eq_none (by decide)
  have howned : line = own + 1 := by
    apply hline
    intro name inner hname hread
    exact newline_not_mem_of_includes_dangling hname hread
  rw [hprepare, escaping_eq_iff.2 (.inr hlogged)] at herror
  cases herror
  cases howned
  exact ⟨Config.valid_standard, hs, hpage, hinline, hprepare, above, text, hrow⟩

/-- A page of two lines, the first of which includes a component of two lines. -/
def shiftedSession : Session :=
  .start Config.standard
    ⟨[], [(["components"], .directory),
      (["components", "a.mizui"], .file (Text.Utf8.encode "1\n2")),
      (["page"], .file (Text.Utf8.encode "\x7b\x7bcomponent(a)\x7d\x7d\n\x7b\x7b x"))]⟩ "now"

/-- The second line of the page leaves a marker open, but a third line is reported, which the
page does not have. -/
theorem prepare_unbalanced_past_end :
    let page : Text := "\x7b\x7bcomponent(a)\x7d\x7d\n\x7b\x7b x"
    let s := shiftedSession
    s.config.Valid ∧ s.cache.entries = [] ∧
      readTree s.tree (.ofText "page") = .ok page ∧
      (inline page 0 "page" s).1 = .ok "1\n2\n\x7b\x7b x" ∧
      (prepare "page" s).1 = .error (.template (.unbalanced "page" 3 (.missing "\x7d\x7d"))) ∧
      Text.lines page = ["\x7b\x7bcomponent(a)\x7d\x7d".toList, "\x7b\x7b x".toList] := by
  intro page s
  exact ⟨Config.valid_standard, rfl, by decide +kernel, by decide +kernel, by decide +kernel,
    by decide +kernel⟩

end Render
end Stencil
