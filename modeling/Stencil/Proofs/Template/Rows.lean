import Stencil.Proofs.Template.Lines

/-!
# Tokens line by line

The tokens of a template, in rows: a literal goes on in the next row at each of its line feeds,
and everything else lies in one row.  With delimiters on one line the rows are the lines of the
template, and the tokens of a row are those of its line by itself.

Main results:

- Definition `rows`: the tokens of a template, row by row.
- Theorem `map_unscan_rows`: the rows are the lines of the template.
- Theorem `rows_scan`: a row holds the tokens of its line.
- Theorem `scan_line_induction`: induction along the markers of a line.
-/

namespace Stencil
namespace Template

open Text

variable {d : Delimiters} {t : Text} {token : Token} {tokens : List Token}

/-! ## Rows of tokens -/

/-- A token in rows: a literal is broken at its line feeds. -/
def Token.rows : Token → List (List Token)
  | literal t => (lines t).map literalTokens
  | token => [[token]]

/-- The tokens of a template, row by row. -/
def rows : List Token → List (List Token)
  | [] => [[]]
  | token :: tokens => weld token.rows (rows tokens)

/-- A token that lies on one line: it has no line feed, and there is something of it. -/
def Token.Flat (token : Token) : Prop := '\n' ∉ token.source ∧ token.source ≠ []

theorem rows_ne_nil (tokens : List Token) : rows tokens ≠ [] := by
  cases tokens with
  | nil => simp [rows]
  | cons token tokens => exact weld_ne_nil _ _

theorem exists_rows_eq_cons (tokens : List Token) :
    ∃ first after, rows tokens = first :: after :=
  List.exists_cons_of_ne_nil (rows_ne_nil tokens)

theorem literalTokens_of_ne_nil (ht : t ≠ []) : literalTokens t = [.literal t] := by
  simp [literalTokens, ht]

theorem Token.Flat.rows_eq (h : token.Flat) : token.rows = [[token]] := by
  cases token with
  | literal t =>
      have hlines : lines t = [t] := split_of_not_mem h.1
      have hne : t ≠ [] := h.2
      simp [Token.rows, hlines, literalTokens_of_ne_nil hne]
  | placeholder expression raw => rfl
  | component name raw => rfl

/-- Tokens that lie on one line stay in the row of what follows them. -/
theorem rows_append_of_flat {front : List Token} (h : ∀ token ∈ front, token.Flat)
    (tokens : List Token) : rows (front ++ tokens) = weld [front] (rows tokens) := by
  rcases exists_rows_eq_cons tokens with ⟨first, after, htokens⟩
  rw [htokens, weld_singleton_cons]
  induction front with
  | nil => exact htokens
  | cons token front ih =>
      have htoken : token.rows = [[token]] := (h token List.mem_cons_self).rows_eq
      have hfront : ∀ token ∈ front, token.Flat := by
        intro next hnext
        exact h next (List.mem_cons_of_mem token hnext)
      rw [List.cons_append, rows, htoken, ih hfront, weld_singleton_cons]
      simp

theorem rows_of_flat (h : ∀ token ∈ tokens, token.Flat) : rows tokens = [tokens] := by
  have happend := rows_append_of_flat h []
  simpa [rows, weld] using happend

/-- A line of literal text is a row of its own in front of what follows it. -/
theorem rows_withText_line (ht : '\n' ∉ t) (tokens : List Token) :
    rows (withText (t ++ ['\n']) tokens) = literalTokens t :: rows tokens := by
  have hline : ∀ u, lines (t ++ '\n' :: u) = t :: lines u := by
    intro u
    exact split_append_sep ht u
  rcases withText_cases (t ++ ['\n']) tokens with ⟨-, htokens⟩ | ⟨u, rest, rfl, htokens⟩
  · have hlast : lines (t ++ ['\n']) = [t, []] := hline []
    rw [htokens, literalTokens_of_ne_nil (by simp), List.singleton_append, rows, Token.rows, hlast,
      List.map_cons, List.map_singleton, weld_cons (by simp)]
    have hempty : literalTokens [] = [] := by simp [literalTokens]
    rw [hempty, nil_weld (rows_ne_nil tokens)]
  · have hjoin : t ++ ['\n'] ++ u = t ++ '\n' :: u := by simp
    have hu : (lines u).map literalTokens ≠ [] := by
      simpa [lines] using split_ne_nil '\n' u
    rw [htokens, rows, Token.rows, hjoin, hline, List.map_cons, weld_cons hu, rows, Token.rows]

/-- Written out, the rows are the lines of the template. -/
theorem map_unscan_rows (h : ∀ token ∈ tokens, token.isLiteral = false → '\n' ∉ token.source) :
    (rows tokens).map unscan = lines (unscan tokens) := by
  induction tokens with
  | nil => rfl
  | cons token tokens ih =>
      have htoken : token.rows.map unscan = lines token.source := by
        cases token with
        | literal t =>
            have hsource : unscan ∘ literalTokens = id := by
              funext u
              exact unscan_literalTokens u
            simp [Token.rows, hsource, Token.source]
        | placeholder expression raw =>
            have hflat := h _ List.mem_cons_self rfl
            simp [Token.rows, lines, split_of_not_mem hflat, unscan]
        | component name raw =>
            have hflat := h _ List.mem_cons_self rfl
            simp [Token.rows, lines, split_of_not_mem hflat, unscan]
      have hrest : (rows tokens).map unscan = lines (unscan tokens) := by
        apply ih
        intro next hnext
        exact h next (List.mem_cons_of_mem token hnext)
      rw [rows, map_weld rfl unscan_append, htoken, hrest, unscan_cons]
      exact (split_append_eq_weld '\n' _ _).symm

/-- What lies in a row is a piece of a literal, or one of the tokens. -/
theorem mem_of_mem_rows {row : List Token} (hrow : row ∈ rows tokens) (h : token ∈ row)
    (hliteral : token.isLiteral = false) : token ∈ tokens := by
  have hflatten : token ∈ (rows tokens).flatten := List.mem_flatten.2 ⟨row, hrow, h⟩
  clear hrow h
  induction tokens with
  | nil => simp [rows] at hflatten
  | cons next tokens ih =>
      rw [rows, flatten_weld, List.mem_append] at hflatten
      rcases hflatten with hnext | hrest
      · have heq : token = next := by
          cases next with
          | literal t =>
              simp only [Token.rows, List.mem_flatten, List.mem_map] at hnext
              rcases hnext with ⟨_, ⟨line, -, rfl⟩, hmem⟩
              by_cases hline : line = []
              · simp [literalTokens, hline] at hmem
              · rw [literalTokens_of_ne_nil hline, List.mem_singleton] at hmem
                rw [hmem] at hliteral
                cases hliteral
          | placeholder expression raw => simpa [Token.rows] using hnext
          | component name raw => simpa [Token.rows] using hnext
        rw [heq]
        exact List.mem_cons_self
      · exact List.mem_cons_of_mem next (ih hrest)

/-! ## The rows of a scan -/

theorem source_ne_nil_of_mem_scan (hd : d.Proper) (hopening : '\n' ∉ d.opening)
    (h : token ∈ scan d t) : token.source ≠ [] := by
  have htokens := tokenisation_scan hd hopening t
  cases hliteral : token.isLiteral with
  | true =>
      cases token with
      | literal u => exact htokens.literal_ne_nil u h
      | placeholder expression raw => cases hliteral
      | component name raw => cases hliteral
  | false =>
      rcases htokens.marker token h hliteral with ⟨inner, -, htoken⟩
      rw [markerToken_iff] at htoken
      rw [htoken, source_marker]
      simp [hd.opening_ne_nil]

/-- With delimiters on one line, a marker lies on one line. -/
theorem newline_not_mem_of_marker (hd : d.Proper) (hopening : '\n' ∉ d.opening)
    (hclosing : '\n' ∉ d.closing) (h : token ∈ scan d t) (hliteral : token.isLiteral = false) :
    '\n' ∉ token.source := by
  rcases (tokenisation_scan hd hopening t).marker token h hliteral with ⟨inner, hinner, htoken⟩
  rw [markerToken_iff] at htoken
  rw [htoken, source_marker]
  simp [hopening, hinner.line, hclosing]

/-- With delimiters on one line, the rows of a template are its lines. -/
theorem map_unscan_rows_scan (hd : d.Proper) (hopening : '\n' ∉ d.opening)
    (hclosing : '\n' ∉ d.closing) (t : Text) : (rows (scan d t)).map unscan = lines t := by
  have hmarkers : ∀ token ∈ scan d t, token.isLiteral = false → '\n' ∉ token.source := by
    intro token htoken hliteral
    exact newline_not_mem_of_marker hd hopening hclosing htoken hliteral
  rw [map_unscan_rows hmarkers, unscan_scan]

/-- The tokens of one line lie on one line. -/
theorem flat_of_mem_scan (hd : d.Proper) (hopening : '\n' ∉ d.opening) (ht : '\n' ∉ t)
    (h : token ∈ scan d t) : token.Flat := by
  constructor
  · intro hmem
    apply ht
    rw [← unscan_scan d t, unscan, List.mem_flatMap]
    exact ⟨token, h, hmem⟩
  · exact source_ne_nil_of_mem_scan hd hopening h

/-- A row holds the tokens of its line by itself. -/
theorem rows_scan (hd : d.Apart) (t : Text) : rows (scan d t) = (lines t).map (scan d) := by
  induction hlen : t.length using Nat.strong_induction_on generalizing t with
  | h n ih =>
      by_cases ht : '\n' ∈ t
      · rcases List.eq_append_cons_of_mem ht with ⟨a, b, rfl, ha⟩
        have hshort : b.length < n := by
          rw [← hlen]
          simp only [List.length_append, List.length_cons]
          omega
        have hb := ih b.length hshort b rfl
        rcases exists_scan_append_line hd.toProper hd.opening_line hd.closing_line a with
          ⟨front, tail, hscan, hjoin⟩
        have hflat : ∀ token ∈ front ++ literalTokens tail, token.Flat := by
          intro token htoken
          rw [← hscan] at htoken
          exact flat_of_mem_scan hd.toProper hd.opening_line ha htoken
        have htail : '\n' ∉ tail := by
          intro hmem
          apply ha
          rw [← unscan_scan d a, hscan, unscan_append, unscan_literalTokens]
          exact List.mem_append_right _ hmem
        have hlines : lines (a ++ '\n' :: b) = a :: lines b := split_append_sep ha b
        rw [hjoin b, rows_append_of_flat (fun token h => hflat token (List.mem_append_left _ h)),
          rows_withText_line htail, weld_singleton_cons, hb, hlines, List.map_cons, hscan]
      · have hflat : ∀ token ∈ scan d t, token.Flat := by
          intro token htoken
          exact flat_of_mem_scan hd.toProper hd.opening_line ht htoken
        have hlines : lines t = [t] := split_of_not_mem ht
        rw [rows_of_flat hflat, hlines, List.map_singleton]

/-! ## The tokens of one line -/

/-- Induction along the markers of a line.  A marker begins at the first opening delimiter, and
its inside is an interior. -/
theorem scan_line_induction (hd : d.Proper) {motive : (t : Text) → '\n' ∉ t → Prop}
    (plain : ∀ t ht, scan d t = literalTokens t → motive t ht)
    (marker : ∀ before inner after ht hafter,
      cut d.opening (before ++ (d.opening ++ (inner ++ (d.closing ++ after)))) =
        some (before, inner ++ (d.closing ++ after)) → Interior d inner →
      scan d (before ++ (d.opening ++ (inner ++ (d.closing ++ after)))) =
        literalTokens before ++ marker d inner :: scan d after → motive after hafter →
      motive (before ++ (d.opening ++ (inner ++ (d.closing ++ after)))) ht)
    (t : Text) (ht : '\n' ∉ t) : motive t ht := by
  induction hlen : t.length using Nat.strong_induction_on generalizing t with
  | h n ih =>
      cases hopen : cut d.opening t with
      | none =>
          apply plain
          rw [scan, scanFrom_of_no_opening hopen, List.nil_append]
      | some pair =>
          rcases pair with ⟨before, inside⟩
          cases hclose : cut d.closing inside with
          | none =>
              apply plain
              rw [scan, scanFrom_of_no_closing hopen hclose, List.nil_append]
          | some pair =>
              rcases pair with ⟨inner, after⟩
              have hinside : inside = inner ++ d.closing ++ after := eq_of_cut hclose
              have htext : t = before ++ (d.opening ++ (inner ++ (d.closing ++ after))) := by
                rw [eq_of_cut hopen, hinside]
                simp
              have hline : '\n' ∉ inner := by
                intro hmem
                apply ht
                rw [htext]
                simp [hmem]
              have hafter : '\n' ∉ after := by
                intro hmem
                apply ht
                rw [htext]
                simp [hmem]
              have hinner : Interior d inner := by
                apply (interior_iff_cut after).2
                rw [← hinside]
                exact ⟨hline, hclose⟩
              have hshort : after.length < n := by
                rw [← hlen]
                exact length_after_marker_lt hd hopen hclose
              have hscan : scan d t = literalTokens before ++ Template.marker d inner ::
                  scan d after := by
                rw [scan, scanFrom_of_marker hd hopen hclose hline, List.nil_append]
                rfl
              rw [hinside, List.append_assoc] at hopen
              subst htext
              exact marker before inner after ht hafter hopen hinner hscan
                (ih after.length hshort after hafter rfl)

end Template
end Stencil
