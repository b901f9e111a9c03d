import Stencil.Proofs.Template.Rows

/-!
# What balance means for tokens

The balance check counts delimiters on every line and knows nothing of markers.  For delimiters
on one line that share no character, its counts are those of the tokens: every marker has one
delimiter of each kind, and what is left over lies in literal text or, for opening delimiters,
inside markers.  So a template is balanced when the strays of both kinds are equal in number on
every line.

Main results:

- Definitions `inLiterals`, `inInteriors` and `markerCount`: where delimiters lie.
- Theorems `count_opening_scan` and `count_closing_scan`: the delimiters on a line, by the
  tokens of the line.
- Theorem `openings_last_scan`: on a line, no opening delimiter lies in literal text in front
  of a marker.
- Theorem `checkBalance_iff_strays`: what the balance check accepts.
-/

namespace Stencil
namespace Template

open Text

variable {d : Delimiters} {t : Text} {tokens : List Token} {identifier : Text}

/-! ## Delimiters in tokens -/

/-- The text between the delimiters of a marker. -/
def Token.interior (d : Delimiters) (token : Token) : Text :=
  (token.source.drop d.opening.length).take
    (token.source.length - (d.opening.length + d.closing.length))

/-- How often a word counts in the literals among tokens. -/
def inLiterals (word : Text) : List Token → Nat
  | [] => 0
  | .literal t :: tokens => count word t + inLiterals word tokens
  | _ :: tokens => inLiterals word tokens

/-- How often the opening delimiter counts inside the markers among tokens. -/
def inInteriors (d : Delimiters) : List Token → Nat
  | [] => 0
  | .literal _ :: tokens => inInteriors d tokens
  | token :: tokens => count d.opening (token.interior d) + inInteriors d tokens

/-- How many markers there are among tokens. -/
def markerCount (tokens : List Token) : Nat := tokens.countP fun token => !token.isLiteral

/-- Between its delimiters a marker has what it was made of. -/
theorem interior_marker (d : Delimiters) (inner : Text) : (marker d inner).interior d = inner := by
  have hlength : (d.opening ++ inner ++ d.closing).length -
      (d.opening.length + d.closing.length) = inner.length := by
    simp only [List.length_append]
    omega
  rw [Token.interior, source_marker, hlength, List.append_assoc, List.drop_left, List.take_left]

/-- What stands in a marker is not in the literal text. -/
theorem inLiterals_cons_of_marker (word : Text) {token : Token} (h : token.isLiteral = false)
    (tokens : List Token) : inLiterals word (token :: tokens) = inLiterals word tokens := by
  cases token with
  | literal t => cases h
  | placeholder expression raw => rfl
  | component name raw => rfl

/-- Openings are counted in the interior of each marker. -/
theorem inInteriors_cons_of_marker (d : Delimiters) {token : Token} (h : token.isLiteral = false)
    (tokens : List Token) : inInteriors d (token :: tokens) =
      count d.opening (token.interior d) + inInteriors d tokens := by
  cases token with
  | literal t => cases h
  | placeholder expression raw => rfl
  | component name raw => rfl

theorem inLiterals_append (word : Text) (a b : List Token) :
    inLiterals word (a ++ b) = inLiterals word a + inLiterals word b := by
  induction a with
  | nil => simp [inLiterals]
  | cons token a ih => cases token <;> simp [inLiterals, ih, Nat.add_assoc]

theorem inInteriors_append (d : Delimiters) (a b : List Token) :
    inInteriors d (a ++ b) = inInteriors d a + inInteriors d b := by
  induction a with
  | nil => simp [inInteriors]
  | cons token a ih => cases token <;> simp [inInteriors, ih, Nat.add_assoc]

theorem markerCount_append (a b : List Token) :
    markerCount (a ++ b) = markerCount a + markerCount b := by
  simp [markerCount]

theorem inLiterals_literalTokens {word : Text} (hword : word ≠ []) (t : Text) :
    inLiterals word (literalTokens t) = count word t := by
  by_cases ht : t = []
  · simp [literalTokens, ht, inLiterals, count_nil hword]
  · simp [literalTokens, ht, inLiterals]

theorem inInteriors_literalTokens (d : Delimiters) (t : Text) :
    inInteriors d (literalTokens t) = 0 := by
  by_cases ht : t = [] <;> simp [literalTokens, ht, inInteriors]

theorem markerCount_literalTokens (t : Text) : markerCount (literalTokens t) = 0 := by
  by_cases ht : t = [] <;> simp [literalTokens, ht, markerCount, Token.isLiteral]

theorem inLiterals_marker_cons (word : Text) (d : Delimiters) (inner : Text)
    (tokens : List Token) : inLiterals word (marker d inner :: tokens) = inLiterals word tokens :=
  inLiterals_cons_of_marker word (isLiteral_marker d inner) tokens

theorem inInteriors_marker_cons (d : Delimiters) (inner : Text) (tokens : List Token) :
    inInteriors d (marker d inner :: tokens) = count d.opening inner + inInteriors d tokens := by
  rw [inInteriors_cons_of_marker d (isLiteral_marker d inner), interior_marker]

theorem markerCount_marker_cons (d : Delimiters) (inner : Text) (tokens : List Token) :
    markerCount (marker d inner :: tokens) = markerCount tokens + 1 := by
  simp [markerCount]

/-! ## The delimiters of a line -/

/-- On one line, an opening delimiter begins a marker, lies in literal text or lies inside a
marker. -/
theorem count_opening_scan (hd : d.Apart) (ht : '\n' ∉ t) :
    count d.opening t =
      inLiterals d.opening (scan d t) + inInteriors d (scan d t) + markerCount (scan d t) := by
  have hne := hd.opening_ne_nil
  induction t, ht using scan_line_induction hd.toProper with
  | plain t ht hscan =>
      rw [hscan, inLiterals_literalTokens hne, inInteriors_literalTokens,
        markerCount_literalTokens]
      omega
  | marker before inner after ht hafter hcut hinner hscan ih =>
      have hbefore : count d.opening before = 0 :=
        (count_eq_zero_iff hne).2 (not_occursAt_before_of_cut hne hcut)
      have hclosing : ∀ c ∈ d.closing, c ∉ d.opening := by
        intro c hc hmem
        exact hd.disjoint c hmem hc
      have hinside := count_append_of_separated hne hd.closing_ne_nil hclosing inner after
      rw [count_of_cut hne hcut, hinside, hscan, inLiterals_append, inInteriors_append,
        markerCount_append, inLiterals_literalTokens hne, inInteriors_literalTokens,
        markerCount_literalTokens, inLiterals_marker_cons, inInteriors_marker_cons,
        markerCount_marker_cons]
      omega

/-- On one line, a closing delimiter ends a marker or lies in literal text; none lies inside a
marker. -/
theorem count_closing_scan (hd : d.Apart) (ht : '\n' ∉ t) :
    count d.closing t = inLiterals d.closing (scan d t) + markerCount (scan d t) := by
  have hne := hd.closing_ne_nil
  induction t, ht using scan_line_induction hd.toProper with
  | plain t ht hscan =>
      rw [hscan, inLiterals_literalTokens hne, markerCount_literalTokens]
      omega
  | marker before inner after ht hafter hcut hinner hscan ih =>
      have hinside : count d.closing (inner ++ (d.closing ++ after)) =
          count d.closing after + 1 := by
        apply count_of_cut hne
        rw [← List.append_assoc]
        exact ((interior_iff_cut after).1 hinner).2
      rw [count_append_of_separated hne hd.opening_ne_nil hd.disjoint, hinside, hscan,
        inLiterals_append, markerCount_append, inLiterals_literalTokens hne,
        markerCount_literalTokens, inLiterals_marker_cons, markerCount_marker_cons]
      omega

/-- Of two tokens in a row, a literal in front of a marker holds no opening delimiter. -/
def OpeningsLast (d : Delimiters) (tokens : List Token) : Prop :=
  tokens.Pairwise fun token later =>
    ∀ t, token = .literal t → later.isLiteral = false → ∀ p, ¬ OccursAt d.opening t p

/-- On one line, no opening delimiter lies in literal text in front of a marker. -/
theorem openingsLast_scan (hd : d.Proper) (ht : '\n' ∉ t) : OpeningsLast d (scan d t) := by
  induction t, ht using scan_line_induction hd with
  | plain t ht hscan =>
      rw [hscan, OpeningsLast]
      by_cases hempty : t = [] <;> simp [literalTokens, hempty]
  | marker before inner after ht hafter hcut hinner hscan ih =>
      have hbefore := not_occursAt_before_of_cut hd.opening_ne_nil hcut
      rw [hscan, OpeningsLast, List.pairwise_append, List.pairwise_cons]
      refine ⟨?_, ⟨?_, ih⟩, ?_⟩
      · by_cases hempty : before = [] <;> simp [literalTokens, hempty]
      · intro later _ t hmarker
        have hliteral := isLiteral_marker d inner
        rw [hmarker] at hliteral
        cases hliteral
      · intro token htoken later _ t hliteral _
        by_cases hempty : before = []
        · simp [literalTokens, hempty] at htoken
        · simp only [literalTokens, hempty, if_false, List.mem_singleton] at htoken
          rw [htoken] at hliteral
          cases hliteral
          exact hbefore

/-! ## What the balance check accepts -/

/-- A line is balanced when it has as many openings as closings. -/
theorem lineImbalance?_eq_none_iff {line : Text} :
    lineImbalance? d line = none ↔ count d.opening line = count d.closing line := by
  unfold lineImbalance?
  dsimp only
  split
  · simp_all
  · split <;> simp_all

/-- There is no first imbalance where all lines are balanced. -/
theorem firstImbalance?_eq_none_iff {texts : List Text} {number : Nat} :
    firstImbalance? d number texts = none ↔
      ∀ line ∈ texts, count d.opening line = count d.closing line := by
  constructor
  · intro h
    induction texts generalizing number with
    | nil => simp
    | cons text texts ih =>
        rw [firstImbalance?] at h
        cases htext : lineImbalance? d text with
        | none =>
            rw [htext] at h
            exact List.forall_mem_cons.2 ⟨lineImbalance?_eq_none_iff.1 htext, ih h⟩
        | some imbalance =>
            rw [htext] at h
            cases h
  · exact firstImbalance?_eq_none

/-- The line that fails, and the lines above it, which do not. -/
theorem firstImbalance?_eq_some {texts : List Text} {number line : Nat} {imbalance : Imbalance}
    (h : firstImbalance? d number texts = some (line, imbalance)) :
    ∃ above bad below, texts = above ++ bad :: below ∧ line = number + above.length ∧
      (∀ u ∈ above, lineImbalance? d u = none) ∧ lineImbalance? d bad = some imbalance := by
  induction texts generalizing number with
  | nil => cases h
  | cons text texts ih =>
      rw [firstImbalance?] at h
      cases htext : lineImbalance? d text with
      | none =>
          rw [htext] at h
          rcases ih h with ⟨above, bad, below, rfl, hline, habove, hbad⟩
          refine ⟨text :: above, bad, below, rfl, ?_, ?_, hbad⟩
          · rw [List.length_cons]
            omega
          · exact List.forall_mem_cons.2 ⟨htext, habove⟩
      | some found =>
          rw [htext] at h
          cases h
          exact ⟨[], text, texts, rfl, rfl, by simp, htext⟩

/-- A line balances when its stray delimiters are equal in number: the closing ones in literal
text, and the opening ones in literal text or inside markers. -/
theorem count_eq_iff_strays (hd : d.Apart) (ht : '\n' ∉ t) :
    count d.opening t = count d.closing t ↔
      inLiterals d.closing (scan d t) =
        inLiterals d.opening (scan d t) + inInteriors d (scan d t) := by
  have hopening := count_opening_scan hd ht
  have hclosing := count_closing_scan hd ht
  omega

/-- Without stray delimiters in a row, each of its opening delimiters begins a marker. -/
theorem count_opening_eq_markerCount (hd : d.Apart) (ht : '\n' ∉ t)
    (hliterals : inLiterals d.opening (scan d t) = 0) (hinteriors : inInteriors d (scan d t) = 0) :
    count d.opening t = markerCount (scan d t) := by
  have hopening := count_opening_scan hd ht
  omega

/-- What a literal token holds is counted. -/
theorem count_le_inLiterals {word u : Text} (hu : .literal u ∈ tokens) :
    count word u ≤ inLiterals word tokens := by
  rcases List.append_of_mem hu with ⟨before, after, rfl⟩
  rw [inLiterals_append, inLiterals]
  omega

/-- What a marker holds is counted. -/
theorem count_le_inInteriors {token : Token} (htoken : token ∈ tokens)
    (hliteral : token.isLiteral = false) :
    count d.opening (token.interior d) ≤ inInteriors d tokens := by
  rcases List.append_of_mem htoken with ⟨before, after, rfl⟩
  rw [inInteriors_append, inInteriors_cons_of_marker d hliteral]
  omega

/-- The balance check, for delimiters on one line that share no character.  It accepts a template
when on every line the closing delimiters in literal text are as many as the opening ones in
literal text and inside markers.  No opening delimiter lies in literal text in front of a
marker of its line.  So where no closing delimiter lies in literal text, the check accepts only
templates in which every opening delimiter begins a marker. -/
theorem checkBalance_iff_strays (hd : d.Apart) (identifier text : Text) :
    (rows (scan d text)).map unscan = lines text ∧
    (checkBalance d identifier text = .ok () ↔ ∀ row ∈ rows (scan d text),
      inLiterals d.closing row = inLiterals d.opening row + inInteriors d row) ∧
    (∀ row ∈ rows (scan d text), OpeningsLast d row) ∧
    ((∀ row ∈ rows (scan d text), inLiterals d.closing row = 0) →
      checkBalance d identifier text = .ok () → ∀ row ∈ rows (scan d text),
        count d.opening (unscan row) = markerCount row ∧
        (∀ t, .literal t ∈ row → ∀ p, ¬ OccursAt d.opening t p) ∧
        ∀ token ∈ row, token.isLiteral = false →
          ∀ p, ¬ OccursAt d.opening (token.interior d) p) := by
  have hrows : ∀ row, row ∈ rows (scan d text) ↔ ∃ line ∈ lines text, scan d line = row := by
    intro row
    rw [rows_scan hd, List.mem_map]
  have hline : ∀ line ∈ lines text, '\n' ∉ line := by
    intro line hmem
    exact not_mem_of_mem_split hmem
  have haccepts : checkBalance d identifier text = .ok () ↔ ∀ row ∈ rows (scan d text),
      inLiterals d.closing row = inLiterals d.opening row + inInteriors d row := by
    rw [checkBalance_eq_ok_iff, firstImbalance?_eq_none_iff]
    constructor
    · intro h row hrow
      rcases (hrows row).1 hrow with ⟨line, hmem, rfl⟩
      exact (count_eq_iff_strays hd (hline line hmem)).1 (h line hmem)
    · intro h line hmem
      apply (count_eq_iff_strays hd (hline line hmem)).2
      exact h _ ((hrows _).2 ⟨line, hmem, rfl⟩)
  refine ⟨?_, haccepts, ?_, ?_⟩
  · exact map_unscan_rows_scan hd.toProper hd.opening_line hd.closing_line text
  · intro row hrow
    rcases (hrows row).1 hrow with ⟨line, hmem, rfl⟩
    exact openingsLast_scan hd.toProper (hline line hmem)
  · intro hclosings haccepted row hrow
    have hstrays := haccepts.1 haccepted row hrow
    rw [hclosings row hrow] at hstrays
    have hliterals : inLiterals d.opening row = 0 := by omega
    have hinteriors : inInteriors d row = 0 := by omega
    refine ⟨?_, ?_, ?_⟩
    · rcases (hrows row).1 hrow with ⟨line, hmem, rfl⟩
      rw [unscan_scan]
      exact count_opening_eq_markerCount hd (hline line hmem) hliterals hinteriors
    · intro t ht
      apply (count_eq_zero_iff hd.opening_ne_nil).1
      have hle : count d.opening t ≤ inLiterals d.opening row := count_le_inLiterals ht
      omega
    · intro token htoken hliteral
      apply (count_eq_zero_iff hd.opening_ne_nil).1
      have hle : count d.opening (token.interior d) ≤ inInteriors d row :=
        count_le_inInteriors htoken hliteral
      omega

/-- Delimiters that overlap themselves.  The first line is accepted because the closing
delimiter behind its marker makes up for the opening one inside it; the second line holds both
strays in literal text, the closing one in front. -/
theorem checkBalance_iff_strays_crossed :
    let d : Delimiters := ⟨"<<", ">>"⟩
    let text : Text := "<<< <<a>>>>>\n>> x <<"
    d.Apart ∧
      rows (scan d text) = [[.placeholder "< <<a" "<<< <<a>>", .literal ">>>"],
        [.literal ">> x <<"]] ∧
      checkBalance d "page" text = .ok () := by
  intro d text
  have hd : d.Apart := by
    refine ⟨⟨by decide, by decide⟩, by decide, by decide, ?_⟩
    intro c hc
    obtain rfl : c = '<' := by simpa [d] using hc
    decide
  have hrows : rows (scan d text) = [[.placeholder "< <<a" "<<< <<a>>", .literal ">>>"],
      [.literal ">> x <<"]] := by decide +kernel
  refine ⟨hd, hrows, (checkBalance_iff_strays hd "page" text).2.1.2 ?_⟩
  rw [hrows]
  decide +kernel

end Template
end Stencil
