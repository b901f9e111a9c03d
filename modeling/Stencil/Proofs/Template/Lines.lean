import Stencil.Proofs.Template.Compilation

/-!
# Templates line by line

Delimiters without a line feed never reach over one.  So a template that is written below
another one is scanned, checked and compiled as it is by itself, and only literal text runs
together where the two meet.

Main results:

- Theorem `checkBalance_append_line`: the lines below are checked after those above, and
  counted on.
- Theorem `exists_scan_append_line`: the tokens of both templates, where the literal text at
  the seam runs together.
- Theorem `exists_compileText_append_line_iff`: the whole is compiled when both are.
- Theorem `apply_append_line`: it is rendered to their two texts on lines of their own.
-/

namespace Stencil
namespace Template

open Text Outcome

variable {d : Delimiters} {a b : Text} {tokens : List Token} {identifier : Text}

/-! ## Balance -/

theorem lines_append_line (a b : Text) : lines (a ++ '\n' :: b) = lines a ++ lines b :=
  split_append_cons_self '\n' a b

/-- Numbering the lines from elsewhere on moves the failing one along. -/
theorem firstImbalance?_add (d : Delimiters) (number shift : Nat) (texts : List Text) :
    firstImbalance? d (shift + number) texts =
      (firstImbalance? d number texts).map fun (line, imbalance) => (shift + line, imbalance) := by
  induction texts generalizing number with
  | nil => rfl
  | cons text texts ih =>
      rw [firstImbalance?, firstImbalance?]
      cases lineImbalance? d text with
      | none => exact ih (number + 1)
      | some imbalance => rfl

theorem firstImbalance?_append (d : Delimiters) (number : Nat) (xs ys : List Text) :
    firstImbalance? d number (xs ++ ys) =
      (firstImbalance? d number xs).or (firstImbalance? d (xs.length + number) ys) := by
  induction xs generalizing number with
  | nil => simp [firstImbalance?]
  | cons text xs ih =>
      rw [List.cons_append, firstImbalance?, firstImbalance?]
      cases lineImbalance? d text with
      | none =>
          have hnumber : (text :: xs).length + number = xs.length + (number + 1) := by
            rw [List.length_cons]
            omega
          rw [hnumber]
          exact ih (number + 1)
      | some imbalance => rfl

/-- The lines below are checked after those above, and counted on. -/
theorem checkBalance_append_line (d : Delimiters) (identifier a b : Text) :
    checkBalance d identifier (a ++ '\n' :: b) =
      match firstImbalance? d 1 (lines a), firstImbalance? d 1 (lines b) with
      | some (line, imbalance), _ => .error (.unbalanced identifier line imbalance)
      | none, some (line, imbalance) =>
        .error (.unbalanced identifier ((lines a).length + line) imbalance)
      | none, none => .ok () := by
  unfold checkBalance
  rw [lines_append_line, firstImbalance?_append, firstImbalance?_add]
  cases firstImbalance? d 1 (lines a) <;> cases firstImbalance? d 1 (lines b) <;> rfl

theorem checkBalance_eq_ok_iff {text : Text} :
    checkBalance d identifier text = .ok () ↔ firstImbalance? d 1 (lines text) = none := by
  unfold checkBalance
  cases firstImbalance? d 1 (lines text) <;> simp

theorem checkBalance_eq_error_iff {text : Text} {line : Nat} {imbalance : Imbalance} :
    checkBalance d identifier text = .error (.unbalanced identifier line imbalance) ↔
      firstImbalance? d 1 (lines text) = some (line, imbalance) := by
  unfold checkBalance
  cases firstImbalance? d 1 (lines text) with
  | none => simp
  | some first => simp [Prod.ext_iff]

/-- The whole is balanced when both templates are. -/
theorem checkBalance_append_line_eq_ok_iff :
    checkBalance d identifier (a ++ '\n' :: b) = .ok () ↔
      checkBalance d identifier a = .ok () ∧ checkBalance d identifier b = .ok () := by
  rw [checkBalance_append_line, checkBalance_eq_ok_iff, checkBalance_eq_ok_iff]
  cases firstImbalance? d 1 (lines a) <;> cases firstImbalance? d 1 (lines b) <;> simp

/-- A line that fails above is the one that fails in the whole. -/
theorem checkBalance_append_line_of_above {line : Nat} {imbalance : Imbalance}
    (h : checkBalance d identifier a = .error (.unbalanced identifier line imbalance)) :
    checkBalance d identifier (a ++ '\n' :: b) =
      .error (.unbalanced identifier line imbalance) := by
  rw [checkBalance_append_line, checkBalance_eq_error_iff.1 h]

/-- Below a balanced template the lines are counted on. -/
theorem checkBalance_append_line_of_below {line : Nat} {imbalance : Imbalance}
    (ha : checkBalance d identifier a = .ok ())
    (hb : checkBalance d identifier b = .error (.unbalanced identifier line imbalance)) :
    checkBalance d identifier (a ++ '\n' :: b) =
      .error (.unbalanced identifier ((lines a).length + line) imbalance) := by
  rw [checkBalance_append_line, checkBalance_eq_ok_iff.1 ha, checkBalance_eq_error_iff.1 hb]

/-! ## Scanning -/

/-- Tokens with literal text in front, which runs together with a literal that comes
first. -/
def withText (t : Text) : List Token → List Token
  | .literal u :: tokens => .literal (t ++ u) :: tokens
  | tokens => literalTokens t ++ tokens

theorem withText_cases (t : Text) (tokens : List Token) :
    ((∀ next ∈ tokens.head?, next.isLiteral = false) ∧
        withText t tokens = literalTokens t ++ tokens) ∨
      ∃ u rest, tokens = .literal u :: rest ∧ withText t tokens = .literal (t ++ u) :: rest := by
  cases tokens with
  | nil => exact Or.inl ⟨by simp, by simp [withText]⟩
  | cons token rest =>
      cases token with
      | literal u => exact Or.inr ⟨u, rest, rfl, rfl⟩
      | placeholder expression raw => exact Or.inl ⟨by simp [Token.isLiteral], rfl⟩
      | component name raw => exact Or.inl ⟨by simp [Token.isLiteral], rfl⟩

/-- An opening delimiter above the seam that is not closed on its line stays so. -/
theorem Unclosed.append_line (hd : d.Proper) (hclosing : '\n' ∉ d.closing) {p : Nat}
    (h : Unclosed d a p) (hp : p + d.opening.length ≤ a.length) (b : Text) :
    Unclosed d (a ++ '\n' :: b) p := by
  intro q hq
  rcases (occursAt_append_cons_iff hd.closing_ne_nil hclosing).1 hq.occurs with habove | ⟨k, rfl, -⟩
  · have hfirst : FirstFrom d.closing a (p + d.opening.length) q := by
      refine ⟨hq.le, habove, fun r hr hlt hoccurs => hq.first r hr hlt ?_⟩
      exact (occursAt_append_cons_iff hd.closing_ne_nil hclosing).2 (Or.inl hoccurs)
    obtain ⟨n, hn, hlt, hfeed⟩ := h q hfirst
    have hna : n < a.length := (List.getElem?_eq_some_iff.1 hfeed).1
    exact ⟨n, hn, hlt, by rwa [List.getElem?_append_left hna]⟩
  · -- The first closing delimiter stands below the seam, so the seam is in between.
    refine ⟨a.length, hp, ?_, by simp⟩
    rw [List.length_append, List.length_singleton]
    omega

/-- Where the opening delimiters of the upper part are not closed on their lines, they are
not in the whole either. -/
theorem unclosed_append_line (hd : d.Proper) (hopening : '\n' ∉ d.opening)
    (hclosing : '\n' ∉ d.closing) {limit : Nat} (b : Text)
    (h : ∀ p < limit, OccursAt d.opening a p → Unclosed d a p) (hlimit : limit ≤ a.length) :
    ∀ p < limit, OccursAt d.opening (a ++ '\n' :: b) p → Unclosed d (a ++ '\n' :: b) p := by
  intro p hp hoccurs
  rcases (occursAt_append_cons_iff hd.opening_ne_nil hopening).1 hoccurs with habove | ⟨k, rfl, -⟩
  · have hlen := habove.length_le
    rw [List.length_drop] at hlen
    exact (h p hp habove).append_line hd hclosing (by omega) b
  · rw [List.length_append, List.length_singleton] at hp
    omega

/-- A tokenisation with literal text in front that begins no marker. -/
theorem Tokenisation.withText {t rest : Text} (h : Tokenisation d rest tokens)
    (hunclosed : ∀ p < t.length, OccursAt d.opening (t ++ rest) p → Unclosed d (t ++ rest) p) :
    Tokenisation d (t ++ rest) (withText t tokens) := by
  rcases withText_cases t tokens with ⟨hnext, htokens⟩ | ⟨u, tail, rfl, htokens⟩
  · rw [htokens]
    exact h.append_literalTokens hnext hunclosed
  · obtain ⟨hrest, htail⟩ := h.tail
    have htext : t ++ rest = t ++ u ++ unscan tail := by
      rw [hrest, List.append_assoc]
      rfl
    have hu := h.literal_ne_nil u (List.mem_cons_self ..)
    rw [htokens, htext]
    refine htail.cons_literal (by simp [hu]) (fun next hmem => ?_) fun p hp hoccurs => ?_
    · have hchain := (List.isChain_cons.1 h.separated).1 next hmem
      simpa [Token.isLiteral] using hchain
    · rw [← htext] at hoccurs ⊢
      by_cases hpt : p < t.length
      · exact hunclosed p hpt hoccurs
      · obtain ⟨k, rfl⟩ := Nat.exists_eq_add_of_le (Nat.le_of_not_lt hpt)
        rw [List.length_append] at hp
        rw [occursAt_append_add] at hoccurs
        rw [unclosed_append_add]
        exact h.unclosed_head (by omega) hoccurs

/-- Tokenisations of two texts on lines of their own make one of the whole: only the literal
text on both sides of the line feed runs together. -/
theorem Tokenisation.append_line (hd : d.Proper) (hopening : '\n' ∉ d.opening)
    (hclosing : '\n' ∉ d.closing) (h : Tokenisation d a tokens) :
    ∃ front tail, tokens = front ++ literalTokens tail ∧
      ∀ b below, Tokenisation d b below →
        Tokenisation d (a ++ '\n' :: b) (front ++ Template.withText (tail ++ ['\n']) below) := by
  induction hlen : tokens.length using Nat.strong_induction_on generalizing a tokens with
  | h n ih =>
      rcases h.cases_marker with
        ⟨htokens, hall⟩ | ⟨t, inner, after, rest, htokens, htext, hinner, hbefore, htail⟩
      · refine ⟨[], a, htokens, fun b below hbelow => ?_⟩
        have hunclosed := unclosed_append_line hd hopening hclosing b hall le_rfl
        have hwhole : a ++ '\n' :: b = a ++ ['\n'] ++ b := by simp
        rw [hwhole] at hunclosed ⊢
        refine hbelow.withText fun p hp hoccurs => ?_
        by_cases hpa : p < a.length
        · exact hunclosed p hpa hoccurs
        · -- No delimiter stands on the line feed itself.
          exfalso
          rw [← hwhole] at hoccurs
          rcases (occursAt_append_cons_iff hd.opening_ne_nil hopening).1 hoccurs with
            habove | ⟨k, rfl, -⟩
          · exact hpa (habove.lt_length hd.opening_ne_nil)
          · omega
      · have hshort : rest.length < n := by
          rw [← hlen, htokens, List.length_append, List.length_cons]
          omega
        obtain ⟨front, tail, hrest, hjoin⟩ := ih rest.length hshort htail rfl
        refine ⟨literalTokens t ++ Template.marker d inner :: front, tail, ?_,
          fun b below hbelow => ?_⟩
        · rw [htokens, hrest, List.append_assoc, List.cons_append]
        · have hlimit : t.length ≤ a.length := by
            rw [htext, List.append_assoc, List.length_append]
            omega
          have hunclosed := unclosed_append_line hd hopening hclosing b hbefore hlimit
          have hwhole : a ++ '\n' :: b =
              t ++ (d.opening ++ inner ++ d.closing ++ (after ++ '\n' :: b)) := by
            rw [htext]
            simp
          have htokens' : literalTokens t ++ Template.marker d inner :: front ++
              Template.withText (tail ++ ['\n']) below =
                literalTokens t ++ Template.marker d inner ::
                  (front ++ Template.withText (tail ++ ['\n']) below) := by simp
          rw [hwhole] at hunclosed ⊢
          rw [htokens']
          exact ((hjoin b below hbelow).cons_marker hinner).append_literalTokens (by simp) hunclosed

/-- The tokens of two templates on lines of their own. -/
theorem exists_scan_append_line (hd : d.Proper) (hopening : '\n' ∉ d.opening)
    (hclosing : '\n' ∉ d.closing) (a : Text) :
    ∃ front tail, scan d a = front ++ literalTokens tail ∧
      ∀ b, scan d (a ++ '\n' :: b) = front ++ withText (tail ++ ['\n']) (scan d b) := by
  obtain ⟨front, tail, ha, hjoin⟩ :=
    (tokenisation_scan hd hopening a).append_line hd hopening hclosing
  exact ⟨front, tail, ha, fun b =>
    scan_eq_of_tokenisation hd hopening (hjoin b _ (tokenisation_scan hd hopening b))⟩

/-! ## Compilation -/

theorem forall_compilable_literalTokens (t : Text) :
    ∀ token ∈ literalTokens t, token.Compilable := by
  unfold literalTokens
  split <;> simp [Token.Compilable]

theorem forall_compilable_withText {t : Text} :
    (∀ token ∈ withText t tokens, token.Compilable) ↔ ∀ token ∈ tokens, token.Compilable := by
  have hliteral := forall_compilable_literalTokens t
  rcases withText_cases t tokens with ⟨-, htokens⟩ | ⟨u, rest, rfl, htokens⟩
  · rw [htokens, List.forall_mem_append]
    exact and_iff_right hliteral
  · rw [htokens, List.forall_mem_cons, List.forall_mem_cons]
    exact Iff.rfl

/-- The whole is compiled when both templates are. -/
theorem exists_compileText_append_line_iff (hd : d.Proper) (hopening : '\n' ∉ d.opening)
    (hclosing : '\n' ∉ d.closing) :
    (∃ whole, compileText d identifier (a ++ '\n' :: b) = .ok whole) ↔
      (∃ above, compileText d identifier a = .ok above) ∧
        ∃ below, compileText d identifier b = .ok below := by
  have hcompiles : ∀ text, (∃ compiled, compileText d identifier text = .ok compiled) ↔
      checkBalance d identifier text = .ok () ∧ ∀ token ∈ scan d text, token.Compilable := by
    intro text
    simp only [compileText_eq_ok_iff]
    constructor
    · rintro ⟨compiled, hbalance, htokens, -⟩
      exact ⟨hbalance, htokens⟩
    · rintro ⟨hbalance, htokens⟩
      exact ⟨⟨(scan d text).map Token.part⟩, hbalance, htokens, rfl⟩
  obtain ⟨front, tail, ha, hjoin⟩ := exists_scan_append_line hd hopening hclosing a
  have htail := forall_compilable_literalTokens tail
  rw [hcompiles, hcompiles, hcompiles, checkBalance_append_line_eq_ok_iff, hjoin, ha,
    List.forall_mem_append, List.forall_mem_append, forall_compilable_withText]
  constructor
  · rintro ⟨⟨hbalance, hbalance'⟩, hfront, hbelow⟩
    exact ⟨⟨hbalance, hfront, htail⟩, hbalance', hbelow⟩
  · rintro ⟨⟨hbalance, hfront, -⟩, hbalance', hbelow⟩
    exact ⟨⟨hbalance, hbalance'⟩, hfront, hbelow⟩

/-! ## Rendering -/

theorem renderParts_literalTokens (data : Data) (t : Text) :
    renderParts data ((literalTokens t).map Token.part) = .ok t := by
  unfold literalTokens
  split
  · rename_i hnil
    rw [hnil]
    rfl
  · rw [List.map_singleton, Token.part, renderParts_cons_text, renderParts]
    exact congrArg Except.ok (List.append_nil t)

theorem renderParts_withText (data : Data) (t : Text) (tokens : List Token) :
    renderParts data ((withText t tokens).map Token.part) =
      (t ++ ·) <$> renderParts data (tokens.map Token.part) := by
  rcases withText_cases t tokens with ⟨-, htokens⟩ | ⟨u, rest, rfl, htokens⟩
  · rw [htokens, List.map_append, renderParts_append, renderParts_literalTokens]
    cases renderParts data (tokens.map Token.part) <;> rfl
  · rw [htokens, List.map_cons, List.map_cons, Token.part, Token.part, renderParts_cons_text,
      renderParts_cons_text]
    cases renderParts data (rest.map Token.part) <;> simp

/-- The whole is rendered to the texts of both templates on lines of their own, and raises
what the first of them raises. -/
theorem apply_append_line (hd : d.Proper) (hopening : '\n' ∉ d.opening)
    (hclosing : '\n' ∉ d.closing) {whole above below : Compiled}
    (hwhole : compileText d identifier (a ++ '\n' :: b) = .ok whole)
    (habove : compileText d identifier a = .ok above)
    (hbelow : compileText d identifier b = .ok below) (data : Data) :
    whole.apply data = (do
      let x ← above.apply data
      let y ← below.apply data
      return x ++ '\n' :: y) := by
  obtain ⟨front, tail, ha, hjoin⟩ := exists_scan_append_line hd hopening hclosing a
  have hparts := (compileText_eq_ok_iff.1 hwhole).2.2
  have hparts' := (compileText_eq_ok_iff.1 habove).2.2
  unfold Compiled.apply
  rw [← hparts, ← hparts', ← (compileText_eq_ok_iff.1 hbelow).2.2, hjoin b, ha, List.map_append,
    List.map_append, renderParts_append, renderParts_append, renderParts_literalTokens,
    renderParts_withText]
  generalize renderParts _ (front.map Token.part) = x
  generalize renderParts _ ((scan d b).map Token.part) = y
  cases x with
  | error raised => rfl
  | ok x =>
      cases y with
      | error raised => rfl
      | ok y =>
          change Except.ok (x ++ (tail ++ ['\n'] ++ y)) = Except.ok (x ++ tail ++ '\n' :: y)
          simp

end Template
end Stencil
