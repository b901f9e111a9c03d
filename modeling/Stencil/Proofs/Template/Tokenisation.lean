import Mathlib.Data.List.Chain
import Stencil.Proofs.Text.Occurrence
import Stencil.Template.Token

/-!
# The tokenisation that a scan computes

A tokenisation of a text is described without the scanner: the tokens concatenate
to the text, literals are non-empty and never adjacent, every marker ends at the
first closing delimiter on its line, and no opening delimiter inside a literal has
its first closing delimiter on its own line.  The scanner satisfies this
description, and nothing else does.

Main results:

- Theorem `scans_scanFrom`: for non-empty delimiters the loop goes on with a shorter
  rest each time, so its measure never stops it early.
- Theorem `unclosed_of_skipped`: an opening delimiter that overlaps a skipped one
  is not closed on its line either.
- Theorem `scan_eq_iff_tokenisation`: the loop ends, and its result is the only
  tokenisation.
-/

namespace Stencil
namespace Template

open Text

/-! ## The description -/

/-- Delimiters that are not empty, as every valid configuration has them. -/
structure Delimiters.Proper (d : Delimiters) : Prop where
  opening_ne_nil : d.opening ≠ []
  closing_ne_nil : d.closing ≠ []

/-- Whether a token is literal text. -/
def Token.isLiteral : Token → Bool
  | literal _ => true
  | _ => false

/-- A text that can stand between the delimiters of a marker: it lies on one line,
and the first closing delimiter after it begins is the one that ends the marker. -/
structure Interior (d : Delimiters) (inner : Text) : Prop where
  line : '\n' ∉ inner
  first : FirstFrom d.closing (inner ++ d.closing) 0 inner.length

/-- The token of a marker with a given interior: a component with its trimmed name
exactly when the trimmed interior is `component(...)`, otherwise a placeholder. -/
inductive MarkerToken (d : Delimiters) (inner : Text) : Token → Prop
  | component (name : Text) (h : trim inner = "component(" ++ name ++ ")") :
      MarkerToken d inner (.component (trim name) (d.opening ++ inner ++ d.closing))
  | placeholder (h : ∀ name : Text, trim inner ≠ "component(" ++ name ++ ")") :
      MarkerToken d inner (.placeholder (trim inner) (d.opening ++ inner ++ d.closing))

/-- An opening delimiter at `p` begins no marker: the first closing delimiter behind
it does not exist, or there is a line feed before it. -/
def Unclosed (d : Delimiters) (text : Text) (p : Nat) : Prop :=
  ∀ q, FirstFrom d.closing text (p + d.opening.length) q →
    ∃ n, p + d.opening.length ≤ n ∧ n < q ∧ text[n]? = some '\n'

/-- The leftmost first-close tokenisation of a text. -/
structure Tokenisation (d : Delimiters) (text : Text) (tokens : List Token) : Prop where
  /-- Nothing is lost or doubled. -/
  source_eq : unscan tokens = text
  literal_ne_nil : ∀ t, Token.literal t ∈ tokens → t ≠ []
  separated : tokens.IsChain fun a b => ¬ (a.isLiteral ∧ b.isLiteral)
  marker : ∀ token ∈ tokens, token.isLiteral = false →
    ∃ inner, Interior d inner ∧ MarkerToken d inner token
  /-- No marker is missed inside a literal. -/
  unclosed : ∀ (i : Nat) (t : Text), tokens[i]? = some (.literal t) →
    ∀ p, (unscan (tokens.take i)).length ≤ p →
      p < (unscan (tokens.take i)).length + t.length →
        OccursAt d.opening text p → Unclosed d text p

/-- The rules of the scanning loop, with no measure that could stop it: `pending` is the
literal text directly before `rest`.  A derivation is a run that ends. -/
inductive Scans (d : Delimiters) : (pending rest : Text) → List Token → Prop
  | no_opening {pending rest : Text} (hopen : cut d.opening rest = none) :
      Scans d pending rest (literalTokens (pending ++ rest))
  | no_closing {pending rest before inside : Text}
      (hopen : cut d.opening rest = some (before, inside))
      (hclose : cut d.closing inside = none) :
      Scans d pending rest (literalTokens (pending ++ rest))
  | broken {pending rest before inside inner after : Text} {tokens : List Token}
      (hopen : cut d.opening rest = some (before, inside))
      (hclose : cut d.closing inside = some (inner, after)) (hline : '\n' ∈ inner)
      (hrun : Scans d (pending ++ before ++ d.opening) inside tokens) :
      Scans d pending rest tokens
  | marker {pending rest before inside inner after : Text} {tokens : List Token}
      (hopen : cut d.opening rest = some (before, inside))
      (hclose : cut d.closing inside = some (inner, after)) (hline : '\n' ∉ inner)
      (hrun : Scans d [] after tokens) :
      Scans d pending rest (literalTokens (pending ++ before) ++ marker d inner :: tokens)

/-! ## Marker tokens -/

theorem componentName?_eq_some_iff {e n : Text} :
    componentName? e = some n ↔
      ∃ name : Text, e = "component(" ++ name ++ ")" ∧ trim name = n := by
  unfold componentName?
  cases hafter : after? ("component(" : Text) e with
  | none =>
      simp only [reduceCtorEq, false_iff, not_exists, not_and]
      intro name he
      rw [after?_eq_none_iff] at hafter
      exact absurd ⟨name ++ ")".toList, by rw [he, List.append_assoc]⟩ hafter
  | some rest =>
      have he := after?_eq_some_iff.1 hafter
      have hrest : ∀ name : Text, e = "component(" ++ name ++ ")" ↔ rest = name ++ [')'] := by
        intro name
        rw [he, List.append_assoc]
        exact ⟨List.append_cancel_left, fun h => by rw [h]; rfl⟩
      simp only [hrest]
      by_cases hlast : rest.getLast? = some ')'
      · obtain ⟨name, rfl⟩ := List.getLast?_eq_some_iff.1 hlast
        simp
      · simp only [if_neg hlast, reduceCtorEq, false_iff, not_exists, not_and]
        rintro name rfl
        exact absurd (by simp) hlast

theorem componentName?_eq_none_iff {e : Text} :
    componentName? e = none ↔ ∀ name : Text, e ≠ "component(" ++ name ++ ")" := by
  rw [Option.eq_none_iff_forall_ne_some]
  constructor
  · intro h name he
    exact h (trim name) (componentName?_eq_some_iff.2 ⟨name, he, rfl⟩)
  · intro h n hn
    obtain ⟨name, he, -⟩ := componentName?_eq_some_iff.1 hn
    exact h name he

/-- The scanner makes the token that the interior calls for. -/
theorem markerToken_iff {d : Delimiters} {inner : Text} {token : Token} :
    MarkerToken d inner token ↔ token = marker d inner := by
  constructor
  · rintro (⟨name, h⟩ | h)
    · have hname := componentName?_eq_some_iff.2 ⟨name, h, rfl⟩
      simp [marker, hname]
    · simp [marker, componentName?_eq_none_iff.2 h]
  · rintro rfl
    cases hname : componentName? (trim inner) with
    | none =>
        simp only [marker, hname]
        exact .placeholder (componentName?_eq_none_iff.1 hname)
    | some n =>
        obtain ⟨name, h, rfl⟩ := componentName?_eq_some_iff.1 hname
        simp only [marker, hname]
        exact .component name h

@[simp]
theorem isLiteral_marker (d : Delimiters) (inner : Text) :
    (marker d inner).isLiteral = false := by
  unfold marker
  split <;> rfl

/-- An interior is what the first closing delimiter cuts off. -/
theorem interior_iff_cut {d : Delimiters} {inner : Text} (after : Text) :
    Interior d inner ↔
      '\n' ∉ inner ∧ cut d.closing (inner ++ d.closing ++ after) = some (inner, after) := by
  constructor
  · rintro ⟨hline, hfirst⟩
    have hcut : cut d.closing (inner ++ d.closing) = some (inner, []) :=
      cut_eq_some_iff.2 ⟨by simp, fun p hp => hfirst.first p (Nat.zero_le p) hp⟩
    exact ⟨hline, by simpa using cut_append hcut⟩
  · rintro ⟨hline, hcut⟩
    refine ⟨hline, ?_⟩
    simpa using firstFrom_of_cut [] (cut_of_append hcut)

/-! ## Opening delimiters that are not closed on their line -/

/-- Whether an opening delimiter is closed depends only on what follows it. -/
theorem unclosed_append_add (d : Delimiters) (front t : Text) (p : Nat) :
    Unclosed d (front ++ t) (front.length + p) ↔ Unclosed d t p := by
  have hchar : ∀ n : Nat, (front ++ t)[front.length + n]? = t[n]? := by
    intro n
    rw [List.getElem?_append_right (Nat.le_add_right _ _), Nat.add_sub_cancel_left]
  constructor
  · intro h q hq
    obtain ⟨n, hle, hlt, hn⟩ := h (front.length + q)
      (by rw [Nat.add_assoc]; exact (firstFrom_append_add _ front t _ q).2 hq)
    obtain ⟨k, rfl⟩ := Nat.exists_eq_add_of_le
      (show front.length ≤ n by omega)
    exact ⟨k, by omega, by omega, by rwa [hchar] at hn⟩
  · intro h q hq
    obtain ⟨k, rfl⟩ := Nat.exists_eq_add_of_le
      (show front.length ≤ q by have := hq.le; omega)
    rw [Nat.add_assoc, firstFrom_append_add] at hq
    obtain ⟨n, hle, hlt, hn⟩ := h k hq
    exact ⟨front.length + n, by omega, by omega, by rw [hchar, hn]⟩

/-- An opening delimiter is closed on its line exactly when the text up to the first
closing delimiter behind it holds no line feed. -/
theorem unclosed_iff_of_cut {d : Delimiters} {inside inner after : Text} (front : Text)
    (h : cut d.closing inside = some (inner, after)) :
    Unclosed d (front ++ d.opening ++ inside) front.length ↔ '\n' ∈ inner := by
  have hfirst := firstFrom_of_cut (front ++ d.opening) h
  rw [List.length_append] at hfirst
  have hinside : ∀ k, k < inner.length →
      (front ++ d.opening ++ inside)[front.length + d.opening.length + k]? = inner[k]? := by
    intro k hk
    rw [← List.length_append, List.getElem?_append_right (Nat.le_add_right _ _),
      Nat.add_sub_cancel_left, eq_of_cut h, List.append_assoc, List.getElem?_append_left hk]
  constructor
  · intro hunclosed
    obtain ⟨n, hle, hlt, hn⟩ := hunclosed _ hfirst
    obtain ⟨k, rfl⟩ := Nat.exists_eq_add_of_le hle
    rw [hinside k (by omega)] at hn
    exact List.mem_of_getElem? hn
  · intro hmem q hq
    obtain ⟨k, hk⟩ := List.mem_iff_getElem?.1 hmem
    obtain ⟨hlt, -⟩ := List.getElem?_eq_some_iff.1 hk
    refine ⟨front.length + d.opening.length + k, Nat.le_add_right _ _, ?_, ?_⟩
    · rw [hq.unique hfirst]
      omega
    · rw [hinside k hlt, hk]

/-- Without a closing delimiter behind it, an opening delimiter is not closed. -/
theorem unclosed_of_cut_eq_none {d : Delimiters} {inside : Text} (front : Text)
    (h : cut d.closing inside = none) {p : Nat} (hp : front.length ≤ p + d.opening.length) :
    Unclosed d (front ++ inside) p := by
  intro q hq
  exact absurd hq.occurs (not_occursAt_of_cut_eq_none front h (Nat.le_trans hp hq.le))

/-- An opening delimiter that overlaps one which is not closed on its line is not
closed on its line either: it has no line feed itself, so the line feed in front of
the closing delimiter stands behind it too. -/
theorem unclosed_of_skipped {d : Delimiters} {inside inner after : Text} (front : Text)
    (hopening : '\n' ∉ d.opening) (h : cut d.closing inside = some (inner, after))
    (hline : '\n' ∈ inner) {p : Nat} (hle : front.length ≤ p)
    (hlt : p < front.length + d.opening.length)
    (hoccurs : OccursAt d.opening (front ++ d.opening ++ inside) p) :
    Unclosed d (front ++ d.opening ++ inside) p := by
  intro q hq
  have hfirst := firstFrom_of_cut (front ++ d.opening) h
  rw [List.length_append] at hfirst
  obtain ⟨n, hn, hnlt, hfeed⟩ := (unclosed_iff_of_cut front h).2 hline _ hfirst
  have hbehind : p + d.opening.length ≤ n := by
    by_contra hcon
    obtain ⟨k, rfl⟩ := Nat.exists_eq_add_of_le (show p ≤ n by omega)
    rw [hoccurs.getElem?_add (by omega)] at hfeed
    exact hopening (List.mem_of_getElem? hfeed)
  have hqle : front.length + d.opening.length + inner.length ≤ q := by
    by_contra hcon
    exact hfirst.first q (by have := hq.le; omega) (by omega) hq.occurs
  exact ⟨n, hbehind, by omega, hfeed⟩

/-! ## Taking a tokenisation apart and putting it together -/

namespace Tokenisation

variable {d : Delimiters} {text rest : Text} {token : Token} {tokens : List Token}

theorem nil : Tokenisation d [] [] := by
  refine ⟨rfl, ?_, List.IsChain.nil, ?_, ?_⟩ <;> simp

/-- A literal in front of a tokenisation that does not begin with one. -/
theorem cons_literal {t : Text} (h : Tokenisation d rest tokens) (hne : t ≠ [])
    (hnext : ∀ next ∈ tokens.head?, next.isLiteral = false)
    (hunclosed : ∀ p < t.length, OccursAt d.opening (t ++ rest) p → Unclosed d (t ++ rest) p) :
    Tokenisation d (t ++ rest) (.literal t :: tokens) where
  source_eq := by rw [unscan_cons, h.source_eq]; rfl
  literal_ne_nil := by
    intro u hu
    rcases List.mem_cons.1 hu with heq | hmem
    · cases heq
      exact hne
    · exact h.literal_ne_nil u hmem
  separated := by
    refine List.isChain_cons.2 ⟨fun next hmem => ?_, h.separated⟩
    simp [hnext next hmem]
  marker := by
    intro token hmem hliteral
    rcases List.mem_cons.1 hmem with rfl | hmem
    · exact absurd hliteral (by simp [Token.isLiteral])
    · exact h.marker token hmem hliteral
  unclosed := by
    intro i u hi p hle hlt hoccurs
    cases i with
    | zero =>
        simp only [List.getElem?_cons_zero, Option.some.injEq, Token.literal.injEq] at hi
        subst hi
        exact hunclosed p (by simpa [unscan] using hlt) hoccurs
    | succ i =>
        rw [List.take_succ_cons, unscan_cons, List.length_append] at hle hlt
        change t.length + _ ≤ p at hle
        change p < t.length + _ + _ at hlt
        obtain ⟨k, rfl⟩ := Nat.exists_eq_add_of_le (show t.length ≤ p by omega)
        rw [occursAt_append_add] at hoccurs
        rw [unclosed_append_add]
        exact h.unclosed i u hi k (by omega) (by omega) hoccurs

/-- A marker in front of a tokenisation. -/
theorem cons_marker {inner : Text} (h : Tokenisation d rest tokens) (hinner : Interior d inner) :
    Tokenisation d (d.opening ++ inner ++ d.closing ++ rest)
      (Template.marker d inner :: tokens) where
  source_eq := by rw [unscan_cons, source_marker, h.source_eq]
  literal_ne_nil := by
    intro u hu
    rcases List.mem_cons.1 hu with heq | hmem
    · exact absurd (isLiteral_marker d inner) (by simp [← heq, Token.isLiteral])
    · exact h.literal_ne_nil u hmem
  separated := by
    refine List.isChain_cons.2 ⟨fun next _ => ?_, h.separated⟩
    simp
  marker := by
    intro token hmem hliteral
    rcases List.mem_cons.1 hmem with rfl | hmem
    · exact ⟨inner, hinner, markerToken_iff.2 rfl⟩
    · exact h.marker token hmem hliteral
  unclosed := by
    intro i u hi p hle hlt hoccurs
    cases i with
    | zero =>
        simp only [List.getElem?_cons_zero, Option.some.injEq] at hi
        exact absurd (isLiteral_marker d inner) (by simp [hi, Token.isLiteral])
    | succ i =>
        rw [List.take_succ_cons, unscan_cons, List.length_append, source_marker] at hle hlt
        obtain ⟨k, rfl⟩ := Nat.exists_eq_add_of_le
          (show (d.opening ++ inner ++ d.closing).length ≤ p by omega)
        rw [occursAt_append_add] at hoccurs
        rw [unclosed_append_add]
        exact h.unclosed i u hi k (by omega) (by omega) hoccurs

/-- A possibly empty literal in front of a tokenisation that does not begin with one. -/
theorem append_literalTokens {t : Text} (h : Tokenisation d rest tokens)
    (hnext : ∀ next ∈ tokens.head?, next.isLiteral = false)
    (hunclosed : ∀ p < t.length, OccursAt d.opening (t ++ rest) p → Unclosed d (t ++ rest) p) :
    Tokenisation d (t ++ rest) (literalTokens t ++ tokens) := by
  by_cases hne : t = []
  · subst hne
    exact h
  · rw [literalTokens, if_neg hne]
    exact h.cons_literal hne hnext hunclosed

/-- A text without a marker is one literal. -/
theorem literalTokens_self
    (h : ∀ p < text.length, OccursAt d.opening text p → Unclosed d text p) :
    Tokenisation d text (literalTokens text) := by
  have := append_literalTokens (t := text) (nil (d := d)) (by simp) (by simpa using h)
  simpa using this

/-- The tokens behind the first one are a tokenisation of the rest of the text. -/
theorem tail (h : Tokenisation d text (token :: tokens)) :
    text = token.source ++ unscan tokens ∧ Tokenisation d (unscan tokens) tokens := by
  have htext : text = token.source ++ unscan tokens := by rw [← h.source_eq, unscan_cons]
  refine ⟨htext, rfl, ?_, h.separated.tail, ?_, ?_⟩
  · exact fun t ht => h.literal_ne_nil t (List.mem_cons_of_mem _ ht)
  · exact fun u hu => h.marker u (List.mem_cons_of_mem _ hu)
  · intro i t hi p hle hlt hoccurs
    rw [← unclosed_append_add d token.source, ← htext]
    refine h.unclosed (i + 1) t hi _ ?_ ?_ ?_
    · rw [List.take_succ_cons, unscan_cons, List.length_append]
      omega
    · rw [List.take_succ_cons, unscan_cons, List.length_append]
      omega
    · rwa [htext, occursAt_append_add]

/-- The literal in front of a tokenisation misses no marker. -/
theorem unclosed_head {t : Text} (h : Tokenisation d text (.literal t :: tokens)) {p : Nat}
    (hp : p < t.length) (hoccurs : OccursAt d.opening text p) : Unclosed d text p :=
  h.unclosed 0 t rfl p (by simp [unscan]) (by simpa [unscan] using hp) hoccurs

/-- Either the text is one literal, or a first marker stands behind a literal part. -/
theorem cases_marker (h : Tokenisation d text tokens) :
    (tokens = literalTokens text ∧
      ∀ p < text.length, OccursAt d.opening text p → Unclosed d text p) ∨
    ∃ t inner after rest,
      tokens = literalTokens t ++ Template.marker d inner :: rest ∧
      text = t ++ d.opening ++ (inner ++ d.closing ++ after) ∧
      Interior d inner ∧
      (∀ p < t.length, OccursAt d.opening text p → Unclosed d text p) ∧
      Tokenisation d after rest := by
  cases tokens with
  | nil =>
      left
      have htext : text = [] := h.source_eq.symm
      subst htext
      exact ⟨rfl, fun p hp => absurd hp (Nat.not_lt_zero p)⟩
  | cons token tail =>
      obtain ⟨htext, htail⟩ := h.tail
      cases hliteral : token.isLiteral with
      | false =>
          right
          obtain ⟨inner, hinner, htoken⟩ := h.marker token List.mem_cons_self hliteral
          rw [markerToken_iff] at htoken
          subst htoken
          refine ⟨[], inner, unscan tail, tail, rfl, ?_, hinner, ?_, htail⟩
          · rw [htext, source_marker]
            simp
          · exact fun p hp => absurd hp (Nat.not_lt_zero p)
      | true =>
          obtain ⟨t, rfl⟩ : ∃ t, token = .literal t := by
            cases token <;> simp_all [Token.isLiteral]
          have hne : t ≠ [] := h.literal_ne_nil t List.mem_cons_self
          have htokens : literalTokens t = [.literal t] := if_neg hne
          cases tail with
          | nil =>
              left
              have ht : text = t := by simpa [unscan, Token.source] using htext
              subst ht
              exact ⟨htokens.symm, fun p hp => h.unclosed_head hp⟩
          | cons next rest =>
              right
              have hnext : next.isLiteral = false := by
                have := (List.isChain_cons_cons.1 h.separated).1
                simpa [Token.isLiteral] using this
              obtain ⟨inner, hinner, htoken⟩ :=
                h.marker next (List.mem_cons_of_mem _ List.mem_cons_self) hnext
              rw [markerToken_iff] at htoken
              subst htoken
              refine ⟨t, inner, unscan rest, rest, by rw [htokens]; rfl, ?_, hinner, ?_,
                htail.tail.2⟩
              · rw [htext, unscan_cons, source_marker]
                simp [Token.source]
              · exact fun p hp => h.unclosed_head hp

end Tokenisation

/-! ## The loop of the scanner -/

section Loop

variable {d : Delimiters} {pending rest before inside inner after : Text}

theorem scanFrom_of_no_opening (hopen : cut d.opening rest = none) :
    scanFrom d pending rest = literalTokens (pending ++ rest) := by
  rw [scanFrom, hopen]

theorem scanFrom_of_no_closing (hopen : cut d.opening rest = some (before, inside))
    (hclose : cut d.closing inside = none) :
    scanFrom d pending rest = literalTokens (pending ++ rest) := by
  rw [scanFrom, hopen]
  simp only [hclose]

/-- A line feed in front of the closing delimiter makes the opening one literal, and
the scan goes on behind it. -/
theorem scanFrom_of_broken (hd : d.Proper) (hopen : cut d.opening rest = some (before, inside))
    (hclose : cut d.closing inside = some (inner, after)) (hline : '\n' ∈ inner) :
    scanFrom d pending rest = scanFrom d (pending ++ before ++ d.opening) inside := by
  rw [scanFrom, hopen]
  simp only [hclose, if_pos hline, if_pos (length_after_lt hopen hd.opening_ne_nil)]

theorem length_after_marker_lt (hd : d.Proper)
    (hopen : cut d.opening rest = some (before, inside))
    (hclose : cut d.closing inside = some (inner, after)) : after.length < rest.length :=
  Nat.lt_trans (length_after_lt hclose hd.closing_ne_nil)
    (length_after_lt hopen hd.opening_ne_nil)

/-- A closing delimiter on the line of the opening one ends a marker, and the scan goes
on behind the marker. -/
theorem scanFrom_of_marker (hd : d.Proper) (hopen : cut d.opening rest = some (before, inside))
    (hclose : cut d.closing inside = some (inner, after)) (hline : '\n' ∉ inner) :
    scanFrom d pending rest =
      literalTokens (pending ++ before) ++ marker d inner :: scanFrom d [] after := by
  rw [scanFrom, hopen]
  simp only [hclose, if_neg hline, if_pos (length_after_marker_lt hd hopen hclose)]

/-- Text in which no opening delimiter begins is passed over. -/
theorem scanFrom_append_of_not_occursAt (hd : d.Proper) {t : Text}
    (ht : ∀ p < t.length, ¬ OccursAt d.opening (t ++ rest) p) :
    scanFrom d pending (t ++ rest) = scanFrom d (pending ++ t) rest := by
  have hcut := cut_append_of_not_occursAt ht
  cases hopen : cut d.opening rest with
  | none =>
      rw [hopen] at hcut
      rw [scanFrom_of_no_opening hcut, scanFrom_of_no_opening hopen, List.append_assoc]
  | some pair =>
      obtain ⟨before, inside⟩ := pair
      rw [hopen] at hcut
      dsimp only [Option.map_some] at hcut
      cases hclose : cut d.closing inside with
      | none =>
          rw [scanFrom_of_no_closing hcut hclose, scanFrom_of_no_closing hopen hclose,
            List.append_assoc]
      | some pair =>
          obtain ⟨inner, after⟩ := pair
          by_cases hline : '\n' ∈ inner
          · rw [scanFrom_of_broken hd hcut hclose hline, scanFrom_of_broken hd hopen hclose hline]
            simp only [List.append_assoc]
          · rw [scanFrom_of_marker hd hcut hclose hline, scanFrom_of_marker hd hopen hclose hline]
            simp only [List.append_assoc]

/-- Induction along the loop, for delimiters that are not empty. -/
theorem scanFrom_induction (hd : d.Proper) {motive : Text → Text → Prop}
    (no_opening : ∀ pending rest, cut d.opening rest = none → motive pending rest)
    (no_closing : ∀ pending rest before inside, cut d.opening rest = some (before, inside) →
      cut d.closing inside = none → motive pending rest)
    (broken : ∀ pending rest before inside inner after,
      cut d.opening rest = some (before, inside) →
      cut d.closing inside = some (inner, after) → '\n' ∈ inner →
      motive (pending ++ before ++ d.opening) inside → motive pending rest)
    (marker : ∀ pending rest before inside inner after,
      cut d.opening rest = some (before, inside) →
      cut d.closing inside = some (inner, after) → '\n' ∉ inner →
      motive [] after → motive pending rest)
    (pending rest : Text) : motive pending rest := by
  induction pending, rest using scanFrom.induct d with
  | case1 pending rest hopen => exact no_opening pending rest hopen
  | case2 pending rest before inside hopen hclose =>
      exact no_closing pending rest before inside hopen hclose
  | case3 pending rest before inside hopen inner after hclose hline _ ih =>
      exact broken pending rest before inside inner after hopen hclose hline ih
  | case4 pending rest before inside hopen inner after hclose hline hlen =>
      exact absurd (length_after_lt hopen hd.opening_ne_nil) hlen
  | case5 pending rest before inside hopen inner after hclose hline _ ih =>
      exact marker pending rest before inside inner after hopen hclose hline ih
  | case6 pending rest before inside hopen inner after hclose hline hlen =>
      exact absurd (length_after_marker_lt hd hopen hclose) hlen

/-- The loop ends by its own rules, and `scanFrom` is the result. -/
theorem scans_scanFrom (hd : d.Proper) (pending rest : Text) :
    Scans d pending rest (scanFrom d pending rest) := by
  induction pending, rest using scanFrom_induction hd with
  | no_opening pending rest hopen =>
      rw [scanFrom_of_no_opening hopen]
      exact .no_opening hopen
  | no_closing pending rest before inside hopen hclose =>
      rw [scanFrom_of_no_closing hopen hclose]
      exact .no_closing hopen hclose
  | broken pending rest before inside inner after hopen hclose hline ih =>
      rw [scanFrom_of_broken hd hopen hclose hline]
      exact .broken hopen hclose hline ih
  | marker pending rest before inside inner after hopen hclose hline ih =>
      rw [scanFrom_of_marker hd hopen hclose hline]
      exact .marker hopen hclose hline ih

/-- No opening delimiter in the pending literal text begins a marker.  This is what the
loop knows about the text that it has left behind. -/
def Settled (d : Delimiters) (pending rest : Text) : Prop :=
  ∀ p < pending.length, OccursAt d.opening (pending ++ rest) p → Unclosed d (pending ++ rest) p

theorem settled_nil (d : Delimiters) (rest : Text) : Settled d [] rest :=
  fun p hp => absurd hp (Nat.not_lt_zero p)

/-- Up to the first opening delimiter of the rest there is nothing new to close. -/
theorem Settled.up_to_opening (h : Settled d pending rest)
    (hopen : cut d.opening rest = some (before, inside)) :
    ∀ p < (pending ++ before).length,
      OccursAt d.opening (pending ++ rest) p → Unclosed d (pending ++ rest) p := by
  intro p hp hoccurs
  rcases Nat.lt_or_ge p pending.length with hlt | hge
  · exact h p hlt hoccurs
  · obtain ⟨k, rfl⟩ := Nat.exists_eq_add_of_le hge
    rw [occursAt_append_add] at hoccurs
    rw [List.length_append] at hp
    exact absurd hoccurs (not_occursAt_of_cut hopen (by omega))

/-- Skipping an opening delimiter that is not closed on its line leaves no marker behind. -/
theorem Settled.skip (h : Settled d pending rest) (hopening : '\n' ∉ d.opening)
    (hopen : cut d.opening rest = some (before, inside))
    (hclose : cut d.closing inside = some (inner, after)) (hline : '\n' ∈ inner) :
    Settled d (pending ++ before ++ d.opening) inside := by
  have htext : pending ++ before ++ d.opening ++ inside = pending ++ rest := by
    rw [eq_of_cut hopen]
    simp
  intro p hp hoccurs
  rcases Nat.lt_or_ge p (pending ++ before).length with hlt | hge
  · rw [htext] at hoccurs ⊢
    exact h.up_to_opening hopen p hlt hoccurs
  · rw [List.length_append] at hp
    exact unclosed_of_skipped (pending ++ before) hopening hclose hline hge hp hoccurs

/-- The opening delimiter of a marker is closed on its line. -/
theorem Interior.not_unclosed (h : Interior d inner) (t after : Text) :
    ¬ Unclosed d (t ++ d.opening ++ (inner ++ d.closing ++ after)) t.length := by
  obtain ⟨hline, hcut⟩ := (interior_iff_cut after).1 h
  rw [unclosed_iff_of_cut t hcut]
  exact hline

/-! ## The scanner computes the tokenisation -/

theorem tokenisation_scanFrom (hd : d.Proper) (hopening : '\n' ∉ d.opening)
    (hsettled : Settled d pending rest) :
    Tokenisation d (pending ++ rest) (scanFrom d pending rest) := by
  induction pending, rest using scanFrom_induction hd with
  | no_opening pending rest hopen =>
      rw [scanFrom_of_no_opening hopen]
      refine Tokenisation.literalTokens_self fun p _ hoccurs => ?_
      rcases Nat.lt_or_ge p pending.length with hlt | hge
      · exact hsettled p hlt hoccurs
      · exact absurd hoccurs (not_occursAt_of_cut_eq_none pending hopen hge)
  | no_closing pending rest before inside hopen hclose =>
      rw [scanFrom_of_no_closing hopen hclose]
      refine Tokenisation.literalTokens_self fun p _ hoccurs => ?_
      rcases Nat.lt_or_ge p (pending ++ before).length with hlt | hge
      · exact hsettled.up_to_opening hopen p hlt hoccurs
      · have htext : pending ++ rest = pending ++ before ++ d.opening ++ inside := by
          rw [eq_of_cut hopen]
          simp
        rw [htext]
        refine unclosed_of_cut_eq_none _ hclose ?_
        rw [List.length_append]
        omega
  | broken pending rest before inside inner after hopen hclose hline ih =>
      rw [scanFrom_of_broken hd hopen hclose hline]
      have htokens := ih (hsettled.skip hopening hopen hclose hline)
      rw [eq_of_cut hopen]
      simpa using htokens
  | marker pending rest before inside inner after hopen hclose hline ih =>
      rw [scanFrom_of_marker hd hopen hclose hline]
      have hinner : Interior d inner :=
        (interior_iff_cut after).2 ⟨hline, by rw [← eq_of_cut hclose]; exact hclose⟩
      have htext : pending ++ rest =
          pending ++ before ++ (d.opening ++ inner ++ d.closing ++ after) := by
        rw [eq_of_cut hopen, eq_of_cut hclose]
        simp
      have hbefore := hsettled.up_to_opening hopen
      rw [htext] at hbefore ⊢
      exact ((ih (settled_nil d after)).cons_marker hinner).append_literalTokens
        (by simp) hbefore

theorem eq_scanFrom_of_tokenisation (hd : d.Proper) (hopening : '\n' ∉ d.opening)
    (hsettled : Settled d pending rest) {tokens : List Token}
    (h : Tokenisation d (pending ++ rest) tokens) : tokens = scanFrom d pending rest := by
  induction pending, rest using scanFrom_induction hd generalizing tokens with
  | no_opening pending rest hopen =>
      rw [scanFrom_of_no_opening hopen]
      rcases h.cases_marker with ⟨htokens, -⟩ | ⟨t, inner', after', rest', -, htext, hinner, -, -⟩
      · exact htokens
      · exfalso
        have hoccurs := occursAt_length d.opening t (inner' ++ d.closing ++ after')
        have hclosed := hinner.not_unclosed t after'
        rw [← htext] at hoccurs hclosed
        rcases Nat.lt_or_ge t.length pending.length with hlt | hge
        · exact hclosed (hsettled _ hlt hoccurs)
        · exact not_occursAt_of_cut_eq_none pending hopen hge hoccurs
  | no_closing pending rest before inside hopen hclose =>
      rw [scanFrom_of_no_closing hopen hclose]
      rcases h.cases_marker with ⟨htokens, -⟩ | ⟨t, inner', after', rest', -, htext, hinner, -, -⟩
      · exact htokens
      · exfalso
        have hoccurs := occursAt_length d.opening t (inner' ++ d.closing ++ after')
        have hclosed := hinner.not_unclosed t after'
        rw [← htext] at hoccurs hclosed
        rcases Nat.lt_or_ge t.length (pending ++ before).length with hlt | hge
        · exact hclosed (hsettled.up_to_opening hopen _ hlt hoccurs)
        · have hrest : pending ++ rest = pending ++ before ++ d.opening ++ inside := by
            rw [eq_of_cut hopen]
            simp
          rw [hrest] at hclosed
          refine hclosed (unclosed_of_cut_eq_none _ hclose ?_)
          rw [List.length_append]
          omega
  | broken pending rest before inside inner after hopen hclose hline ih =>
      rw [scanFrom_of_broken hd hopen hclose hline]
      refine ih (hsettled.skip hopening hopen hclose hline) ?_
      rw [eq_of_cut hopen] at h
      simpa using h
  | marker pending rest before inside inner after hopen hclose hline ih =>
      rw [scanFrom_of_marker hd hopen hclose hline]
      have hrest : pending ++ rest = pending ++ before ++ d.opening ++ inside := by
        rw [eq_of_cut hopen]
        simp
      have hfirst : ¬ Unclosed d (pending ++ rest) (pending ++ before).length := by
        rw [hrest, unclosed_iff_of_cut _ hclose]
        exact hline
      have hstart : OccursAt d.opening (pending ++ rest) (pending ++ before).length := by
        rw [hrest]
        exact occursAt_length _ _ _
      rcases h.cases_marker with
        ⟨-, hall⟩ | ⟨t, inner', after', rest', htokens, htext, hinner, hbefore, htail⟩
      · exact absurd (hall _ (hstart.lt_length hd.opening_ne_nil) hstart) hfirst
      · have hoccurs := occursAt_length d.opening t (inner' ++ d.closing ++ after')
        have hclosed := hinner.not_unclosed t after'
        rw [← htext] at hoccurs hclosed
        have hlength : t.length = (pending ++ before).length := by
          rcases Nat.lt_trichotomy t.length (pending ++ before).length with hlt | heq | hgt
          · exact absurd (hsettled.up_to_opening hopen _ hlt hoccurs) hclosed
          · exact heq
          · exact absurd (hbefore _ hgt hstart) hfirst
        have hsplit : t ++ (d.opening ++ (inner' ++ d.closing ++ after')) =
            pending ++ before ++ (d.opening ++ inside) := by
          rw [← List.append_assoc, ← htext, hrest, List.append_assoc _ d.opening]
        obtain ⟨rfl, htail'⟩ := List.append_inj hsplit hlength
        have hinside := List.append_cancel_left htail'
        have hcut := ((interior_iff_cut after').1 hinner).2
        rw [hinside, hclose] at hcut
        simp only [Option.some.injEq, Prod.mk.injEq] at hcut
        obtain ⟨rfl, rfl⟩ := hcut
        rw [htokens, ih (settled_nil d after) htail]

end Loop

theorem tokenisation_scan {d : Delimiters} (hd : d.Proper) (hopening : '\n' ∉ d.opening)
    (text : Text) : Tokenisation d text (scan d text) :=
  tokenisation_scanFrom hd hopening (settled_nil d text)

/-- Whatever fits the description of a tokenisation is what the scanner computes. -/
theorem scan_eq_of_tokenisation {d : Delimiters} (hd : d.Proper) (hopening : '\n' ∉ d.opening)
    {text : Text} {tokens : List Token} (h : Tokenisation d text tokens) :
    scan d text = tokens :=
  (eq_scanFrom_of_tokenisation hd hopening (settled_nil d text) h).symm

/-- For non-empty delimiters, the opening one without a line feed, the loop of the scanner
ends and computes the leftmost first-close tokenisation: its result satisfies the
description, and it is the only token list that does. -/
theorem scan_eq_iff_tokenisation {d : Delimiters} (hd : d.Proper) (hopening : '\n' ∉ d.opening)
    (text : Text) :
    Scans d [] text (scan d text) ∧
      ∀ tokens, scan d text = tokens ↔ Tokenisation d text tokens := by
  refine ⟨scans_scanFrom hd [] text, fun tokens => ⟨?_, scan_eq_of_tokenisation hd hopening⟩⟩
  rintro rfl
  exact tokenisation_scan hd hopening text

/-- Delimiters that overlap themselves and each other, an opening one that is skipped
because its first closing delimiter is on the next line, and a component behind it. -/
theorem scan_eq_iff_tokenisation_overlapping :
    (Delimiters.mk "<<" "<>").Proper ∧ '\n' ∉ (Delimiters.mk "<<" "<>").opening ∧
      Tokenisation ⟨"<<", "<>"⟩ "<<<a\n<><< component( b ) <>>"
        [.literal "<<<a\n<>", .component "b" "<< component( b ) <>", .literal ">"] := by
  have hd : (Delimiters.mk "<<" "<>").Proper := ⟨by decide, by decide⟩
  have hline : '\n' ∉ (Delimiters.mk "<<" "<>").opening := by decide
  exact ⟨hd, hline, ((scan_eq_iff_tokenisation hd hline _).2 _).1 (by decide +kernel)⟩

end Template
end Stencil
