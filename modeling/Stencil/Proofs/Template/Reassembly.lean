import Stencil.Proofs.Template.Tokenisation

/-!
# Scanning what was put together

Tokens that come from different templates are put together to one text, which is then scanned
anew.  Markers keep what they are: each ends at its own closing delimiter, whatever stands
behind it.  New markers can come about only where an opening delimiter begins in literal text,
for instance at a seam between two of them; without one the scan finds the old markers and
no others.

Main results:

- Definition `Sealed`: no opening delimiter begins in the literal text of tokens in a row.
- Theorem `closed_of_mem_scanFrom`: every marker of a scan ends at its first closing
  delimiter.
- Theorem `markers_scan_unscan`: the markers of sealed tokens are found again.
- Theorem `sealed_of_quiet`: literal text without the first character of the opening
  delimiter is sealed, whatever stands around it.
-/

namespace Stencil
namespace Template

open Text

variable {d : Delimiters} {pending rest : Text} {token : Token} {tokens : List Token}

/-- The markers among tokens. -/
def markers (tokens : List Token) : List Token := tokens.filter fun token => !token.isLiteral

/-- No opening delimiter begins in the literal text of tokens in a row; it may reach over into
what follows. -/
def Sealed (d : Delimiters) : List Token → Prop
  | [] => True
  | .literal t :: rest =>
    (∀ p < t.length, ¬ OccursAt d.opening (t ++ unscan rest) p) ∧ Sealed d rest
  | _ :: rest => Sealed d rest

/-- A literal text without the first character of the opening delimiter. -/
def Quiet (d : Delimiters) (t : Text) : Prop := ∀ c ∈ d.opening.head?, c ∉ t

instance (d : Delimiters) (t : Text) : Decidable (Quiet d t) :=
  Option.decidableForallMem _

/-- A token that is a marker of its own: it ends at the first closing delimiter in it. -/
def Token.Closed (d : Delimiters) (token : Token) : Prop :=
  token.isLiteral = false → ∃ inner, Interior d inner ∧ token = marker d inner

/-- The markers are the tokens that are no literal text. -/
theorem mem_markers : token ∈ markers tokens ↔ token ∈ tokens ∧ token.isLiteral = false := by
  simp [markers]

/-- The markers of a sequence come one after the other. -/
theorem markers_append (a b : List Token) : markers (a ++ b) = markers a ++ markers b := by
  simp [markers]

theorem markers_literalTokens (t : Text) : markers (literalTokens t) = [] := by
  by_cases ht : t = [] <;> simp [literalTokens, ht, markers, Token.isLiteral]

theorem markers_marker_cons (d : Delimiters) (inner : Text) (tokens : List Token) :
    markers (marker d inner :: tokens) = marker d inner :: markers tokens := by
  simp [markers]

/-- Literal text is closed by itself. -/
theorem closed_of_mem_literalTokens {t : Text} (h : token ∈ literalTokens t) : token.Closed d := by
  intro hliteral
  by_cases ht : t = []
  · simp [literalTokens, ht] at h
  · simp only [literalTokens, ht, if_false, List.mem_singleton] at h
    rw [h] at hliteral
    cases hliteral

/-- Every marker of a scan ends at its first closing delimiter. -/
theorem closed_of_mem_scanFrom (hd : d.Proper) (h : token ∈ scanFrom d pending rest) :
    token.Closed d := by
  induction pending, rest using scanFrom_induction hd with
  | no_opening pending rest hopen =>
      rw [scanFrom_of_no_opening hopen] at h
      exact closed_of_mem_literalTokens h
  | no_closing pending rest before inside hopen hclose =>
      rw [scanFrom_of_no_closing hopen hclose] at h
      exact closed_of_mem_literalTokens h
  | broken pending rest before inside inner after hopen hclose hline ih =>
      rw [scanFrom_of_broken hd hopen hclose hline] at h
      exact ih h
  | marker pending rest before inside inner after hopen hclose hline ih =>
      rw [scanFrom_of_marker hd hopen hclose hline, List.mem_append, List.mem_cons] at h
      rcases h with h | rfl | h
      · exact closed_of_mem_literalTokens h
      · intro _
        have hinner : Interior d inner := by
          apply (interior_iff_cut after).2
          rw [← eq_of_cut hclose]
          exact ⟨hline, hclose⟩
        exact ⟨inner, hinner, rfl⟩
      · exact ih h

/-- A marker is found where it begins, whatever follows it. -/
theorem scanFrom_interior_append (hd : d.Proper) {inner : Text} (hinner : Interior d inner) :
    scanFrom d pending (d.opening ++ inner ++ d.closing ++ rest) =
      literalTokens pending ++ marker d inner :: scanFrom d [] rest := by
  rcases (interior_iff_cut rest).1 hinner with ⟨hline, hclose⟩
  have hopen : cut d.opening (d.opening ++ inner ++ d.closing ++ rest) =
      some ([], inner ++ d.closing ++ rest) := by
    simpa using cut_self_append d.opening (inner ++ d.closing ++ rest)
  rw [scanFrom_of_marker hd hopen hclose hline, List.append_nil]

/-- The markers of sealed tokens are found again. -/
theorem markers_scanFrom_unscan (hd : d.Proper) (hclosed : ∀ token ∈ tokens, token.Closed d)
    (hsealed : Sealed d tokens) (pending : Text) :
    markers (scanFrom d pending (unscan tokens)) = markers tokens := by
  induction tokens generalizing pending with
  | nil =>
      have hopen : cut d.opening [] = none := by
        simp [cut, hd.opening_ne_nil]
      rw [unscan, List.flatMap_nil, scanFrom_of_no_opening hopen, markers_literalTokens]
      rfl
  | cons token tokens ih =>
      have hrest : ∀ token ∈ tokens, token.Closed d := by
        intro next hnext
        exact hclosed next (List.mem_cons_of_mem token hnext)
      have htoken := hclosed token List.mem_cons_self
      cases hliteral : token.isLiteral with
      | true =>
          cases token with
          | literal t =>
              rw [unscan_cons, Token.source, scanFrom_append_of_not_occursAt hd hsealed.1,
                ih hrest hsealed.2]
              rfl
          | placeholder expression raw => cases hliteral
          | component name raw => cases hliteral
      | false =>
          rcases htoken hliteral with ⟨inner, hinner, rfl⟩
          have htail : Sealed d tokens := by
            cases h : marker d inner with
            | literal t =>
                rw [h] at hliteral
                cases hliteral
            | placeholder expression raw =>
                rw [h] at hsealed
                exact hsealed
            | component name raw =>
                rw [h] at hsealed
                exact hsealed
          rw [unscan_cons, source_marker, scanFrom_interior_append hd hinner, markers_append,
            markers_literalTokens, markers_marker_cons, markers_marker_cons, ih hrest htail]
          rfl

/-- What is scanned again has the same markers. -/
theorem markers_scan_unscan (hd : d.Proper) (hclosed : ∀ token ∈ tokens, token.Closed d)
    (hsealed : Sealed d tokens) : markers (scan d (unscan tokens)) = markers tokens :=
  markers_scanFrom_unscan hd hclosed hsealed []

/-- Quiet literals are sealed in whatever order they come. -/
theorem sealed_of_quiet (hd : d.Proper) (h : ∀ t, .literal t ∈ tokens → Quiet d t) :
    Sealed d tokens := by
  induction tokens with
  | nil => trivial
  | cons token tokens ih =>
      have hrest : Sealed d tokens := by
        apply ih
        intro t ht
        exact h t (List.mem_cons_of_mem token ht)
      cases token with
      | literal t =>
          have ht : Quiet d t := h t List.mem_cons_self
          exact ⟨not_occursAt_of_head_not_mem hd.opening_ne_nil ht (unscan tokens), hrest⟩
      | placeholder expression raw => exact hrest
      | component name raw => exact hrest

end Template
end Stencil
