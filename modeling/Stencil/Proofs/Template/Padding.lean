import Stencil.Proofs.Template.Lines
import Stencil.Proofs.Text.Blank
import Stencil.Proofs.Text.Filling

/-!
# Padding of placeholders

The blanks around the expression of a placeholder have no meaning.  Where the delimiters hold
neither blanks nor characters of paths, a template whose placeholders hold paths can be padded
anew, and the two templates stay alike: the balance check says the same of both, and both are
scanned into the same tokens, but for what the markers look like.

Main results:

- Relation `Token.Repadded`: a token whose marker is padded anew.
- Theorem `scan_repadded`: a template that is padded anew is scanned into the tokens that it was
  put together from, and it is alike.
- Theorem `checkBalance_of_alike`: the balance check says the same.
- Theorem `exists_interpolate_repadded`: both templates are read as one program.
-/

namespace Stencil
namespace Template

open Text Outcome

/-- Delimiters that hold neither blanks nor characters of paths. -/
structure Delimiters.Plain (d : Delimiters) : Prop extends d.Proper where
  opening_plain : ∀ c ∈ d.opening, isBlank c = false ∧ isWord c = false ∧ c ≠ '.'
  closing_plain : ∀ c ∈ d.closing, isBlank c = false ∧ isWord c = false ∧ c ≠ '.'

/-- The characters that the structure of a template depends on: line feeds and those of the
delimiters. -/
def Delimiters.Fixed (d : Delimiters) (c : Char) : Prop :=
  c = '\n' ∨ c ∈ d.opening ∨ c ∈ d.closing

/-- Blanks that stay on their line. -/
def Padding (t : Text) : Prop := ∀ c ∈ t, isBlank c = true ∧ c ≠ '\n'

instance (t : Text) : Decidable (Padding t) :=
  List.decidableBAll (fun c => isBlank c = true ∧ c ≠ '\n') t

/-- The same token, or the same placeholder with other padding around its expression. -/
inductive Token.Repadded (d : Delimiters) : Token → Token → Prop
  | same (token : Token) : Repadded d token token
  | placeholder (expression raw before after : Text) (hbefore : Padding before)
      (hafter : Padding after) : Repadded d (.placeholder expression raw)
        (.placeholder expression (d.opening ++ (before ++ expression ++ after) ++ d.closing))

/-- The placeholders among tokens hold paths. -/
def HoldPaths (tokens : List Token) : Prop :=
  ∀ expression raw, .placeholder expression raw ∈ tokens → isPath expression = true

variable {d : Delimiters} {pending rest inner before after expression text : Text} {token : Token}
  {tokens tokens' : List Token}

/-! ## Padded paths -/

/-- The characters of a path are no blanks. -/
theorem isBlank_eq_false_of_isPath (h : isPath expression = true) :
    ∀ c ∈ expression, isBlank c = false := by
  intro c hc
  by_cases hpoint : c = '.'
  · rw [hpoint]
    decide
  · by_contra hblank
    rw [Bool.not_eq_false] at hblank
    have hword := isWord_of_isPath h hc hpoint
    rw [isWord_eq_false_of_isBlank hblank] at hword
    cases hword

theorem trim_padded (hbefore : Padding before) (hafter : Padding after)
    (h : isPath expression = true) : trim (before ++ expression ++ after) = expression :=
  trim_append (fun c hc => (hbefore c hc).1) (fun c hc => (hafter c hc).1) (ne_nil_of_isPath h)
    (isBlank_eq_false_of_isPath h)

/-- Padding and paths hold nothing of the structure of a template. -/
theorem not_fixed_of_padded (hd : d.Plain) (hbefore : Padding before) (hafter : Padding after)
    (h : isPath expression = true) : ∀ c ∈ before ++ expression ++ after, ¬ d.Fixed c := by
  have hpadding : ∀ c, isBlank c = true ∧ c ≠ '\n' → ¬ d.Fixed c := by
    rintro c ⟨hblank, hline⟩ (hfeed | hopening | hclosing)
    · exact hline hfeed
    · rw [(hd.opening_plain c hopening).1] at hblank
      cases hblank
    · rw [(hd.closing_plain c hclosing).1] at hblank
      cases hblank
  have hpath : ∀ c ∈ expression, ¬ d.Fixed c := by
    rintro c hc (hfeed | hopening | hclosing)
    · have hblank := isBlank_eq_false_of_isPath h c hc
      rw [hfeed] at hblank
      revert hblank
      decide
    · rcases hd.opening_plain c hopening with ⟨-, hword, hpoint⟩
      rw [isWord_of_isPath h hc hpoint] at hword
      cases hword
    · rcases hd.closing_plain c hclosing with ⟨-, hword, hpoint⟩
      rw [isWord_of_isPath h hc hpoint] at hword
      cases hword
  intro c hc
  rcases List.mem_append.1 hc with hc | hc
  · rcases List.mem_append.1 hc with hc | hc
    · exact hpadding c (hbefore c hc)
    · exact hpath c hc
  · exact hpadding c (hafter c hc)

/-- What is trimmed off the inside of a marker is padding. -/
theorem exists_padded_of_interior (h : Interior d inner) : ∃ before after,
    inner = before ++ trim inner ++ after ∧ Padding before ∧ Padding after := by
  rcases exists_eq_append_trim inner with ⟨before, after, hinner, hbefore, hafter⟩
  have hline : ∀ c ∈ inner, c ≠ '\n' := by
    rintro c hc rfl
    exact h.line hc
  refine ⟨before, after, hinner, ?_, ?_⟩
  · intro c hc
    refine ⟨hbefore c hc, hline c ?_⟩
    rw [hinner]
    simp [hc]
  · intro c hc
    refine ⟨hafter c hc, hline c ?_⟩
    rw [hinner]
    simp [hc]

/-- A padded path can stand between plain delimiters. -/
theorem interior_padded (hd : d.Plain) (hbefore : Padding before) (hafter : Padding after)
    (h : isPath expression = true) : Interior d (before ++ expression ++ after) := by
  have hfree := not_fixed_of_padded hd hbefore hafter h
  apply (interior_iff_cut []).2
  constructor
  · intro hfeed
    exact hfree '\n' hfeed (Or.inl rfl)
  · rw [List.append_assoc _ d.closing, cut_append_of_disjoint hd.closing_ne_nil
      fun c hc hmem => hfree c hc (Or.inr (Or.inr hmem)), cut_self_append]
    simp

/-- The marker of a padded path is a placeholder for it. -/
theorem marker_padded (d : Delimiters) (hbefore : Padding before) (hafter : Padding after)
    (h : isPath expression = true) : marker d (before ++ expression ++ after) =
      .placeholder expression (d.opening ++ (before ++ expression ++ after) ++ d.closing) := by
  unfold marker
  rw [trim_padded hbefore hafter h, componentName?_of_isPath h]

theorem trim_of_marker_eq_placeholder {raw : Text}
    (h : marker d inner = .placeholder expression raw) : trim inner = expression := by
  unfold marker at h
  split at h
  · cases h
  · exact (Token.placeholder.inj h).1

/-- A marker that is padded anew is a marker with an inside that is alike. -/
theorem exists_marker_of_repadded (hd : d.Plain) (hinner : Interior d inner)
    (hpaths : HoldPaths [marker d inner]) (h : Token.Repadded d (marker d inner) token) :
    ∃ inner', Interior d inner' ∧ token = marker d inner' ∧ Alike d.Fixed inner inner' := by
  generalize hmarker : marker d inner = old at h hpaths
  cases h with
  | same token => exact ⟨inner, hinner, hmarker.symm, .refl d.Fixed inner⟩
  | placeholder expression raw before' after' hbefore' hafter' =>
      have hpath : isPath expression = true := hpaths expression raw List.mem_cons_self
      rcases exists_padded_of_interior hinner with ⟨before, after, hpadded, hbefore, hafter⟩
      rw [trim_of_marker_eq_placeholder hmarker] at hpadded
      refine ⟨before' ++ expression ++ after', interior_padded hd hbefore' hafter' hpath,
        (marker_padded d hbefore' hafter' hpath).symm, ?_⟩
      have hne : expression ≠ [] := ne_nil_of_isPath hpath
      have hfilled := Alike.filling (by simp [hne]) (by simp [hne])
        (not_fixed_of_padded hd hbefore hafter hpath)
        (not_fixed_of_padded hd hbefore' hafter' hpath) Alike.nil
      rw [List.append_nil, List.append_nil, ← hpadded] at hfilled
      exact hfilled

/-! ## Scanning -/

/-- Literal text in front of tokens stays as it is. -/
theorem exists_repadded_literalTokens_append {t : Text}
    (h : List.Forall₂ (Token.Repadded d) (literalTokens t ++ tokens) tokens') :
    ∃ others, tokens' = literalTokens t ++ others ∧
      List.Forall₂ (Token.Repadded d) tokens others := by
  by_cases ht : t = []
  · simp only [literalTokens, ht, if_true, List.nil_append] at h ⊢
    exact ⟨tokens', rfl, h⟩
  · simp only [literalTokens, ht, if_false, List.singleton_append] at h ⊢
    cases h with
    | cons hfirst hrest =>
        cases hfirst
        exact ⟨_, rfl, hrest⟩

theorem eq_of_repadded_literalTokens {t : Text}
    (h : List.Forall₂ (Token.Repadded d) (literalTokens t) tokens') :
    tokens' = literalTokens t := by
  rw [← List.append_nil (literalTokens t)] at h
  rcases exists_repadded_literalTokens_append h with ⟨others, rfl, hothers⟩
  cases hothers
  rw [List.append_nil]

/-- A run of the scanner whose tokens are padded anew.  The pending text is literal and stays; the
rest of the text is replaced by one that is alike. -/
theorem scanFrom_repadded (hd : d.Plain) (hpaths : HoldPaths (scanFrom d pending rest))
    (h : List.Forall₂ (Token.Repadded d) (scanFrom d pending rest) tokens') :
    ∃ rest', unscan tokens' = pending ++ rest' ∧ scanFrom d pending rest' = tokens' ∧
      Alike d.Fixed rest rest' := by
  induction pending, rest using scanFrom_induction hd.toProper generalizing tokens' with
  | no_opening pending rest hopen =>
      have hscan : scanFrom d pending rest = literalTokens (pending ++ rest) :=
        scanFrom_of_no_opening hopen
      rw [hscan] at h
      rw [eq_of_repadded_literalTokens h]
      exact ⟨rest, unscan_literalTokens _, hscan, .refl d.Fixed rest⟩
  | no_closing pending rest before inside hopen hclose =>
      have hscan : scanFrom d pending rest = literalTokens (pending ++ rest) :=
        scanFrom_of_no_closing hopen hclose
      rw [hscan] at h
      rw [eq_of_repadded_literalTokens h]
      exact ⟨rest, unscan_literalTokens _, hscan, .refl d.Fixed rest⟩
  | broken pending rest before inside inner after hopen hclose hline ih =>
      rw [scanFrom_of_broken hd.toProper hopen hclose hline] at h hpaths
      rcases ih hpaths h with ⟨inside', hsource, hscan, halike⟩
      -- The closing delimiter is found again, with the line feed in front of it.
      have hclosing : ∀ c ∈ d.closing, d.Fixed c := fun c hc => Or.inr (Or.inr hc)
      rcases halike.cut_cases hd.closing_ne_nil hclosing with
        ⟨hnone, -⟩ | ⟨inner₁, after₁, inner', after', hcut, hclose', hinner, -⟩
      · rw [hclose] at hnone
        cases hnone
      · rw [hclose] at hcut
        cases hcut
        have hline' : '\n' ∈ inner' := (hinner.mem_iff (Or.inl rfl)).1 hline
        have hopen' : cut d.opening (before ++ d.opening ++ inside') = some (before, inside') :=
          cut_replace hopen inside'
        refine ⟨before ++ d.opening ++ inside', ?_, ?_, ?_⟩
        · rw [hsource]
          simp
        · rw [scanFrom_of_broken hd.toProper hopen' hclose' hline', hscan]
        · rw [eq_of_cut hopen]
          exact (Alike.refl d.Fixed _).append halike
  | marker pending rest before inside inner after hopen hclose hline ih =>
      rw [scanFrom_of_marker hd.toProper hopen hclose hline] at h hpaths
      rcases exists_repadded_literalTokens_append h with ⟨others, rfl, hothers⟩
      cases hothers with
      | @cons _ token _ others htoken hothers =>
          have hinner : Interior d inner := by
            apply (interior_iff_cut after).2
            rw [← eq_of_cut hclose]
            exact ⟨hline, hclose⟩
          have hmarker : HoldPaths [marker d inner] := by
            intro expression raw hmem
            apply hpaths expression raw
            rw [List.mem_singleton.1 hmem]
            simp
          have hrest : HoldPaths (scanFrom d [] after) := by
            intro expression raw hmem
            apply hpaths expression raw
            simp [hmem]
          rcases exists_marker_of_repadded hd hinner hmarker htoken with
            ⟨inner', hinner', rfl, halike⟩
          rcases ih hrest hothers with ⟨after', hsource, hscan, hafter⟩
          rcases (interior_iff_cut after').1 hinner' with ⟨hline', hclose'⟩
          have hopen' : cut d.opening (before ++ d.opening ++ (inner' ++ d.closing ++ after')) =
              some (before, inner' ++ d.closing ++ after') := cut_replace hopen _
          refine ⟨before ++ d.opening ++ (inner' ++ d.closing ++ after'), ?_, ?_, ?_⟩
          · rw [unscan_append, unscan_cons, unscan_literalTokens, source_marker, hsource]
            simp
          · rw [scanFrom_of_marker hd.toProper hopen' hclose' hline', hscan]
          · rw [eq_of_cut hopen, eq_of_cut hclose]
            exact (Alike.refl d.Fixed _).append ((halike.append (.refl d.Fixed _)).append hafter)

/-- A template that is padded anew is alike, and it is scanned into the tokens that it was put
together from. -/
theorem scan_repadded (hd : d.Plain) (hpaths : HoldPaths (scan d text))
    (h : List.Forall₂ (Token.Repadded d) (scan d text) tokens) :
    scan d (unscan tokens) = tokens ∧ Alike d.Fixed text (unscan tokens) := by
  rcases scanFrom_repadded hd hpaths h with ⟨text', hsource, hscan, halike⟩
  rw [List.nil_append] at hsource
  rw [hsource]
  exact ⟨hscan, halike⟩

/-! ## The balance check and the program -/

theorem lineImbalance?_of_alike (hd : d.Proper) {line line' : Text} (h : Alike d.Fixed line line') :
    lineImbalance? d line = lineImbalance? d line' := by
  have hopening := h.count_eq hd.opening_ne_nil fun c hc => Or.inr (Or.inl hc)
  have hclosing := h.count_eq hd.closing_ne_nil fun c hc => Or.inr (Or.inr hc)
  rw [lineImbalance?, lineImbalance?, hopening, hclosing]

theorem firstImbalance?_of_alike (hd : d.Proper) {texts texts' : List Text}
    (h : List.Forall₂ (Alike d.Fixed) texts texts') (number : Nat) :
    firstImbalance? d number texts = firstImbalance? d number texts' := by
  induction h generalizing number with
  | nil => rfl
  | cons hline _ ih => rw [firstImbalance?, firstImbalance?, lineImbalance?_of_alike hd hline, ih]

/-- The balance check says the same of templates that are alike. -/
theorem checkBalance_of_alike (hd : d.Proper) {text' : Text} (h : Alike d.Fixed text text')
    (identifier : Text) : checkBalance d identifier text = checkBalance d identifier text' := by
  have hlines := h.forall₂_lines (Or.inl rfl)
  rw [checkBalance, checkBalance, firstImbalance?_of_alike hd hlines]

/-- A token that is padded anew is read as the same segment. -/
theorem Token.Repadded.toSegment_eq {token' : Token} (h : Token.Repadded d token token') :
    token'.toSegment = token.toSegment := by
  cases h <;> rfl

theorem Token.Repadded.filled {token' : Token} (h : Token.Repadded d token token')
    (hfilled : token.Filled) : token'.Filled := by
  cases h with
  | same => exact hfilled
  | placeholder => exact hfilled

theorem HoldPaths.filled (hpaths : HoldPaths tokens) : ∀ token ∈ tokens, token.Filled := by
  intro token htoken
  cases token with
  | placeholder expression raw => exact ne_nil_of_isPath (hpaths expression raw htoken)
  | literal t => trivial
  | component name raw => trivial

/-- Tokens that are padded anew are read as the same segments, whatever template they are from. -/
theorem segments_repadded (hpaths : HoldPaths tokens)
    (h : List.Forall₂ (Token.Repadded d) tokens tokens') (identifier : Text) :
    segments identifier tokens = .ok (tokens.map Token.toSegment) ∧
      segments identifier tokens' = .ok (tokens.map Token.toSegment) := by
  refine ⟨segments_eq_ok_iff.2 ⟨hpaths.filled, rfl⟩, segments_eq_ok_iff.2 ?_⟩
  have hfilled := hpaths.filled
  clear hpaths
  induction h with
  | nil => exact ⟨hfilled, rfl⟩
  | cons htoken _ ih =>
      rw [List.forall_mem_cons] at hfilled ⊢
      obtain ⟨hrest, hsegments⟩ := ih hfilled.2
      refine ⟨⟨htoken.filled hfilled.1, hrest⟩, ?_⟩
      rw [List.map_cons, List.map_cons, htoken.toSegment_eq, hsegments]

/-- Both templates are read as one program, whatever they are called. -/
theorem exists_interpolate_repadded (hd : d.Plain) (hpaths : HoldPaths (scan d text))
    (h : List.Forall₂ (Token.Repadded d) (scan d text) tokens) {identifier : Text}
    (hbalance : checkBalance d identifier text = .ok ()) :
    ∃ p, ∀ identifier, interpolate d identifier text = .ok p ∧
      interpolate d identifier (unscan tokens) = .ok p := by
  rcases scan_repadded hd hpaths h with ⟨hscan, halike⟩
  refine ⟨⟨(scan d text).map Token.toSegment⟩, ?_⟩
  intro other
  rcases segments_repadded hpaths h other with ⟨hsegments, hsegments'⟩
  have hother : checkBalance d other text = .ok () := by
    rw [checkBalance_eq_ok_iff] at hbalance ⊢
    exact hbalance
  have hpadded : checkBalance d other (unscan tokens) = .ok () := by
    rw [← checkBalance_of_alike hd.toProper halike other]
    exact hother
  rw [interpolate, interpolate, hother, hpadded, hscan, hsegments, hsegments']
  exact ⟨rfl, rfl⟩

end Template
end Stencil
