import Stencil.Proofs.Template.Stages
import Stencil.Proofs.Template.Tokenisation
import Stencil.Proofs.Text.Splitting

/-!
# Clean texts

A clean text is put together from pieces without delimiter characters and from
placeholders that hold none.  However the pieces come together, scanning finds these
placeholders and no other markers, and every line is balanced.  So the program of a clean
text shows the pieces one after the other.

Main results:

- Definitions `Piece` and `assemble`: a clean text and its pieces.
- Theorem `count_assemble`: opening and closing delimiters are equal in number.
- Theorem `checkBalance_assemble`: the text is balanced on every line, whatever the
  placeholders say.
- Theorem `compile_assemble`: a clean text is a program that is compiled to its pieces.
- Theorem `exists_piece`: the tokens of a clean template are such pieces.
-/

namespace Stencil
namespace Template

open Text Outcome

/-- Delimiters on one line that share no character. -/
structure Delimiters.Apart (d : Delimiters) : Prop extends d.Proper where
  opening_line : '\n' ∉ d.opening
  closing_line : '\n' ∉ d.closing
  disjoint : ∀ c ∈ d.opening, c ∉ d.closing

/-- A text without delimiter characters. -/
def Unmarked (d : Delimiters) (t : Text) : Prop := ∀ c ∈ t, c ∉ d.opening ∧ c ∉ d.closing

instance (d : Delimiters) (t : Text) : Decidable (Unmarked d t) :=
  List.decidableBAll (fun c => c ∉ d.opening ∧ c ∉ d.closing) t

/-- A piece of a template: a text that is shown as it is, or a placeholder. -/
inductive Piece where
  | text (t : Text)
  | placeholder (inner : Text)

namespace Piece

/-- How a piece is written. -/
def source (d : Delimiters) : Piece → Text
  | text t => t
  | placeholder inner => d.opening ++ inner ++ d.closing

/-- What a piece is compiled to. -/
def part : Piece → Part
  | text t => .text t
  | placeholder inner => .path (split '.' (trim inner))

/-- What a piece is scanned as. -/
def token (d : Delimiters) : Piece → Token
  | text t => .literal t
  | placeholder inner => .placeholder (trim inner) (d.opening ++ inner ++ d.closing)

/-- A piece that is told from all others by its delimiters. -/
def Clean (d : Delimiters) : Piece → Prop
  | text t => Unmarked d t
  | placeholder inner => '\n' ∉ inner ∧ Unmarked d inner ∧ isPath (trim inner) = true

/-- A piece that is scanned as it is written, whatever its expression is. -/
def Legible (d : Delimiters) : Piece → Prop
  | text t => Unmarked d t
  | placeholder inner => '\n' ∉ inner ∧ Unmarked d inner

/-- A clean piece can be scanned. -/
theorem Clean.legible {d : Delimiters} {piece : Piece} (h : piece.Clean d) : piece.Legible d := by
  cases piece with
  | text t => exact h
  | placeholder inner => exact ⟨h.1, h.2.1⟩

end Piece

/-- The text of pieces. -/
def assemble (d : Delimiters) (pieces : List Piece) : Text := pieces.flatMap (Piece.source d)

variable {d : Delimiters} {pieces : List Piece} {pending rest inner t : Text}

@[simp]
theorem assemble_nil : assemble d [] = [] := rfl

@[simp]
theorem assemble_cons (piece : Piece) (pieces : List Piece) :
    assemble d (piece :: pieces) = piece.source d ++ assemble d pieces := rfl

theorem source_token (d : Delimiters) (piece : Piece) :
    (piece.token d).source = piece.source d := by
  cases piece <;> rfl

theorem assemble_append (a b : List Piece) :
    assemble d (a ++ b) = assemble d a ++ assemble d b := by
  simp [assemble]

/-! ## Paths -/

/-- A path holds words and points only. -/
theorem isWord_of_isPath {expression : Text} (h : isPath expression = true) {c : Char}
    (hc : c ∈ expression) (hpoint : c ≠ '.') : isWord c = true := by
  rw [← join_split '.' expression, mem_join hpoint] at hc
  obtain ⟨word, hword, hc⟩ := hc
  have hall := List.all_eq_true.1 h word hword
  rw [Bool.and_eq_true] at hall
  exact List.all_eq_true.1 hall.2 c hc

/-- A path is no component marker. -/
theorem componentName?_of_isPath {expression : Text} (h : isPath expression = true) :
    componentName? expression = none := by
  rw [componentName?_eq_none_iff]
  rintro name rfl
  have hbracket : '(' ∈ ("component(" : Text) ++ name ++ ")" := by simp
  exact absurd (isWord_of_isPath h hbracket (by decide)) (by decide +kernel)

theorem ne_nil_of_isPath {expression : Text} (h : isPath expression = true) :
    expression ≠ [] := by
  rintro rfl
  exact absurd h (by decide)

/-! ## Balance -/

/-- In a legible text there are as many closing as opening delimiters. -/
theorem count_assemble (hd : d.Apart) (h : ∀ piece ∈ pieces, piece.Legible d) :
    count d.opening (assemble d pieces) = count d.closing (assemble d pieces) := by
  induction pieces with
  | nil => rw [assemble_nil, count_nil hd.opening_ne_nil, count_nil hd.closing_ne_nil]
  | cons piece pieces ih =>
      obtain ⟨hpiece, hpieces⟩ := List.forall_mem_cons.1 h
      rw [assemble_cons]
      cases piece with
      | text t =>
          rw [Piece.source, count_append_of_disjoint hd.opening_ne_nil fun c hc => (hpiece c hc).1,
            count_append_of_disjoint hd.closing_ne_nil fun c hc => (hpiece c hc).2]
          exact ih hpieces
      | placeholder inner =>
          obtain ⟨-, hinner⟩ := hpiece
          have hopened :
              count d.opening (d.opening ++ (inner ++ (d.closing ++ assemble d pieces))) =
                count d.opening (assemble d pieces) + 1 := by
            rw [count_self_append hd.opening_ne_nil,
              count_append_of_disjoint hd.opening_ne_nil fun c hc => (hinner c hc).1,
              count_append_of_disjoint hd.opening_ne_nil fun c hc hc' => hd.disjoint c hc' hc]
          have hclosed :
              count d.closing (d.opening ++ (inner ++ (d.closing ++ assemble d pieces))) =
                count d.closing (assemble d pieces) + 1 := by
            rw [count_append_of_disjoint hd.closing_ne_nil hd.disjoint,
              count_append_of_disjoint hd.closing_ne_nil fun c hc => (hinner c hc).2,
              count_self_append hd.closing_ne_nil]
          simp only [Piece.source, List.append_assoc]
          rw [hopened, hclosed, ih hpieces]

/-- The lines of a legible text are legible. -/
theorem exists_assemble_of_mem_lines (hd : d.Apart) (h : ∀ piece ∈ pieces, piece.Legible d)
    {line : Text} (hline : line ∈ lines (assemble d pieces)) :
    ∃ pieces', (∀ piece ∈ pieces', piece.Legible d) ∧ line = assemble d pieces' := by
  induction pieces generalizing line with
  | nil =>
      obtain rfl : line = [] := List.mem_singleton.1 hline
      exact ⟨[], by simp, rfl⟩
  | cons piece pieces ih =>
      obtain ⟨hpiece, hpieces⟩ := List.forall_mem_cons.1 h
      -- A line of the first piece alone is legible again.
      have hfront : ∀ front ∈ lines (piece.source d), ∃ piece' : Piece, piece'.Legible d ∧
          front = piece'.source d := by
        intro front hfront
        cases piece with
        | text t => exact ⟨.text front, fun c hc => hpiece c (mem_of_mem_split hfront hc), rfl⟩
        | placeholder inner =>
            have hflat : '\n' ∉ Piece.source d (.placeholder inner) := by
              simp only [Piece.source, List.mem_append, not_or]
              exact ⟨⟨hd.opening_line, hpiece.1⟩, hd.closing_line⟩
            rw [lines, split_of_not_mem hflat] at hfront
            exact ⟨.placeholder inner, hpiece, List.mem_singleton.1 hfront⟩
      obtain ⟨before, last, first, after, hsource, hrest, hwhole⟩ :=
        split_append '\n' (piece.source d) (assemble d pieces)
      rw [assemble_cons, lines, hwhole] at hline
      rcases List.mem_append.1 hline with hline | hline
      · obtain ⟨piece', hpiece', rfl⟩ := hfront line (by rw [lines, hsource]; simp [hline])
        exact ⟨[piece'], by simpa using hpiece', by simp⟩
      · rcases List.mem_cons.1 hline with rfl | hline
        · obtain ⟨piece', hpiece', rfl⟩ := hfront last (by rw [lines, hsource]; simp)
          have hfirst : first ∈ lines (assemble d pieces) := by
            rw [lines, hrest]
            exact List.mem_cons_self ..
          obtain ⟨pieces', hpieces', rfl⟩ := ih hpieces hfirst
          exact ⟨piece' :: pieces', List.forall_mem_cons.2 ⟨hpiece', hpieces'⟩, rfl⟩
        · exact ih hpieces (by rw [lines, hrest]; exact List.mem_cons_of_mem _ hline)

/-- Lines that are balanced one by one have no first imbalance. -/
theorem firstImbalance?_eq_none {texts : List Text} {number : Nat}
    (h : ∀ line ∈ texts, count d.opening line = count d.closing line) :
    firstImbalance? d number texts = none := by
  induction texts generalizing number with
  | nil => rfl
  | cons line texts ih =>
      obtain ⟨hline, htexts⟩ := List.forall_mem_cons.1 h
      rw [firstImbalance?, lineImbalance?, if_pos hline]
      exact ih htexts

/-- A legible text is balanced on every line. -/
theorem checkBalance_assemble (hd : d.Apart) (h : ∀ piece ∈ pieces, piece.Legible d)
    (identifier : Text) : checkBalance d identifier (assemble d pieces) = .ok () := by
  unfold checkBalance
  rw [firstImbalance?_eq_none]
  intro line hline
  obtain ⟨pieces', hpieces', rfl⟩ := exists_assemble_of_mem_lines hd h hline
  exact count_assemble hd hpieces'

/-! ## Scanning -/

/-- Text without delimiter characters is passed over. -/
theorem scanFrom_append_of_unmarked (hd : d.Apart) (ht : Unmarked d t) :
    scanFrom d pending (t ++ rest) = scanFrom d (pending ++ t) rest := by
  apply scanFrom_append_of_not_occursAt hd.toProper
  exact not_occursAt_of_disjoint hd.opening_ne_nil (fun c hc => (ht c hc).1) rest

/-- A marker without delimiter characters inside is found, whatever follows it. -/
theorem scanFrom_marker_append (hd : d.Apart) (hline : '\n' ∉ inner) (hinner : Unmarked d inner) :
    scanFrom d pending (d.opening ++ inner ++ d.closing ++ rest) =
      literalTokens pending ++ marker d inner :: scanFrom d [] rest := by
  have hopen : cut d.opening (d.opening ++ inner ++ d.closing ++ rest) =
      some ([], inner ++ (d.closing ++ rest)) := by
    rw [List.append_assoc, List.append_assoc]
    exact cut_self_append _ _
  have hclose : cut d.closing (inner ++ (d.closing ++ rest)) = some (inner, rest) := by
    rw [cut_append_of_disjoint hd.closing_ne_nil fun c hc => (hinner c hc).2, cut_self_append]
    simp
  rw [scanFrom_of_marker hd.toProper hopen hclose hline, List.append_nil]

/-! ## The program of a clean text -/

/-- Tokens that are a program, compiled to something that is rendered like the given
parts. -/
def Compiles (identifier : Text) (tokens : List Token) (parts : List Part) : Prop :=
  ∃ ss ps, segments identifier tokens = .ok ss ∧ compileSegments identifier ss = .ok ps ∧
    ∀ data, renderParts data ps = renderParts data parts

variable {identifier : Text} {tokens : List Token} {parts : List Part}

theorem renderParts_cons_text (data : Data) (t : Text) (parts : List Part) :
    renderParts data (.text t :: parts) = (t ++ ·) <$> renderParts data parts := by
  rw [renderParts, Part.render]
  cases renderParts data parts <;> rfl

/-- Parts are rendered one after the other, and the first that crashes ends it. -/
theorem renderParts_append (data : Data) (a b : List Part) :
    renderParts data (a ++ b) = (do
      let front ← renderParts data a
      let rest ← renderParts data b
      return front ++ rest) := by
  induction a with
  | nil =>
      rw [List.nil_append]
      cases renderParts data b <;> rfl
  | cons part a ih =>
      rw [List.cons_append, renderParts, renderParts, ih]
      simp only [bind_assoc, pure_bind, List.append_assoc]

/-- Literal text is rendered as itself, also when it is empty and has no token. -/
theorem Compiles.literalTokens (h : Compiles identifier tokens parts) (t : Text) :
    Compiles identifier (literalTokens t ++ tokens) (.text t :: parts) := by
  obtain ⟨ss, ps, hsegments, hcompile, hrender⟩ := h
  unfold Template.literalTokens
  split
  · rename_i hnil
    subst hnil
    refine ⟨ss, ps, hsegments, hcompile, fun data => ?_⟩
    rw [renderParts_cons_text, hrender]
    cases renderParts data parts <;> rfl
  · refine ⟨.text t :: ss, .text t :: ps, ?_, ?_, fun data => ?_⟩
    · exact bind_eq_ok_iff.2 ⟨_, rfl, bind_eq_ok_iff.2 ⟨ss, hsegments, rfl⟩⟩
    · exact bind_eq_ok_iff.2 ⟨_, rfl, bind_eq_ok_iff.2 ⟨ps, hcompile, rfl⟩⟩
    · rw [renderParts_cons_text, renderParts_cons_text, hrender]

/-- A marker with a path is compiled to a lookup of it. -/
theorem Compiles.marker (h : Compiles identifier tokens parts)
    (hpath : isPath (trim inner) = true) :
    Compiles identifier (marker d inner :: tokens) (.path (split '.' (trim inner)) :: parts) := by
  obtain ⟨ss, ps, hsegments, hcompile, hrender⟩ := h
  refine ⟨.lookup (trim inner) :: ss, .path (split '.' (trim inner)) :: ps, ?_, ?_, fun data => ?_⟩
  · have hsegment : segment identifier (Template.marker d inner) = .ok (.lookup (trim inner)) := by
      unfold Template.marker
      rw [componentName?_of_isPath hpath]
      exact if_neg (ne_nil_of_isPath hpath)
    exact bind_eq_ok_iff.2 ⟨_, hsegment, bind_eq_ok_iff.2 ⟨ss, hsegments, rfl⟩⟩
  · exact bind_eq_ok_iff.2 ⟨_, if_pos hpath, bind_eq_ok_iff.2 ⟨ps, hcompile, rfl⟩⟩
  · rw [renderParts, renderParts, hrender]

/-- Literal text runs together where pieces meet, and shows the same. -/
theorem compiles_scanFrom (hd : d.Apart) (h : ∀ piece ∈ pieces, piece.Clean d)
    (identifier pending : Text) :
    Compiles identifier (scanFrom d pending (assemble d pieces))
      (.text pending :: pieces.map Piece.part) := by
  induction pieces generalizing pending with
  | nil =>
      have hopen : cut d.opening [] = none := by simp [cut, hd.opening_ne_nil]
      rw [assemble_nil, scanFrom_of_no_opening hopen, List.append_nil,
        ← List.append_nil (Template.literalTokens pending)]
      exact Compiles.literalTokens ⟨[], [], rfl, rfl, fun _ => rfl⟩ pending
  | cons piece pieces ih =>
      obtain ⟨hpiece, hpieces⟩ := List.forall_mem_cons.1 h
      rw [assemble_cons]
      cases piece with
      | text t =>
          rw [Piece.source, scanFrom_append_of_unmarked hd hpiece]
          obtain ⟨ss, ps, hsegments, hcompile, hrender⟩ := ih hpieces (pending ++ t)
          refine ⟨ss, ps, hsegments, hcompile, fun data => ?_⟩
          rw [hrender, List.map_cons, Piece.part]
          simp only [renderParts_cons_text]
          cases renderParts data (pieces.map Piece.part) <;> simp
      | placeholder inner =>
          obtain ⟨hline, hinner, hpath⟩ := hpiece
          rw [Piece.source, scanFrom_marker_append hd hline hinner]
          refine Compiles.literalTokens (Compiles.marker ?_ hpath) pending
          obtain ⟨ss, ps, hsegments, hcompile, hrender⟩ := ih hpieces []
          refine ⟨ss, ps, hsegments, hcompile, fun data => ?_⟩
          rw [hrender, renderParts_cons_text]
          cases renderParts data (pieces.map Piece.part) <;> rfl

/-- A clean text is a program, and compiled it is rendered piece by piece. -/
theorem compile_assemble (hd : d.Apart) (h : ∀ piece ∈ pieces, piece.Clean d)
    (identifier : Text) :
    ∃ program compiled, interpolate d identifier (assemble d pieces) = .ok program ∧
      compile program identifier = .ok compiled ∧
      ∀ data, renderParts data compiled.parts = renderParts data (pieces.map Piece.part) := by
  obtain ⟨ss, ps, hsegments, hcompile, hrender⟩ := compiles_scanFrom hd h identifier []
  refine ⟨⟨ss⟩, ⟨ps⟩, ?_, map_eq_ok_iff.2 ⟨ps, hcompile, rfl⟩, fun data => ?_⟩
  · have hbalance := checkBalance_assemble hd (fun piece hp => (h piece hp).legible) identifier
    exact bind_eq_ok_iff.2 ⟨(), hbalance, bind_eq_ok_iff.2 ⟨ss, hsegments, rfl⟩⟩
  · rw [hrender, renderParts_cons_text]
    cases renderParts data (pieces.map Piece.part) <;> rfl

/-! ## Clean templates -/

/-- A token without delimiter characters in its literal text or the inside of its
placeholder, which holds a path.  A component marker may hold anything. -/
def Token.Clean (d : Delimiters) : Token → Prop
  | literal t => Unmarked d t
  | placeholder expression raw => isPath expression = true ∧
      ∃ inner, raw = d.opening ++ inner ++ d.closing ∧ Unmarked d inner
  | component _ _ => True

/-- A template in which delimiter characters only delimit. -/
def Clean (d : Delimiters) (text : Text) : Prop := ∀ token ∈ scan d text, token.Clean d

/-- A clean token is a clean piece, unless it is a component marker. -/
theorem exists_piece {text : Text} {token : Token} (hd : d.Apart) (htoken : token ∈ scan d text)
    (hclean : token.Clean d) (hcomponent : token.isComponent = false) :
    ∃ piece : Piece, piece.Clean d ∧ piece.token d = token := by
  cases token with
  | literal t => exact ⟨.text t, hclean, rfl⟩
  | component name raw => cases hcomponent
  | placeholder expression raw =>
      obtain ⟨hpath, inner, rfl, hinner⟩ := hclean
      obtain ⟨inner', hinterior, hmarker⟩ :=
        (tokenisation_scan hd.toProper hd.opening_line text).marker _ htoken rfl
      rw [markerToken_iff] at hmarker
      obtain rfl : inner = inner' := by
        have hsource := congrArg Token.source hmarker
        rw [source_marker] at hsource
        exact List.append_cancel_left (List.append_cancel_right hsource)
      obtain rfl : expression = trim inner := by
        unfold marker at hmarker
        split at hmarker
        · cases hmarker
        · exact (Token.placeholder.inj hmarker).1
      exact ⟨.placeholder inner, ⟨hinterior.line, hinner, hpath⟩, rfl⟩

end Template
end Stencil
