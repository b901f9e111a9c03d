import Stencil.Proofs.Yaml.Scanning

/-!
# Tokens of a document

The scanner stays in its document.  A tag token needs an exclamation mark in the document, and a
plain scalar never ends with a line feed.
-/

namespace Stencil
namespace Yaml

variable {document : Text} {c : Cursor}

/-! ## Plain scalars -/

/-- A part of a plain scalar stays on its line. -/
theorem ne_lineFeed_of_mem_take (inFlow : Bool) (t : Text) :
    ∀ d ∈ t.take (plainLength inFlow t), d ≠ '\n' := by
  induction t with
  | nil => simp
  | cons c rest ih =>
      rw [plainLength]
      split
      · simp
      · rename_i hends
        rw [List.take_succ_cons]
        refine List.forall_mem_cons.2 ⟨?_, ih⟩
        rintro rfl
        exact hends (by simp [endsPlain, isGap, isEndOrSpace, isEnd, isBreak])

theorem Cursor.In.plainBreaks (fuel : Nat) (hc : c.In document) :
    (scanPlainBreaks fuel c).2.In document := by
  induction fuel generalizing c with
  | zero => exact hc
  | succ fuel ih =>
      unfold scanPlainBreaks
      split
      · exact ih hc.next
      · split
        · dsimp only
          split
          · exact hc.takeBreak
          · exact ih hc.takeBreak
        · exact hc

theorem Cursor.In.plainBlanks (hc : c.In document) : (scanPlainBlanks c).2.2.In document := by
  unfold scanPlainBlanks
  dsimp only
  split
  · split
    · exact (hc.takeWhile _).takeBreak
    · exact (hc.takeWhile _).takeBreak.plainBreaks _
  · exact hc.takeWhile _

/-- Reading a plain scalar takes the cursor further in its document, as every scanner below does. -/
theorem Cursor.In.plain (inFlow : Bool) (indent : Int) (fuel : Nat) (blanks : Text) (broken : Bool)
    (hc : c.In document) : (scanPlain inFlow indent fuel blanks broken c).2.2.In document := by
  induction fuel generalizing blanks broken c with
  | zero => exact hc
  | succ fuel ih =>
      unfold scanPlain
      dsimp only
      split
      · exact hc
      · split
        · exact (hc.skip _).plainBlanks
        · exact ih _ _ (hc.skip _).plainBlanks

/-- A plain scalar never ends with a line feed. -/
theorem getLast?_scanPlain (inFlow : Bool) (indent : Int) (fuel : Nat) (blanks : Text)
    (broken : Bool) (c : Cursor) :
    (scanPlain inFlow indent fuel blanks broken c).1.getLast? ≠ some '\n' := by
  induction fuel generalizing blanks broken c with
  | zero => simp [scanPlain]
  | succ fuel ih =>
      unfold scanPlain
      dsimp only
      split
      · simp
      · rename_i hlength
        have hpart : (blanks ++ c.rest.take (plainLength inFlow c.rest)).getLast? ≠ some '\n' := by
          have hne : c.rest.take (plainLength inFlow c.rest) ≠ [] := by
            intro hnil
            simp only [List.take_eq_nil_iff] at hnil
            rcases hnil with hzero | hnil
            · exact hlength (by simp [hzero])
            · exact hlength (by simp [hnil, plainLength])
          rw [List.getLast?_append_of_ne_nil _ hne]
          intro hlast
          exact ne_lineFeed_of_mem_take inFlow c.rest _ (List.mem_of_getLast? hlast) rfl
        split
        · exact hpart
        · dsimp only
          rw [List.getLast?_append]
          intro hlast
          rcases Option.or_eq_some_iff.1 hlast with hrest | ⟨-, hfirst⟩
          · exact ih _ _ _ hrest
          · exact hpart hfirst

/-! ## Block scalars -/

theorem Cursor.In.chomping (hc : c.In document) : (scanChomping c).2.In document := by
  unfold scanChomping
  split
  · exact hc.next
  · split
    · exact hc.next
    · exact hc

theorem scans_increment (hc : c.In document) : Scans document (scanIncrement c) := by
  unfold scanIncrement
  split
  · exact confined_malformed
  · split
    · exact hc.next
    · exact hc

theorem scans_blockMarks (hc : c.In document) : Scans document (scanBlockMarks c) := by
  unfold scanBlockMarks
  have hmark := hc.chomping
  generalize scanChomping c = mark at hmark ⊢
  obtain ⟨before, c⟩ := mark
  refine (scans_increment hmark).bind fun ⟨increment, c⟩ hc => ?_
  dsimp only
  split
  · split
    · exact hc.chomping
    · exact confined_malformed
  · split
    · exact hc
    · exact confined_malformed

theorem Cursor.In.blockIndent (fuel greatest : Nat) (hc : c.In document) :
    (scanBlockIndent fuel greatest c).2.2.In document := by
  induction fuel generalizing greatest c with
  | zero => exact hc
  | succ fuel ih =>
      unfold scanBlockIndent
      split
      · exact ih _ hc.next
      · split
        · exact ih _ hc.takeBreak
        · exact hc

theorem Cursor.In.blockBreaks (indent fuel : Nat) (hc : c.In document) :
    (scanBlockBreaks indent fuel c).2.In document := by
  induction fuel generalizing c with
  | zero => exact hc
  | succ fuel ih =>
      unfold scanBlockBreaks
      dsimp only
      split
      · exact ih (hc.skip _).takeBreak
      · exact hc.skip _

/-- The lines of a block scalar are read within the document. -/
theorem Cursor.In.blockLines (folded : Bool) (indent fuel : Nat) (hc : c.In document) :
    (scanBlockLines folded indent fuel c).2.2.2.In document := by
  induction fuel generalizing c with
  | zero => exact hc
  | succ fuel ih =>
      unfold scanBlockLines
      dsimp only
      split
      · exact ih ((hc.takeWhile _).takeBreak.blockBreaks _ _)
      · exact (hc.takeWhile _).takeBreak.blockBreaks _ _

/-- A block scalar is no plain one, so its text may end with a line feed. -/
theorem scans_blockScalar (outer : Int) (hc : c.In document) :
    ScansToken document (scanBlockScalar outer c) := by
  refine (scans_blockMarks hc.next).bind fun ⟨⟨chomping, increment⟩, c⟩ hmarks => ?_
  refine (confined_leaveLine hmarks).bind fun c hc => ?_
  -- With a number for its fuel no scan is unfolded when its cursor is looked for.
  generalize c.rest.length + 1 = fuel
  cases increment with
  | none =>
      have hleading := hc.blockIndent fuel 0
      generalize scanBlockIndent fuel 0 c = leading at hleading ⊢
      obtain ⟨breaks, greatest, after⟩ := leading
      dsimp only at hleading ⊢
      generalize after.rest.length + 1 = fuel
      refine confined_pure.2 ⟨trivial, ?_⟩
      dsimp only
      split
      · exact hleading.blockLines _ _ _
      · exact hleading
  | some n =>
      dsimp only
      generalize max 1 (outer + 1).toNat + n - 1 = indent
      have hleading := hc.blockBreaks indent fuel
      generalize scanBlockBreaks indent fuel c = leading at hleading ⊢
      obtain ⟨breaks, after⟩ := leading
      dsimp only at hleading ⊢
      generalize after.rest.length + 1 = fuel
      refine confined_pure.2 ⟨trivial, ?_⟩
      dsimp only
      split
      · exact hleading.blockLines _ _ _
      · exact hleading

/-! ## The scanner -/

namespace Scanner

variable {s : Scanner} {token : Token}

/-- The scanner is in the document, and so are the tokens that wait. -/
structure Sound (document : Text) (s : Scanner) : Prop where
  cursor : s.cursor.In document
  queue : ∀ token ∈ s.queue, token.StandsIn document

/-- A step of the scanner leaves it in the document. -/
abbrev Steps (document : Text) (x : Except Fault Scanner) : Prop :=
  Confined (Unscannable document) (Sound document) x

/-- A token that may stand in the document is added to the queue. -/
theorem Sound.push (hs : s.Sound document) (token : Token) (htoken : token.StandsIn document) :
    (s.push token).Sound document := by
  refine ⟨hs.cursor, fun other hmem => ?_⟩
  rcases List.mem_append.1 hmem with hmem | hmem
  · exact hs.queue other hmem
  · rw [List.mem_singleton.1 hmem]
    exact htoken

/-- So is one that goes before others. -/
theorem Sound.insert (hs : s.Sound document) (position : Nat) (token : Token)
    (htoken : token.StandsIn document) : (s.insert position token).Sound document := by
  refine ⟨hs.cursor, fun other hmem => ?_⟩
  rcases List.mem_append.1 hmem with hmem | hmem
  · exact hs.queue other (List.mem_of_mem_take hmem)
  · rcases List.mem_cons.1 hmem with rfl | hmem
    · exact htoken
    · exact hs.queue other (List.mem_of_mem_drop hmem)

/-- The cursor may move about the document. -/
theorem Sound.moveTo (hs : s.Sound document) (hc : c.In document) :
    (s.moveTo c).Sound document :=
  ⟨hc, hs.queue⟩

theorem Sound.single (hs : s.Sound document) (htoken : token.StandsIn document) :
    (s.single token).Sound document :=
  (hs.moveTo hs.cursor.next).push _ htoken

/-- The scanner is in the document, whatever it keeps track of besides. -/
theorem Sound.of_eq {s' : Scanner} (hs : s.Sound document) (hcursor : s'.cursor = s.cursor)
    (hqueue : s'.queue = s.queue) : s'.Sound document :=
  ⟨hcursor ▸ hs.cursor, hqueue ▸ hs.queue⟩

theorem Sound.allow (hs : s.Sound document) (allowKey : Bool) :
    (s.allow allowKey).Sound document :=
  hs.of_eq rfl rfl

theorem sound_start (document : Text) : (start document).Sound document := by
  refine ⟨?_, by simp [start]⟩
  unfold start
  dsimp only
  have hstart : (Cursor.start document).In document := List.suffix_refl _
  split
  · exact hstart.next
  · exact hstart

/-! ### Possible keys and indentation -/

/-- To give up a possible key fails only where a key is required. -/
theorem steps_dismiss (hs : s.Sound document) : Steps document s.dismiss := by
  unfold dismiss
  split
  · split
    · exact confined_malformed
    · exact hs.of_eq rfl rfl
  · exact hs

theorem steps_dismissStale (hs : s.Sound document) : Steps document s.dismissStale := by
  unfold dismissStale
  dsimp only
  split
  · exact confined_malformed
  · exact hs.of_eq rfl rfl

theorem steps_consider (hs : s.Sound document) : Steps document s.consider := by
  unfold consider
  split
  · exact (steps_dismiss hs).bind fun s hs => hs.of_eq rfl rfl
  · exact hs

/-- Leaving blocks adds only tokens for their ends. -/
theorem Sound.unwindFrom (column : Int) (outer : List Int) (hs : s.Sound document) :
    (unwindFrom column s outer).Sound document := by
  induction outer generalizing s with
  | nil => exact hs
  | cons column' rest ih =>
      unfold Scanner.unwindFrom
      split
      · exact ih ((hs.push .blockEnd trivial).of_eq rfl rfl)
      · exact hs

theorem Sound.unwind (column : Int) (hs : s.Sound document) : (s.unwind column).Sound document := by
  unfold Scanner.unwind
  split
  · exact hs
  · exact hs.unwindFrom _ _

theorem Sound.beginBlock (column : Nat) (hs : s.Sound document) :
    (s.beginBlock column).2.Sound document := by
  unfold Scanner.beginBlock
  split
  · exact hs.of_eq rfl rfl
  · exact hs

/-- A block begins with a token that the caller vouches for. -/
theorem steps_openBlock (token : Token) (htoken : token.StandsIn document)
    (hs : s.Sound document) :
    Steps document (s.openBlock token) := by
  have hblock := hs.beginBlock s.cursor.column
  unfold openBlock
  split
  · exact hs
  · split
    · exact confined_malformed
    · split
      · rename_i heq
        rw [heq] at hblock
        exact hblock.push _ htoken
      · rename_i heq
        rw [heq] at hblock
        exact hblock

/-! ### Taking tokens -/

/-- Between tokens the cursor goes over blanks, comments and line breaks. -/
theorem Sound.skipGaps (fuel : Nat) (hs : s.Sound document) : (s.skipGaps fuel).Sound document := by
  induction fuel generalizing s with
  | zero => exact hs
  | succ fuel ih =>
      have hstep : ∀ {c : Cursor}, c.In document →
          (if isBreak c.head then
            Scanner.skipGaps fuel
              { s with cursor := c.takeBreak.2, allowKey := s.allowKey || !s.inFlow }
          else s.moveTo c).Sound document := by
        intro c hc
        split
        · exact ih ⟨hc.takeBreak, hs.queue⟩
        · exact hs.moveTo hc
      unfold Scanner.skipGaps
      dsimp only
      split
      · exact hstep hs.cursor.skipSpaces.skipLine
      · exact hstep hs.cursor.skipSpaces

theorem steps_leaveBlocks (hs : s.Sound document) : Steps document s.leaveBlocks :=
  (steps_dismiss (hs.unwind _)).bind fun _ hs => hs.allow false

theorem steps_separator (htoken : token.StandsIn document) (hs : s.Sound document) :
    Steps document (s.separator token) :=
  (steps_leaveBlocks hs).bind fun _ hs => (hs.moveTo (hs.cursor.skip 3)).push _ htoken

theorem steps_openFlow (htoken : token.StandsIn document) (hs : s.Sound document) :
    Steps document (s.openFlow token) :=
  (steps_consider hs).bind fun _ hs => (hs.single htoken).of_eq rfl rfl

theorem steps_closeFlow (htoken : token.StandsIn document) (hs : s.Sound document) :
    Steps document (s.closeFlow token) := by
  unfold closeFlow
  split
  · exact (steps_dismiss hs).bind fun _ hs => (hs.single htoken).of_eq rfl rfl
  · exact confined_malformed

theorem steps_comma (hs : s.Sound document) : Steps document s.comma :=
  (steps_dismiss hs).bind fun _ hs => (hs.allow true).single trivial

theorem steps_entry (hs : s.Sound document) : Steps document s.entry :=
  (steps_openBlock .blockSequenceStart trivial hs).bind fun _ hs =>
    (steps_dismiss hs).bind fun _ hs => (hs.allow true).single trivial

theorem steps_explicitKey (hs : s.Sound document) : Steps document s.explicitKey :=
  (steps_openBlock .blockMappingStart trivial hs).bind fun _ hs =>
    (steps_dismiss hs).bind fun _ hs => (hs.allow _).single trivial

/-- A value may turn what stands before it into a key, and add a mapping around it. -/
theorem steps_colon (hs : s.Sound document) : Steps document s.colon := by
  unfold colon
  split
  · rename_i candidate hcandidate
    have hforget : s.forget.Sound document := hs.of_eq rfl rfl
    have hkey := (hforget.insert candidate.position .key trivial).allow false
    dsimp only
    refine confined_pure.2 (Sound.single ?_ trivial)
    generalize (s.forget.insert candidate.position .key).allow false = s at hkey ⊢
    have hbegin : (if s.inFlow = true then (false, s) else s.beginBlock candidate.column).2.Sound
        document := by
      split
      · exact hkey
      · exact hkey.beginBlock _
    generalize (if s.inFlow = true then (false, s) else s.beginBlock candidate.column) = begun
      at hbegin ⊢
    split
    · exact hbegin.insert _ .blockMappingStart trivial
    · exact hbegin
  · exact (steps_openBlock .blockMappingStart trivial hs).bind fun _ hs =>
      (steps_dismiss hs).bind fun _ hs => (hs.allow _).single trivial

/-- A token that is scanned in one piece is added as it is. -/
theorem steps_part {scan : Cursor → Except Fault (Token × Cursor)}
    (hscan : ∀ {c : Cursor}, c.In document → ScansToken document (scan c))
    (hs : s.Sound document) : Steps document (s.part scan) := by
  refine (steps_consider hs).bind fun s hs => ?_
  exact (hscan hs.cursor).bind fun ⟨_, _⟩ ⟨htoken, hc⟩ => ((hs.moveTo hc).push _ htoken).allow false

theorem steps_block (hs : s.Sound document) : Steps document s.block := by
  refine (steps_dismiss (hs.allow true)).bind fun s hs => ?_
  exact (scans_blockScalar _ hs.cursor).bind fun ⟨_, _⟩ ⟨htoken, hc⟩ =>
    (hs.moveTo hc).push _ htoken

theorem steps_plain (hs : s.Sound document) : Steps document s.plain := by
  refine (steps_consider hs).bind fun s hs => ?_
  have htext := getLast?_scanPlain s.inFlow (s.indent + 1) (s.cursor.rest.length + 1) [] false
    s.cursor
  have hc := hs.cursor.plain s.inFlow (s.indent + 1) (s.cursor.rest.length + 1) [] false
  generalize scanPlain s.inFlow (s.indent + 1) (s.cursor.rest.length + 1) [] false s.cursor =
    scanned at htext hc ⊢
  obtain ⟨text, broken, c⟩ := scanned
  exact ((hs.moveTo hc).push (.scalar text true) htext).allow broken

/-- An anchor or alias may stand in every document. -/
theorem scans_named {token : Text → Token} (htoken : ∀ name, (token name).StandsIn document)
    (hc : c.In document) : ScansToken document (named token c) :=
  (scans_anchorName hc).bind fun ⟨name, _⟩ hc => ⟨htoken name, hc⟩

/-- Whatever character comes next, the token that it begins may stand in the document. -/
theorem steps_take (hs : s.Sound document) : Steps document s.take := by
  have htag : s.cursor.head = '!' → '!' ∈ document := by
    intro hhead
    refine hs.cursor.subset ?_
    rw [Cursor.rest_eq_cons (by rw [hhead]; decide), hhead]
    exact List.mem_cons_self
  unfold take
  dsimp only
  refine .ite (fun _ => ?_) fun _ => ?_
  · refine (steps_leaveBlocks hs).bind fun s hs => ?_
    exact (scans_directive hs.cursor).bind fun ⟨_, _⟩ ⟨htoken, hc⟩ => (hs.moveTo hc).push _ htoken
  refine .ite (fun _ => steps_separator trivial hs) fun _ => ?_
  refine .ite (fun _ => steps_separator trivial hs) fun _ => ?_
  refine .ite (fun _ => steps_openFlow trivial hs) fun _ => ?_
  refine .ite (fun _ => steps_openFlow trivial hs) fun _ => ?_
  refine .ite (fun _ => steps_closeFlow trivial hs) fun _ => ?_
  refine .ite (fun _ => steps_closeFlow trivial hs) fun _ => ?_
  refine .ite (fun _ => steps_comma hs) fun _ => ?_
  refine .ite (fun _ => steps_entry hs) fun _ => ?_
  refine .ite (fun _ => steps_explicitKey hs) fun _ => ?_
  refine .ite (fun _ => steps_colon hs) fun _ => ?_
  refine .ite (fun _ => steps_part (scans_named fun _ => trivial) hs) fun _ => ?_
  refine .ite (fun _ => steps_part (scans_named fun _ => trivial) hs) fun _ => ?_
  refine .ite (fun h => steps_part (scans_tag (htag h)) hs) fun _ => ?_
  refine .ite (fun _ => steps_block hs) fun _ => ?_
  refine .ite (fun _ => steps_part scans_quotedScalar hs) fun _ => ?_
  exact .ite (fun _ => steps_plain hs) fun _ => confined_malformed

theorem steps_finish (hs : s.Sound document) : Steps document s.finish :=
  (steps_dismiss (hs.unwind _)).bind fun _ hs => (hs.push .documentsEnd trivial).of_eq rfl rfl

theorem steps_takeNext (hs : s.Sound document) : Steps document s.takeNext := by
  refine (steps_dismissStale (hs.skipGaps _)).bind fun s hs => ?_
  have hs := hs.unwind s.cursor.column
  exact .ite (fun _ => steps_finish hs) fun _ => steps_take hs

theorem steps_isWanting (hs : s.Sound document) :
    Confined (Unscannable document) (fun r => r.2.Sound document) s.isWanting := by
  unfold isWanting
  refine .ite (fun _ => hs) fun _ => .ite (fun _ => hs) fun _ => ?_
  exact (steps_dismissStale hs).bind fun _ hs => hs

/-- The queue is filled as far as the parser needs it. -/
theorem steps_fill (fuel : Nat) (hs : s.Sound document) : Steps document (s.fill fuel) := by
  induction fuel generalizing s with
  | zero => exact confined_malformed
  | succ fuel ih =>
      refine (steps_isWanting hs).bind fun ⟨wanting, s⟩ hs => ?_
      cases wanting with
      | true => exact (steps_takeNext hs).bind fun _ hs => ih hs
      | false => exact hs

/-- The next token stands in the document. -/
theorem confined_peek (hs : s.Sound document) :
    Confined (Unscannable document) (fun r => r.1.StandsIn document ∧ r.2.Sound document)
      s.peek := by
  refine (steps_fill _ hs).bind fun s hs => ?_
  split
  · rename_i token rest hqueue
    exact ⟨hs.queue token (by rw [hqueue]; exact List.mem_cons_self), hs⟩
  · exact confined_malformed

/-- A token that has been used up leaves the rest of the queue as it is. -/
theorem Sound.advance (hs : s.Sound document) : s.advance.Sound document :=
  ⟨hs.cursor, fun token hmem => hs.queue token (List.mem_of_mem_tail hmem)⟩

end Scanner
end Yaml
end Stencil
