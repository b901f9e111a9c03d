import Stencil.Proofs.Render.Chronicle
import Stencil.Proofs.Text.Bytes

/-!
# The lines of the error log

Every error is written to the error log with its time, and one line feed ends it.  The log can be
read back line by line exactly when no error holds a line feed of its own; of such an error only the
line feeds at the end are dropped.

Main results:

- Definition `errorsOf`: the errors of a chronicle.
- Theorem `lines_errorLog_iff`: when lines can be read back.
- Theorem `broken_iff`: which renderings have an error that holds a line feed.
- Theorem `error_log_reads_back`: the error log of a run.
- Theorem `exception_forges_line`: an exception that writes an error of its own.
-/

namespace Stencil
namespace Render

open Text (lines split)

/-! ## Errors -/

/-- The error that an entry is, if it is one. -/
def Dated.error? : Dated Entry → Option (Dated Text)
  | ⟨now, .error message⟩ => some ⟨now, message⟩
  | _ => none

/-- The errors among entries, with their times. -/
def errorsOf (entries : List (Dated Entry)) : List (Dated Text) := entries.filterMap Dated.error?

/-- The line of an error, without its end. -/
def Dated.errorText (e : Dated Text) : Text := "[" ++ e.now ++ "] ERROR: " ++ e.what

variable {c : Config} {tree : File.Tree} {l : File.Location} {entries : List (Dated Entry)}
  {errors : List (Dated Text)} {s : Session} {errands : List (Dated Errand)}

/-- The error log holds the errors, when it is a file of its own. -/
theorem chronicled_errorLog (hl : tree.locate c.errorLog = .ok l)
    (hother : tree.locate c.crashLog ≠ .ok l) :
    chronicled c tree entries l = Text.Utf8.encode
      ((errorsOf entries).flatMap fun e => errorLine e.now e.what) := by
  rw [Text.Utf8.encode, List.flatMap_assoc]
  refine chronicled_eq entries fun e => ?_
  obtain ⟨now, message | ⟨identifier, data, report⟩⟩ := e
  · exact if_pos hl
  · exact if_neg hother

/-! ## Lines -/

theorem lines_line_append {t : Text} (ht : '\n' ∉ t) (rest : Text) :
    lines ((t ++ ['\n']) ++ rest) = t :: lines rest := by
  rw [List.append_assoc]
  exact Text.split_append_sep ht rest

/-- A text without line feeds is a line as it is. -/
theorem logLine_of_not_mem {t : Text} (ht : '\n' ∉ t) : logLine t = t ++ ['\n'] := by
  have hkept : Text.trimEnd (· = '\n') t = t := by
    rw [Text.trimEnd]
    cases hreverse : t.reverse with
    | nil => rw [List.reverse_eq_nil_iff.1 hreverse]; rfl
    | cons last before =>
        have hlast : last ≠ '\n' := by
          rintro rfl
          exact ht (List.mem_reverse.1 (hreverse ▸ List.mem_cons_self))
        rw [List.dropWhile_cons, if_neg (by simpa using hlast), ← hreverse, List.reverse_reverse]
  rw [logLine, hkept]

/-- Errors can be read back line by line exactly when none of them holds a line feed. -/
theorem lines_errorLog_iff :
    lines (errors.flatMap fun e => errorLine e.now e.what) = errors.map Dated.errorText ++ [[]] ↔
      ∀ e ∈ errors, '\n' ∉ e.now ∧ '\n' ∉ e.what := by
  have hclean : ∀ e : Dated Text, '\n' ∉ e.errorText ↔ '\n' ∉ e.now ∧ '\n' ∉ e.what := by
    intro e
    simp [Dated.errorText]
  constructor
  · intro h e he
    have hmem : e.errorText ∈ lines (errors.flatMap fun e => errorLine e.now e.what) :=
      h ▸ List.mem_append_left _ (List.mem_map_of_mem he)
    exact (hclean e).1 (Text.not_mem_of_mem_split hmem)
  · intro h
    induction errors with
    | nil => rfl
    | cons e errors ih =>
        obtain ⟨he, hrest⟩ := List.forall_mem_cons.1 h
        have hline : errorLine e.now e.what = e.errorText ++ ['\n'] :=
          logLine_of_not_mem ((hclean e).2 he)
        rw [List.flatMap_cons, hline, lines_line_append ((hclean e).2 he), ih hrest]
        rfl

/-! ## Errors of renderings -/

/-- The failure that a rendering reports, by what comes of the stages before the data come in. -/
def renderFailure? (identifier : Text) (data : Data) :
    Except Failure (Template.Program × Template.Compiled) → Option Failure
  | .error f => some f
  | .ok (_, template) => match template.apply data with
    | .ok _ => none
    | .error raised =>
      if raised.inner?.isSome then none
      else some (.template (.invocation raised.report identifier))

/-- The line feeds of a message under a heading come from the identifier and the message. -/
theorem mem_headed_iff {heading identifier message : Text} (h : '\n' ∉ heading) :
    '\n' ∈ heading ++ identifier ++ ": " ++ message ↔ '\n' ∈ identifier ∨ '\n' ∈ message := by
  simp [h]

theorem mem_finalMessage_iff {identifier : Text} {f : Failure} :
    '\n' ∈ finalMessage identifier f ↔ '\n' ∈ identifier ∨ '\n' ∈ f.message :=
  mem_headed_iff (by decide)

/-- An announcement holds no line feed that the identifier and the message do not hold. -/
theorem mem_announcement {page message : Text} {f : Failure} (hf : f.Staged page)
    (hmessage : f.announcement? = some message) (h : '\n' ∈ message) :
    '\n' ∈ page ∨ '\n' ∈ f.message := by
  cases f with
  | file fault => cases hmessage
  | decoding fault => cases hmessage
  | template error =>
      cases error with
      | unbalanced identifier line imbalance =>
          obtain rfl : identifier = page := hf
          exact (mem_headed_iff (by decide)).1 (Option.some.inj hmessage ▸ h)
      | emptyPlaceholder raw identifier =>
          obtain rfl : identifier = page := hf
          exact (mem_headed_iff (by decide)).1 (Option.some.inj hmessage ▸ h)
      | _ =>
          obtain rfl := Option.some.inj hmessage
          exact .inr h

/-- The failures before the data come in are those of the stages. -/
theorem staged_of_prepare (hc : s.config.Valid) {identifier : Text} {f : Failure}
    (h : (prepare identifier s).1 = .error f) : f.Staged identifier := by
  obtain ⟨s', -, ⟨v, hprepare⟩ | ⟨f', hstaged, hprepare⟩⟩ := prepare_cases hc identifier
  · rw [hprepare] at h
    cases h
  · rw [hprepare, announce_run_fst] at h
    obtain rfl := Except.error.inj h
    cases f' with
    | file fault => exact hstaged
    | decoding fault => exact hstaged
    | template error =>
        unfold Session.escaping
        cases s'.logFault? with
        | some fault => exact trivial
        | none => exact hstaged

/-- A rendering has an error that holds a line feed exactly when it reports a failure, and its
identifier or the message of the failure holds one. -/
theorem broken_iff (hc : s.config.Valid) (identifier : Text) (data : Data) :
    (∃ message, .error message ∈ Errand.entries s (.render identifier data) ∧ '\n' ∈ message) ↔
      ∃ f, renderFailure? identifier data (prepare identifier s).1 = some f ∧
        ('\n' ∈ identifier ∨ '\n' ∈ f.message) := by
  change (∃ message, .error message ∈ renderEntries identifier data _ ∧ _) ↔ _
  cases hprepared : (prepare identifier s).1 with
  | error f =>
      have hstaged := staged_of_prepare hc hprepared
      constructor
      · rintro ⟨message, hmem, hbreak⟩
        refine ⟨f, rfl, ?_⟩
        obtain hmem | hmem := List.mem_append.1 hmem
        · obtain ⟨announced, hannounced, heq⟩ := List.mem_map.1 hmem
          cases heq
          exact mem_announcement hstaged (Option.mem_toList.1 hannounced) hbreak
        · cases List.mem_singleton.1 hmem
          exact mem_finalMessage_iff.1 hbreak
      · rintro ⟨f', hf', hbreak⟩
        cases hf'
        exact ⟨_, List.mem_append_right _ (.head _), mem_finalMessage_iff.2 hbreak⟩
  | ok v =>
      obtain ⟨program, template⟩ := v
      cases happly : template.apply data with
      | ok text => simp [renderEntries, renderFailure?, happly]
      | error raised =>
          simp only [renderEntries, renderFailure?, crashEntries, happly]
          split
          · simp
          · constructor
            · rintro ⟨message, hmem, hbreak⟩
              obtain hmem | hmem := List.mem_cons.1 hmem
              · cases hmem
              · cases List.mem_singleton.1 hmem
                exact ⟨_, rfl, mem_finalMessage_iff.1 hbreak⟩
            · rintro ⟨f', hf', hbreak⟩
              cases hf'
              exact ⟨_, .tail _ (.head _), mem_finalMessage_iff.2 hbreak⟩

/-! ## The error log of a run -/

/-- The error log of a run, which is a file of its own and is not there before, holds the errors of
the run in their order, each with its time.  It reads back line by line exactly when no error holds
a line feed. -/
theorem error_log_reads_back (hc : s.config.Valid) (hlogged : AllLogged errands s) :
    let after := (performAll errands s).tree
    let errors := errorsOf (chronicle errands s)
    let text := errors.flatMap fun e => errorLine e.now e.what
    (errors ≠ [] → ∃ l, after.locate s.config.errorLog = .ok l) ∧
    ∀ l, after.locate s.config.errorLog = .ok l → after.locate s.config.crashLog ≠ .ok l →
      s.tree.contents l = [] →
      after.contents l = Text.Utf8.encode text ∧ Text.Utf8.decode (after.contents l) = .ok text ∧
        (lines text = errors.map Dated.errorText ++ [[]] ↔
          ∀ e ∈ errors, '\n' ∉ e.now ∧ '\n' ∉ e.what) := by
  intro after errors text
  refine ⟨fun hne => ?_, fun l hl hother habsent => ?_⟩
  · obtain ⟨e, he⟩ := List.exists_mem_of_ne_nil errors hne
    obtain ⟨⟨now, entry⟩, hmem, herror⟩ := List.mem_filterMap.1 he
    cases entry with
    | crash identifier data report => cases herror
    | error message => exact exists_locate_of_mem_chronicle hc hlogged hmem
  · have hcontents : after.contents l = Text.Utf8.encode text := by
      rw [contents_performAll hc hlogged l, habsent, List.nil_append]
      exact chronicled_errorLog hl hother
    refine ⟨hcontents, ?_, lines_errorLog_iff⟩
    rw [hcontents, Text.Utf8.decode_encode]

/-- A rendering that crashes, and an error of its own later. -/
def crashingErrands : List (Dated Errand) :=
  [⟨"one", .render "page" fragileData⟩, ⟨"two", .logError "done"⟩]

/-- The error log of a rendering that crashes and of one more error. -/
theorem error_log_reads_back_twice :
    let s := Session.start .standard fragileTree ""
    let after := (performAll crashingErrands s).tree
    let errors : List (Dated Text) :=
      [⟨"one", "Rendering error in page: RuntimeError: boom"⟩, ⟨"two", "done"⟩]
    s.config.Valid ∧ AllLogged crashingErrands s ∧ errorsOf (chronicle crashingErrands s) = errors ∧
      ∃ text, Text.Utf8.decode (after.contents ["error.log"]) = .ok text ∧
        lines text = errors.map Dated.errorText ++ [[]] := by
  intro s after errors
  have hc : s.config.Valid := Config.valid_standard
  have hrun : AllLogged crashingErrands s ∧ errorsOf (chronicle crashingErrands s) = errors ∧
      after.locate s.config.errorLog = .ok ["error.log"] ∧
      after.locate s.config.crashLog ≠ .ok ["error.log"] ∧
      s.tree.contents ["error.log"] = [] := by
    decide +kernel
  obtain ⟨hlogged, herrors, hl, hother, habsent⟩ := hrun
  obtain ⟨-, hlog⟩ := error_log_reads_back hc hlogged
  obtain ⟨-, hdecode, hlines⟩ := hlog _ hl hother habsent
  rw [herrors] at hdecode hlines
  exact ⟨hc, hlogged, herrors, _, hdecode, hlines.2 (by decide)⟩

/-- An exception whose message goes on with a line of its own. -/
def forgingData : Data :=
  .ofTree (.mapping [(.text "x", .object [] (.error ⟨"ValueError", "a\n[T] ERROR: b"⟩) "thing")])

/-- One rendering writes one error, and there are two lines in the log. -/
theorem exception_forges_line :
    let s := Session.start .standard fragileTree ""
    let errands : List (Dated Errand) := [⟨"T", .render "page" forgingData⟩]
    let text : Text := "[T] ERROR: Rendering error in page: ValueError: a\n[T] ERROR: b\n"
    AllLogged errands s ∧
      errorsOf (chronicle errands s) =
        [⟨"T", "Rendering error in page: ValueError: a\n[T] ERROR: b"⟩] ∧
      (performAll errands s).tree.contents ["error.log"] = Text.Utf8.encode text ∧
      lines text =
        [("[T] ERROR: Rendering error in page: ValueError: a" : Text), "[T] ERROR: b", ""] := by
  decide +kernel

end Render
end Stencil
