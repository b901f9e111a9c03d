import Stencil.Proofs.Render.Upkeep
import Stencil.Proofs.Render.Writing

/-!
# The logs of a rendering

Every rendering has a result, whatever the cache holds and the files are like, as long as the
exceptions of the data have texts, and leaves a definite trace in the logs.  A rendering that
succeeds logs nothing.  One that fails ends the error log with a line of its own; before
that line there is the one of the stage that failed, if it failed with an error of a
template, or a record in the crash log, if the data made the compiled template fail.  Where
both logs are one file, it holds both.

Main results:

- Definitions `Entry` and `journal`: what is written to the logs, and the file tree after
  it is written.
- Theorem `gains_journal`: what the files gain when everything could be written.
- Definition `Logs` and theorem `Logs.bind`: actions that log entries, and such actions in
  sequence.
- Inductive `Course`: how a rendering can go, with its result and its entries.
- Theorem `exists_course`: every rendering takes such a course.
- Theorem `render_course`: what this leaves in two logs.
- Theorem `crash_in_error_log`: what a crash leaves in a single one.
-/

namespace Stencil
namespace Render

open Stencil.Render.Action

variable {α β : Type}

/-! ## Entries -/

/-- What is written to the logs at once. -/
inductive Entry where
  /-- A line in the error log. -/
  | error (message : Text)
  /-- A record in the crash log. -/
  | crash (identifier : Text) (data : Data) (report : Text)

namespace Entry

/-- Whether an entry is a line in the error log. -/
def isError : Entry → Bool
  | .error _ => true
  | .crash .. => false

/-- The log that an entry belongs to. -/
def path (c : Config) : Entry → File.Path
  | .error _ => c.errorLog
  | .crash .. => c.crashLog

/-- The bytes of an entry.  A record of data that JSON has no form for has none. -/
def bytes (now : Text) : Entry → List UInt8
  | .error message => Text.Utf8.encode (errorLine now message)
  | .crash identifier data report => match crashLine now identifier report data with
    | .ok line => Text.Utf8.encode line
    | .error _ => []

end Entry

/-- The file tree after entries were written, or could not be. -/
def journal (c : Config) (now : Text) (entries : List Entry) (tree : File.Tree) : File.Tree :=
  entries.foldl (fun tree e => (writeLog (e.path c) (e.bytes now) tree).2) tree

/-- All of the entries can be written. -/
def Written (c : Config) (now : Text) : List Entry → File.Tree → Prop
  | [], _ => True
  | e :: entries, tree => (writeLog (e.path c) (e.bytes now) tree).1 = .ok () ∧
      Written c now entries (writeLog (e.path c) (e.bytes now) tree).2

/-- The bytes of the entries whose log is the file at a location. -/
def gained (c : Config) (now : Text) (tree : File.Tree) (entries : List Entry)
    (l : File.Location) : List UInt8 :=
  entries.flatMap fun e => if tree.locate (e.path c) = .ok l then e.bytes now else []

/-- The bytes of entries, one after the other. -/
def bytesOf (now : Text) (entries : List Entry) : List UInt8 := entries.flatMap (Entry.bytes now)

/-- The write of an entry. -/
def Entry.write (c : Config) (now : Text) (e : Entry) : Write := ⟨e.path c, e.bytes now⟩

theorem journal_eq_writeAll (c : Config) (now : Text) (entries : List Entry) (tree : File.Tree) :
    journal c now entries tree = writeAll (entries.map (Entry.write c now)) tree := by
  rw [writeAll, List.foldl_map]
  rfl

theorem written_iff_allWritten {c : Config} {now : Text} {entries : List Entry}
    {tree : File.Tree} :
    Written c now entries tree ↔ AllWritten (entries.map (Entry.write c now)) tree := by
  induction entries generalizing tree with
  | nil => exact Iff.rfl
  | cons e entries ih => exact and_congr_right fun _ => ih

theorem gained_eq_added (c : Config) (now : Text) (tree : File.Tree) (entries : List Entry) :
    gained c now tree entries = added tree (entries.map (Entry.write c now)) := by
  funext l
  rw [gained, added, List.flatMap_map]
  rfl

/-- When all entries can be written, every log gains the bytes of its entries in their
order, and no other file gains anything. -/
theorem gains_journal {c : Config} {now : Text} {entries : List Entry} {tree : File.Tree}
    (h : Written c now entries tree) :
    tree.Gains (journal c now entries tree)
      (gained c now (journal c now entries tree) entries) := by
  rw [gained_eq_added, journal_eq_writeAll]
  exact gains_writeAll (written_iff_allWritten.1 h)

/-- A file gains the entries that belong to it. -/
theorem gained_eq_bytesOf {c : Config} {tree : File.Tree} {l : File.Location} {p : Entry → Bool}
    (h : ∀ e : Entry, tree.locate (e.path c) = .ok l ↔ p e = true) (now : Text)
    (entries : List Entry) : gained c now tree entries l = bytesOf now (entries.filter p) := by
  induction entries with
  | nil => rfl
  | cons e entries ih =>
      rw [gained, List.flatMap_cons, ← gained, ih]
      by_cases hp : p e = true
      · rw [if_pos ((h e).2 hp), List.filter_cons_of_pos hp, bytesOf, bytesOf, List.flatMap_cons]
      · rw [if_neg (mt (h e).1 hp), List.filter_cons_of_neg hp, List.nil_append]

/-! ## Actions that log -/

/-- Writing to the log at a path fails at most with a fault of the file system. -/
def Loggable (path : File.Path) : Prop :=
  ∀ bytes tree fault, (writeLog path bytes tree).1 = .error fault → fault.isSystem = true

/-- Paths that can be paths are such. -/
theorem loggable_of_not_mem {path : File.Path} (h : '\x00' ∉ path.text) : Loggable path :=
  fun _ _ _ hfault => isSystem_of_writeLog h hfault

/-- An action that gives a result or fails, and logs entries. -/
structure Logs (a : Action α) (s : Session) (r : Except Failure α) (entries : List Entry) :
    Prop where
  result : (a s).1 = r
  config : (a s).2.config = s.config
  now : (a s).2.now = s.now
  tree : (a s).2.tree = journal s.config s.now entries s.tree

variable {s : Session}

theorem logs_pure (v : α) (s : Session) : Logs (pure v : Action α) s (.ok v) [] :=
  ⟨rfl, rfl, rfl, rfl⟩

theorem logs_throw (f : Failure) (s : Session) : Logs (throw f : Action α) s (.error f) [] :=
  ⟨rfl, rfl, rfl, rfl⟩

theorem logs_tell (source : Text) (severity : Severity) (text : Text) (s : Session) :
    Logs (tell source severity text) s (.ok ()) [] :=
  ⟨rfl, rfl, rfl, rfl⟩

/-- Actions in sequence log their entries in sequence. -/
theorem Logs.bind {a : Action α} {f : α → Action β} {v : α} {r : Except Failure β}
    {first second : List Entry} (ha : Logs a s (.ok v) first)
    (hf : ∀ s' : Session, s'.config = s.config → Logs (f v) s' r second) :
    Logs (a >>= f) s r (first ++ second) := by
  obtain ⟨hresult, hconfig, hnow, htree⟩ := ha
  obtain ⟨hresult', hconfig', hnow', htree'⟩ := hf (a s).2 hconfig
  have hrun : (a >>= f) s = f v (a s).2 := by
    rw [bind_run, run_eq_of_fst hresult]
  rw [hconfig, hnow, htree] at htree'
  constructor
  · rw [hrun, hresult']
  · rw [hrun, hconfig', hconfig]
  · rw [hrun, hnow', hnow]
  · rw [hrun, htree', journal, journal, journal, List.foldl_append]

/-- An action that logs nothing, before another one. -/
theorem Logs.ok_bind {a : Action α} {f : α → Action β} {v : α} {r : Except Failure β}
    {entries : List Entry} (ha : Logs a s (.ok v) [])
    (hf : ∀ s' : Session, s'.config = s.config → Logs (f v) s' r entries) :
    Logs (a >>= f) s r entries :=
  ha.bind hf

/-- An action whose result is not wanted. -/
theorem Logs.discard {a : Action α} {r : Except Failure α} {entries : List Entry}
    (h : Logs a s r entries) : Logs (a >>= fun _ => pure ()) s (r.map fun _ => ()) entries := by
  obtain ⟨hresult, hconfig, hnow, htree⟩ := h
  have hrun : (a >>= fun _ => pure ()) s = (r.map fun _ => (), (a s).2) := by
    rw [bind_run, run_eq_of_fst hresult]
    cases r <;> rfl
  rw [← show ((a >>= fun _ => pure ()) s).2 = (a s).2 by rw [hrun]] at hconfig hnow htree
  exact ⟨congrArg Prod.fst hrun, hconfig, hnow, htree⟩

/-- Reading the session does not log anything. -/
theorem Logs.get_bind {f : Session → Action α} {r : Except Failure α} {entries : List Entry}
    (h : Logs (f s) s r entries) : Logs (get >>= f) s r entries :=
  ⟨h.result, h.config, h.now, h.tree⟩

theorem Logs.attempt {a : Action α} {r : Except Failure α} {entries : List Entry}
    (h : Logs a s r entries) : Logs (attempt a) s (.ok r) entries :=
  ⟨congrArg Except.ok h.result, h.config, h.now, h.tree⟩

/-- What follows a write to a log: nothing, or a word to the operator. -/
theorem logs_appendLog_bind {path : File.Path} (hlog : Loggable path) {bytes : List UInt8}
    {e : Entry} (hpath : e.path s.config = path) (hbytes : e.bytes s.now = bytes)
    {f : Except File.Fault Unit → Action α} {r : Except Failure α}
    (hf : ∀ outcome s', (∀ fault, outcome = .error fault → fault.isSystem = true) →
      Logs (f outcome) s' r []) :
    Logs (appendLog path bytes >>= f) s r [e] := by
  subst hpath hbytes
  have hrun : (appendLog (e.path s.config) (e.bytes s.now) >>= f) s =
      f (writeLog (e.path s.config) (e.bytes s.now) s.tree).1
        { s with tree := (writeLog (e.path s.config) (e.bytes s.now) s.tree).2 } := by
    rw [bind_run, appendLog_run]
  obtain ⟨hresult, hconfig, hnow, htree⟩ := hf (writeLog (e.path s.config) (e.bytes s.now) s.tree).1
    { s with tree := (writeLog (e.path s.config) (e.bytes s.now) s.tree).2 }
    fun fault hfault => hlog _ _ _ hfault
  rw [← hrun] at hresult hconfig hnow htree
  exact ⟨hresult, hconfig, hnow, htree⟩

theorem logs_reportFault (what : Text) {fault : File.Fault} (h : fault.isSystem = true)
    (s : Session) : Logs (reportFault what fault) s (.ok ()) [] := by
  unfold reportFault
  rw [if_pos h]
  exact logs_tell _ _ _ s

theorem logs_logError (hlog : Loggable s.config.errorLog) (message : Text) :
    Logs (logError message) s (.ok ()) [.error message] := by
  unfold logError
  refine (logs_tell _ _ _ s).ok_bind fun s' hconfig => Logs.get_bind ?_
  rw [← hconfig] at hlog
  refine logs_appendLog_bind (e := .error message) hlog rfl rfl fun outcome s'' hsystem => ?_
  cases outcome with
  | ok _ => exact logs_pure () s''
  | error fault => exact logs_reportFault _ (hsystem fault rfl) s''

theorem logs_logCrash (hlog : Loggable s.config.crashLog) (identifier : Text) (data : Data)
    (report : Text) :
    Logs (logCrash identifier data report) s (.ok ()) [.crash identifier data report] := by
  unfold logCrash
  refine Logs.get_bind (logs_appendLog_bind (e := .crash identifier data report) hlog rfl rfl
    fun outcome s' hsystem => ?_)
  cases outcome with
  | error fault => exact logs_reportFault _ (hsystem fault rfl) s'
  | ok _ =>
      cases crashLine s.now identifier report data with
      | ok line => exact logs_pure () s'
      | error fault => exact logs_tell _ _ _ s'

/-- The last line of a rendering that fails. -/
def finalMessage (identifier : Text) (f : Failure) : Text :=
  "Rendering error in " ++ identifier ++ ": " ++ f.message

theorem logs_failed (hlog : Loggable s.config.errorLog) (identifier : Text) (f : Failure) :
    Logs (failed identifier f) s (.ok ⟨identifier, [], some f⟩)
      [.error (finalMessage identifier f)] :=
  (logs_logError hlog _).bind fun s' _ => logs_pure _ s'

theorem logs_announce (hlog : Loggable s.config.errorLog) (f : Failure) :
    Logs (announce f : Action α) s (.error f) (f.announcement?.toList.map .error) := by
  unfold announce
  cases f.announcement? with
  | none => exact logs_throw f s
  | some message => exact (logs_logError hlog message).bind fun s' _ => logs_throw f s'

theorem Steady.logs {a b : Action α} {s' : Session} {r : Except Failure α} {entries : List Entry}
    (hsteady : Steady s s') (hrun : a s = b s') (h : Logs b s' r entries) : Logs a s r entries := by
  obtain ⟨hresult, hconfig, hnow, htree⟩ := h
  rw [← hrun] at hresult hconfig hnow htree
  rw [hsteady.config, hsteady.now, hsteady.tree] at htree
  exact ⟨hresult, hconfig.trans hsteady.config, hnow.trans hsteady.now, htree⟩

/-! ## Courses of a rendering -/

/-- The line of a stage that fails with an error of a template. -/
def stageMessage (identifier : Text) (error : Template.Error) : Text :=
  match error.kind with
  | .unbalanced | .interpolation => "Parsing error in " ++ identifier ++ ": " ++ error.message
  | _ => error.message

/-- How the rendering of a template can go when the stages before the data come in have some
outcome: its result, and what it logs. -/
inductive Course (identifier : Text) (data : Data) :
    Except Failure (Template.Program × Template.Compiled) → Result → List Entry → Prop
  /-- The text is rendered, and nothing is logged. -/
  | succeeds {program : Template.Program} {template : Template.Compiled} {text : Text}
      (happly : template.apply data = .ok text) :
      Course identifier data (.ok (program, template)) ⟨identifier, text, none⟩ []
  /-- A file cannot be read.  Such a failure is of no kind, and no stage logs it. -/
  | stops {f : Failure} (hkind : f.kind? = none) :
      Course identifier data (.error f) ⟨identifier, [], some f⟩
        [.error (finalMessage identifier f)]
  /-- A stage fails with an error of a template and logs it. -/
  | refuses {error : Template.Error} (hkind : error.kind ≠ .invocation) :
      Course identifier data (.error (.template error)) ⟨identifier, [], some (.template error)⟩
        [.error (stageMessage identifier error), .error (finalMessage identifier (.template error))]
  /-- The data make the compiled template fail, which is recorded as a crash. -/
  | crashes {program : Template.Program} {template : Template.Compiled} {raised : Raised}
      (happly : template.apply data = .error raised) (htext : raised.inner? = none) :
      Course identifier data (.ok (program, template))
        ⟨identifier, [], some (.template (.invocation raised.report identifier))⟩
        [.crash identifier data raised.report,
          .error (finalMessage identifier (.template (.invocation raised.report identifier)))]

/-- Before the data come in, a failure of a page is announced in the error log exactly if
it is an error of a template. -/
theorem Failure.Staged.course {identifier : Text} {f : Failure} (h : f.Staged identifier)
    (data : Data) :
    Course identifier data (.error f) ⟨identifier, [], some f⟩
      (f.announcement?.toList.map .error ++ [.error (finalMessage identifier f)]) := by
  cases f with
  | file fault => exact .stops rfl
  | decoding fault => exact .stops rfl
  | template error =>
      cases error with
      | templateNotFound _ => exact .refuses (by simp [Template.Error.kind])
      | componentNotFound _ _ => exact .refuses (by simp [Template.Error.kind])
      | recursionTooDeep _ => exact .refuses (by simp [Template.Error.kind])
      | notAPath _ _ => exact .refuses (by simp [Template.Error.kind])
      | unbalanced _ _ _ =>
          cases h
          exact .refuses (by simp [Template.Error.kind])
      | emptyPlaceholder _ _ =>
          cases h
          exact .refuses (by simp [Template.Error.kind])
      | invocation _ _ => exact h.elim
      | unreported _ _ => exact h.elim

/-- What is prepared is prepared without a word, and what is not is announced. -/
theorem prepare_cases (hc : s.config.Valid) (identifier : Text) :
    ∃ s', Steady s s' ∧
      ((∃ v, prepare identifier s = (.ok v, s')) ∨
        ∃ f, f.Staged identifier ∧ prepare identifier s = announce f s') := by
  have hs : Within s.config s.tree (fun _ _ => True) s := ⟨rfl, rfl, trivial⟩
  obtain ⟨prepared, hstaged, s', hsteady, -, hrun⟩ :=
    proceeds_prepare (upkeep_trivial s.tree) hc identifier hs
  refine ⟨s', hsteady, ?_⟩
  cases prepared with
  | ok v => exact .inl ⟨v, hrun⟩
  | error f => exact .inr ⟨f, hstaged f rfl, hrun⟩

/-- The stages before the data come in log the announcement of their failure. -/
theorem logs_prepare (hc : s.config.Valid) (hlog : Loggable s.config.errorLog)
    (identifier : Text) :
    ∃ prepared, (∀ f, prepared = .error f → f.Staged identifier) ∧
      Logs (prepare identifier) s prepared (match prepared with
        | .ok _ => []
        | .error f => f.announcement?.toList.map .error) := by
  obtain ⟨s', hsteady, ⟨v, hrun⟩ | ⟨f, hstaged, hrun⟩⟩ := prepare_cases hc identifier
  · have hlogs := hsteady.logs (b := pure v) hrun (logs_pure v s')
    exact ⟨.ok v, fun f hf => (nomatch hf), hlogs⟩
  · have hlogs := hsteady.logs hrun (logs_announce (hsteady.config ▸ hlog) f)
    exact ⟨.error f, fun f' hf' => Except.error.inj hf' ▸ hstaged, hlogs⟩

/-- An exception with a text is recorded, and a line follows. -/
theorem logs_crashed (herror : Loggable s.config.errorLog) (hcrash : Loggable s.config.crashLog)
    (identifier : Text) (data : Data) {raised : Raised} (htext : raised.inner? = none) :
    let failure := Failure.template (.invocation raised.report identifier)
    Logs (crashed identifier data raised) s (.ok ⟨identifier, [], some failure⟩)
      [.crash identifier data raised.report, .error (finalMessage identifier failure)] := by
  intro failure
  unfold crashed
  rw [htext]
  refine (logs_logCrash hcrash _ _ _).bind fun s' hconfig => ?_
  exact logs_failed (hconfig ▸ herror) identifier failure

/-- An exception without a text is not recorded: what asking for the text raises goes past the
rendering. -/
theorem logs_crashed_of_inner (identifier : Text) (data : Data) {raised inner : Raised}
    (hinner : raised.inner? = some inner) (s : Session) :
    Logs (crashed identifier data raised) s (.error (.template (.unreported inner identifier)))
      [] := by
  unfold crashed
  rw [hinner]
  exact logs_throw _ s

theorem logs_invoke_of_applied {template : Template.Compiled} {data : Data} {text : Text}
    (happly : template.apply data = .ok text) (identifier : Text) (s : Session) :
    Logs (invoke identifier template data) s (.ok ⟨identifier, text, none⟩) [] := by
  unfold invoke
  rw [happly]
  exact (logs_tell _ _ _ s).ok_bind fun s' _ => logs_pure _ s'

theorem invoke_of_raised {template : Template.Compiled} {data : Data} {raised : Raised}
    (happly : template.apply data = .error raised) (identifier : Text) :
    invoke identifier template data = crashed identifier data raised := by
  unfold invoke
  rw [happly]

/-- Which course invoking takes depends on the template and the data only. -/
theorem logs_invoke (identifier : Text) (program : Template.Program)
    {template : Template.Compiled} {data : Data}
    (htext : ∀ raised, template.apply data = .error raised → raised.inner? = none) :
    ∃ result entries, Course identifier data (.ok (program, template)) result entries ∧
      ∀ s : Session, Loggable s.config.errorLog → Loggable s.config.crashLog →
        Logs (invoke identifier template data) s (.ok result) entries := by
  cases happly : template.apply data with
  | ok text =>
      exact ⟨_, _, .succeeds happly, fun s _ _ => logs_invoke_of_applied happly identifier s⟩
  | error raised =>
      have hnone := htext raised happly
      rw [invoke_of_raised happly]
      exact ⟨_, _, .crashes happly hnone, fun s herror hcrash =>
        logs_crashed herror hcrash identifier data hnone⟩

/-- Every rendering gives a result, along with the entries that its course has for the logs, if
the exception that stops the prepared template, should there be one, has a text.  This holds
whatever is in the cache. -/
theorem exists_course (hc : s.config.Valid) (herror : Loggable s.config.errorLog)
    (hcrash : Loggable s.config.crashLog) (identifier : Text) {data : Data}
    (htext : ∀ prepared raised, (prepare identifier s).1 = .ok prepared →
      prepared.2.apply data = .error raised → raised.inner? = none) :
    ∃ result entries, Course identifier data (prepare identifier s).1 result entries ∧
      Logs (render identifier data) s (.ok result) entries := by
  obtain ⟨prepared, hstaged, hprepare⟩ := logs_prepare hc herror identifier
  rw [hprepare.result] at htext ⊢
  cases prepared with
  | error f =>
      refine ⟨_, _, (hstaged f rfl).course data, hprepare.attempt.bind fun s' hconfig => ?_⟩
      exact logs_failed (hconfig ▸ herror) identifier f
  | ok v =>
      obtain ⟨result, entries, hcourse, hinvoke⟩ := logs_invoke identifier v.1 (htext v · rfl)
      refine ⟨result, entries, hcourse, hprepare.attempt.ok_bind fun s' hconfig => ?_⟩
      exact hinvoke s' (hconfig ▸ herror) (hconfig ▸ hcrash)

/-- Every rendering gives a result, along with the entries that its course has for the logs, if
the exception that stops the prepared template, should there be one, has a text.  When the
entries can be written, and the logs are different files, the error log gains exactly the
lines among them and the crash log the records, and no other file gains anything.  This
holds whatever is in the cache. -/
theorem render_course {s : Session} (hc : s.config.Valid) (herror : Loggable s.config.errorLog)
    (hcrash : Loggable s.config.crashLog) (identifier : Text) (data : Data)
    (htext : ∀ prepared raised, (prepare identifier s).1 = .ok prepared →
      prepared.2.apply data = .error raised → raised.inner? = none) :
    let after := (render identifier data s).2.tree
    ∃ result entries, Course identifier data (prepare identifier s).1 result entries ∧
      (render identifier data s).1 = .ok result ∧
      after = journal s.config s.now entries s.tree ∧
      (Written s.config s.now entries s.tree →
        (∀ l, after.locate s.config.errorLog = .ok l → after.locate s.config.crashLog ≠ .ok l →
          after.contents l = s.tree.contents l ++
            bytesOf s.now (entries.filter Entry.isError)) ∧
        (∀ l, after.locate s.config.crashLog = .ok l → after.locate s.config.errorLog ≠ .ok l →
          after.contents l = s.tree.contents l ++
            bytesOf s.now (entries.filter fun e => !e.isError)) ∧
        ∀ l, after.locate s.config.errorLog ≠ .ok l → after.locate s.config.crashLog ≠ .ok l →
          after.contents l = s.tree.contents l) := by
  intro after
  obtain ⟨result, entries, hcourse, hrender⟩ := exists_course hc herror hcrash identifier htext
  refine ⟨result, entries, hcourse, hrender.result, hrender.tree, fun hwritten => ?_⟩
  have hgains : ∀ l, after.contents l =
      s.tree.contents l ++ gained s.config s.now after entries l := by
    rw [show after = journal s.config s.now entries s.tree from hrender.tree]
    exact (gains_journal hwritten).contents
  refine ⟨fun l hl hother => ?_, fun l hl hother => ?_, fun l hnone hnone' => ?_⟩
  · rw [hgains, gained_eq_bytesOf (p := Entry.isError)]
    rintro (_ | _) <;> simp [Entry.path, Entry.isError, hl, hother]
  · rw [hgains, gained_eq_bytesOf (p := fun e => !e.isError)]
    rintro (_ | _) <;> simp [Entry.path, Entry.isError, hl, hother]
  · rw [hgains, gained_eq_bytesOf (p := fun _ => false), List.filter_false]
    · exact List.append_nil _
    · rintro (_ | _) <;> simp [Entry.path, hnone, hnone']

/-- A page that shows a value. -/
def fragileTree : File.Tree := ⟨[], [(["page"], .file (Text.Utf8.encode "\x7b\x7bx\x7d\x7d"))]⟩

/-- A value that cannot be shown. -/
def fragileData : Data :=
  .ofTree (.mapping [(.text "x", .object [] (.error ⟨"RuntimeError", "boom"⟩) "thing")])

/-- The page crashes on the value: there is one record in the crash log, and one line in the
error log. -/
theorem render_course_crashed :
    let s := Session.start .standard fragileTree "now"
    (render "page" fragileData s).1 = .ok
      ⟨"page", [], some (.template (.invocation "RuntimeError: boom" "page"))⟩ ∧
    (render "page" fragileData s).2.tree.contents ["crash.log"] = Text.Utf8.encode
      ("\x7b\"timestamp\":\"now\",\"template_path\":\"page\",\"error\":\"RuntimeError: boom\"," ++
        "\"data\":\x7b\"x\":\"thing\"\x7d\x7d\n") ∧
    (render "page" fragileData s).2.tree.contents ["error.log"] = Text.Utf8.encode
      "[now] ERROR: Rendering error in page: RuntimeError: boom\n" := by
  intro s
  have herror : Loggable s.config.errorLog := loggable_of_not_mem (by decide)
  have hcrash : Loggable s.config.crashLog := loggable_of_not_mem (by decide)
  have hprepared : (prepare "page" s).1 = .ok (⟨[.lookup "x"]⟩, ⟨[.path ["x"]]⟩) := by
    decide +kernel
  have hraised : (Template.Compiled.mk [.path ["x"]]).apply fragileData =
      .error ⟨"RuntimeError", "boom"⟩ := by decide +kernel
  obtain ⟨result, entries, hcourse, hresult, -, hgain⟩ :=
    render_course Config.valid_standard herror hcrash "page" fragileData (by
      intro prepared raised hprepared' hraised'
      cases hprepared.symm.trans hprepared'
      cases hraised.symm.trans hraised'
      rfl)
  rw [hprepared] at hcourse
  cases hcourse with
  | succeeds happly =>
      rw [hraised] at happly
      cases happly
  | crashes happly =>
      rw [hraised] at happly
      obtain rfl := Except.error.inj happly
      obtain ⟨herrors, hcrashes, -⟩ := hgain ⟨by decide +kernel, by decide +kernel, trivial⟩
      refine ⟨hresult, ?_, ?_⟩
      · rw [hcrashes ["crash.log"] (by decide +kernel) (by decide +kernel)]
        decide +kernel
      · rw [herrors ["error.log"] (by decide +kernel) (by decide +kernel)]
        decide +kernel

/-- The standard configuration, but with one file for both logs. -/
def mergedConfig : Config :=
  { Config.standard with errorLog := ⟨.relative, ["log"]⟩, crashLog := ⟨.relative, ["log"]⟩ }

/-- Where both logs are one file, the error log gains more than the line of a crash: the record
stands before it. -/
theorem crash_in_error_log :
    let s := Session.start mergedConfig fragileTree "T"
    let after := (render "page" fragileData s).2.tree
    let line := Entry.error "Rendering error in page: RuntimeError: boom"
    (render "page" fragileData s).1 = .ok
      ⟨"page", [], some (.template (.invocation "RuntimeError: boom" "page"))⟩ ∧
    Written s.config s.now [.crash "page" fragileData "RuntimeError: boom", line] s.tree ∧
    s.tree.contents ["log"] = [] ∧ after.locate s.config.errorLog = .ok ["log"] ∧
    after.contents ["log"] = Text.Utf8.encode
      ("\x7b\"timestamp\":\"T\",\"template_path\":\"page\",\"error\":\"RuntimeError: boom\"," ++
        "\"data\":\x7b\"x\":\"thing\"\x7d\x7d\n" ++
        "[T] ERROR: Rendering error in page: RuntimeError: boom\n") ∧
    after.contents ["log"] ≠ line.bytes s.now := by
  intro s after line
  refine ⟨by decide +kernel, ⟨by decide +kernel, by decide +kernel, trivial⟩, ?_⟩
  decide +kernel

end Render
end Stencil
