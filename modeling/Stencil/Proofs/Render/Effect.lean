import Mathlib.Tactic.Choose
import Stencil.Render.Renderer

/-!
# What actions do to a session

Running a sequence of actions is running one after the other.  Writing to the journals is
blind: it neither looks at the cache and the history nor changes them, so that two
sessions which differ only there go on alike.

Main results:

- Theorem `bind_run`: how actions in sequence run.
- Theorem `Blind.bind`: blind actions in sequence are blind.
- Theorems `blind_logError` and `blind_logCrash`: the journals are blind.
- Theorems `blind_failed` and `blind_invoke`: so is everything after compilation.
-/

namespace Stencil
namespace Render

open Stencil.Render.Action

variable {α β : Type}

/-! ## Running actions -/

/-- An action is followed by the next one when it has a result, and by nothing when it fails. -/
theorem bind_run (a : Action α) (f : α → Action β) (s : Session) :
    (a >>= f) s = match a s with
      | (.ok v, s') => f v s'
      | (.error e, s') => (.error e, s') := by
  rcases hrun : a s with ⟨e | v, s'⟩ <;>
    simp only [bind, ExceptT.bind, ExceptT.mk, StateT.bind, hrun] <;> rfl

/-- An action whose result is known differs by its session only. -/
theorem run_eq_of_fst {a : Action α} {s : Session} {r : Except Failure α} (h : (a s).1 = r) :
    a s = (r, (a s).2) :=
  Prod.ext h rfl

@[simp]
theorem pure_run (v : α) (s : Session) : (pure v : Action α) s = (.ok v, s) := rfl

@[simp]
theorem get_run (s : Session) : (get : Action Session) s = (.ok s, s) := rfl

@[simp]
theorem throw_run (e : Failure) (s : Session) : (throw e : Action α) s = (.error e, s) := rfl

@[simp]
theorem modify_run (change : Session → Session) (s : Session) :
    (modify change : Action Unit) s = (.ok (), change s) := rfl

/-- A sequence gives a result when both of its parts do. -/
theorem bind_run_eq_ok_iff {a : Action α} {f : α → Action β} {s s'' : Session} {w : β} :
    (a >>= f) s = (.ok w, s'') ↔ ∃ v s', a s = (.ok v, s') ∧ f v s' = (.ok w, s'') := by
  rw [bind_run]
  rcases a s with ⟨e | v, s'⟩
  · constructor
    · intro h
      cases h
    · rintro ⟨v, s₁, h, -⟩
      cases h
  · constructor
    · exact fun h => ⟨v, s', rfl, h⟩
    · rintro ⟨v', s₁, h, hrun⟩
      cases h
      exact hrun

/-! ## Blind actions -/

/-- An action that neither looks at the cache and the history nor changes them: its
result, the file tree and the messages that it adds are functions of the configuration,
the file tree and the time. -/
def Blind (a : Action α) : Prop :=
  ∃ effect : Config → File.Tree → Text → Except Failure α × File.Tree × List Message,
    ∀ s, a s = ((effect s.config s.tree s.now).1,
      { s with
        tree := (effect s.config s.tree s.now).2.1
        messages := s.messages ++ (effect s.config s.tree s.now).2.2 })

theorem blind_pure (v : α) : Blind (pure v : Action α) :=
  ⟨fun _ tree _ => (.ok v, tree, []), fun s => by simp⟩

theorem blind_throw (e : Failure) : Blind (throw e : Action α) :=
  ⟨fun _ tree _ => (.error e, tree, []), fun s => by simp⟩

theorem Blind.bind {a : Action α} {f : α → Action β} (ha : Blind a) (hf : ∀ v, Blind (f v)) :
    Blind (a >>= f) := by
  obtain ⟨first, hfirst⟩ := ha
  choose second hsecond using hf
  refine ⟨fun config tree now => match first config tree now with
    | (.ok v, tree, told) =>
      let (result, tree, more) := second v config tree now
      (result, tree, told ++ more)
    | (.error e, tree, told) => (.error e, tree, told), fun s => ?_⟩
  rw [bind_run, hfirst s]
  dsimp only
  rcases first s.config s.tree s.now with ⟨e | v, tree, told⟩
  · rfl
  · simp [hsecond]

/-- Reading only what a blind action may read. -/
theorem blind_of_forall {f : Session → Action α}
    (hf : ∀ config tree now, ∃ a, Blind a ∧
      ∀ s : Session, s.config = config → s.tree = tree → s.now = now → f s s = a s) :
    Blind (get >>= f) := by
  choose a ha hrun using hf
  choose effect heffect using ha
  refine ⟨fun config tree now => effect config tree now config tree now, fun s => ?_⟩
  rw [bind_run, get_run]
  exact (hrun s.config s.tree s.now s rfl rfl rfl).trans (heffect s.config s.tree s.now s)

theorem blind_tell (source : Text) (severity : Severity) (text : Text) :
    Blind (tell source severity text) :=
  ⟨fun _ tree _ => (.ok (), tree, [⟨source, severity, text⟩]), fun _ => rfl⟩

/-- Writing to a log, as a function of the file tree. -/
def writeLog (path : File.Path) (bytes : List UInt8) (tree : File.Tree) :
    Except File.Fault Unit × File.Tree :=
  match tree.makeDirectories path.parent with
  | (.error fault, tree) => (.error fault, tree)
  | (.ok (), tree) => match tree.append path bytes with
    | .error fault => (.error fault, tree)
    | .ok tree => (.ok (), tree)

theorem appendLog_run (path : File.Path) (bytes : List UInt8) (s : Session) :
    appendLog path bytes s =
      (.ok (writeLog path bytes s.tree).1,
        { s with tree := (writeLog path bytes s.tree).2 }) := by
  unfold appendLog writeLog
  rw [bind_run, get_run]
  dsimp only
  rcases s.tree.makeDirectories path.parent with ⟨fault | ⟨⟩, tree⟩
  · rfl
  · dsimp only
    cases tree.append path bytes <;> rfl

/-- A line in a log changes the files, whether or not it can be written. -/
theorem blind_appendLog (path : File.Path) (bytes : List UInt8) :
    Blind (appendLog path bytes) :=
  ⟨fun _ tree _ => (.ok (writeLog path bytes tree).1, (writeLog path bytes tree).2, []),
    fun s => by simp [appendLog_run]⟩

/-- A fault of a log is told or thrown, by its kind. -/
theorem blind_reportFault (what : Text) (fault : File.Fault) :
    Blind (reportFault what fault) := by
  unfold reportFault
  split
  · exact blind_tell _ _ _
  · exact blind_throw _

/-- Writes the line of an error to the log at a path. -/
def writeError (path : File.Path) (now message : Text) : Action Unit := do
  match ← appendLog path (Text.Utf8.encode (errorLine now message)) with
  | .ok () => return ()
  | .error fault => reportFault "error" fault

/-- Writes the line of a crash to the log at a path. -/
def writeCrash (path : File.Path) (now identifier : Text) (data : Data) (error : Text) :
    Action Unit := do
  let line := crashLine now identifier error data
  let bytes := match line with
    | .ok t => Text.Utf8.encode t
    | .error _ => []
  match ← appendLog path bytes, line with
  | .error fault, _ => reportFault "crash" fault
  | .ok (), .error fault =>
    tell journalSource .debug ("crash log write failed: " ++ fault.message)
  | .ok (), .ok _ => return ()

/-- The file system decides whether an error is written, and the cache has no part in it. -/
theorem blind_writeError (path : File.Path) (now message : Text) :
    Blind (writeError path now message) := by
  refine (blind_appendLog _ _).bind fun result => ?_
  cases result with
  | ok _ => exact blind_pure ()
  | error fault => exact blind_reportFault _ fault

/-- Nor has it when a crash record cannot be encoded. -/
theorem blind_writeCrash (path : File.Path) (now identifier : Text) (data : Data) (error : Text) :
    Blind (writeCrash path now identifier data error) := by
  refine (blind_appendLog _ _).bind fun result => ?_
  cases result with
  | error fault => exact blind_reportFault _ fault
  | ok _ =>
      cases crashLine now identifier error data with
      | error fault => exact blind_tell _ _ _
      | ok _ => exact blind_pure ()

theorem blind_logError (message : Text) : Blind (logError message) := by
  refine (blind_tell _ _ _).bind fun _ => blind_of_forall fun config tree now => ?_
  refine ⟨writeError config.errorLog now message, blind_writeError _ _ _, ?_⟩
  rintro s rfl rfl rfl
  rfl

theorem blind_logCrash (identifier : Text) (data : Data) (error : Text) :
    Blind (logCrash identifier data error) := by
  refine blind_of_forall fun config tree now => ?_
  refine ⟨writeCrash config.crashLog now identifier data error, blind_writeCrash _ _ _ _ _, ?_⟩
  rintro s rfl rfl rfl
  rfl

/-- A failed rendering is logged and answered without the cache. -/
theorem blind_failed (identifier : Text) (failure : Failure) : Blind (failed identifier failure) :=
  (blind_logError _).bind fun _ => blind_pure _

/-- So is one that crashed, even where the text of the exception cannot be had. -/
theorem blind_crashed (identifier : Text) (data : Data) (raised : Raised) :
    Blind (crashed identifier data raised) := by
  unfold crashed
  cases raised.inner? with
  | some inner => exact blind_throw _
  | none => exact (blind_logCrash _ _ _).bind fun _ => blind_failed _ _

/-- What a template does with its data does not concern the cache. -/
theorem blind_invoke (identifier : Text) (template : Template.Compiled) (data : Data) :
    Blind (invoke identifier template data) := by
  unfold invoke
  split
  · exact blind_crashed identifier data _
  · exact (blind_tell _ _ _).bind fun _ => blind_pure _

end Render
end Stencil
