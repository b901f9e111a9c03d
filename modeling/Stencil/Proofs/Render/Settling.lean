import Stencil.Proofs.File.LogFault
import Stencil.Proofs.Render.Effect

/-!
# Stages that settle

A stage of rendering changes nothing but the cache and the history until its result is
known.  Then it gives the result, or it announces its failure in the error log and
fails.  `settle` is this last step, and `Settles` says that an action consists of steady
work and that step.

Main results:

- Theorem `Settles.bind`: the result of stages in sequence is the sequence of their
  results.
- Theorem `announce_run_fst`: a caller sees the failure that is announced, or the
  fault of an error log whose path is none.
- Theorem `logFault?_eq_none`: with a path of the error log that can be one, it is
  always the failure itself.
-/

namespace Stencil
namespace Render

open Stencil.Render.Action

variable {α β : Type}

/-! ## Announcing failures -/

/-- What a stage writes to the error log before it fails: nothing for a failure of the
file system, and the name of the stage where the text is read as a program. -/
def Failure.announcement? : Failure → Option Text
  | .template (.unbalanced identifier line imbalance) =>
    some ("Parsing error in " ++ identifier ++ ": " ++
      (Template.Error.unbalanced identifier line imbalance).message)
  | .template (.emptyPlaceholder raw identifier) =>
    some ("Parsing error in " ++ identifier ++ ": " ++
      (Template.Error.emptyPlaceholder raw identifier).message)
  | .template error => some error.message
  | _ => none

/-- Writes the announcement of a failure, if it has one, and fails. -/
def announce (f : Failure) : Action α := do
  match f.announcement? with
  | some message => logError message
  | none => pure ()
  throw f

/-- Gives a result, or announces a failure. -/
def settle : Except Failure α → Action α
  | .ok v => pure v
  | .error f => announce f

theorem blind_announce (f : Failure) : Blind (announce f : Action α) := by
  unfold announce
  cases f.announcement? with
  | none => exact (blind_pure ()).bind fun _ => blind_throw f
  | some message => exact (blind_logError message).bind fun _ => blind_throw f

theorem blind_settle (r : Except Failure α) : Blind (settle r) := by
  cases r with
  | ok v => exact blind_pure v
  | error f => exact blind_announce f

/-- Announcing leaves no way on. -/
theorem announce_bind (f : Failure) (g : α → Action β) (s : Session) :
    ((announce f : Action α) >>= g) s = (announce f : Action β) s := by
  unfold announce
  cases f.announcement? with
  | none => rfl
  | some message =>
      simp only [bind_run]
      rcases logError message s with ⟨e | ⟨⟩, s'⟩ <;> rfl

/-! ## Steady work -/

/-- Two sessions that differ at most in the cache and the history. -/
structure Steady (s s' : Session) : Prop where
  config : s'.config = s.config
  tree : s'.tree = s.tree
  now : s'.now = s.now
  messages : s'.messages = s.messages

theorem Steady.refl (s : Session) : Steady s s := ⟨rfl, rfl, rfl, rfl⟩

theorem Steady.trans {s s' s'' : Session} (h : Steady s s') (h' : Steady s' s'') :
    Steady s s'' :=
  ⟨h'.config.trans h.config, h'.tree.trans h.tree, h'.now.trans h.now,
    h'.messages.trans h.messages⟩

/-- An action that does steady work, keeps an invariant meanwhile, and then settles with
the given result. -/
def Settles (I : Session → Prop) (a : Action α) (s : Session) (r : Except Failure α) : Prop :=
  ∃ s', Steady s s' ∧ I s' ∧ a s = settle r s'

theorem settles_pure {I : Session → Prop} {s : Session} (hs : I s) (v : α) :
    Settles I (pure v) s (.ok v) :=
  ⟨s, .refl s, hs, rfl⟩

theorem settles_throw {I : Session → Prop} {s : Session} (hs : I s) {f : Failure}
    (hf : f.announcement? = none) : Settles I (throw f : Action α) s (.error f) :=
  ⟨s, .refl s, hs, by simp only [settle, announce, hf]⟩

theorem settles_announce {I : Session → Prop} {s : Session} (hs : I s) (f : Failure) :
    Settles I (announce f : Action α) s (.error f) :=
  ⟨s, .refl s, hs, rfl⟩

/-- Stages in sequence: the second one starts where the first one has given its result,
and a failure of the first one is final. -/
theorem Settles.bind {I : Session → Prop} {a : Action α} {f : α → Action β} {s : Session}
    {r : Except Failure α} {g : α → Except Failure β} (ha : Settles I a s r)
    (hf : ∀ v s', r = .ok v → Steady s s' → I s' → Settles I (f v) s' (g v)) :
    Settles I (a >>= f) s (r >>= g) := by
  obtain ⟨s', hsteady, hinv, hrun⟩ := ha
  cases r with
  | ok v =>
      obtain ⟨s'', hsteady', hinv', hrun'⟩ := hf v s' rfl hsteady hinv
      refine ⟨s'', hsteady.trans hsteady', hinv', ?_⟩
      rw [bind_run, hrun]
      exact hrun'
  | error e =>
      refine ⟨s', hsteady, hinv, ?_⟩
      change (a >>= f) s = announce e s'
      rw [← announce_bind e f s', bind_run, bind_run, hrun]
      rfl

/-- A step that always succeeds, before a stage. -/
theorem Settles.ok_bind {I : Session → Prop} {a : Action α} {f : α → Action β} {s : Session}
    {v : α} {r : Except Failure β} (ha : Settles I a s (.ok v))
    (hf : ∀ s', I s' → Settles I (f v) s' r) : Settles I (a >>= f) s r :=
  ha.bind (g := fun _ => r) fun _ s' hv _ hs' => Except.ok.inj hv ▸ hf s' hs'

/-- A stage that begins by looking at the session. -/
theorem Settles.get_bind {I : Session → Prop} {f : Session → Action β} {s : Session}
    {r : Except Failure β} (h : Settles I (f s) s r) : Settles I (get >>= f) s r := by
  obtain ⟨s', hsteady, hinv, hrun⟩ := h
  exact ⟨s', hsteady, hinv, by rw [bind_run, get_run, ← hrun]⟩

/-! ## What reaches the caller -/

/-- What escapes of a fault of a log: nothing when it comes from the file system. -/
def escaped? (fault : File.Fault) : Option File.Fault :=
  if fault.isSystem then none else some fault

/-- The fault that escapes when the error log is written to. -/
def Session.logFault? (s : Session) : Option File.Fault :=
  match (writeLog s.config.errorLog [] s.tree).1 with
  | .error fault => escaped? fault
  | .ok () => none

/-- What reaches the caller of a failure that a stage announces. -/
def Session.escaping (s : Session) : Failure → Failure
  | .template error => match s.logFault? with
    | some fault => .file fault
    | none => .template error
  | f => f

/-- Whether a log can be written to does not depend on what is written. -/
theorem writeLog_fst (path : File.Path) (bytes other : List UInt8) (tree : File.Tree) :
    (writeLog path bytes tree).1 = (writeLog path other tree).1 := by
  unfold writeLog
  rcases tree.makeDirectories path.parent with ⟨fault | ⟨⟩, tree⟩
  · rfl
  · dsimp only
    unfold File.Tree.append File.Tree.update
    cases tree.locate path with
    | error cause => rfl
    | ok l =>
        dsimp only
        rcases tree.node? l with _ | _ | _ <;> rfl

theorem reportFault_run_fst (what : Text) (fault : File.Fault) (s : Session) :
    (reportFault what fault s).1 = match escaped? fault with
      | some fault => .error (.file fault)
      | none => .ok () := by
  unfold reportFault escaped?
  split <;> rfl

theorem logError_run_fst (message : Text) (s : Session) :
    (logError message s).1 = match s.logFault? with
      | some fault => .error (.file fault)
      | none => .ok () := by
  unfold logError Session.logFault?
  rw [writeLog_fst _ [] (Text.Utf8.encode (errorLine s.now message))]
  simp only [bind_run, get_run, Action.tell, modify_run, appendLog_run]
  cases (writeLog s.config.errorLog (Text.Utf8.encode (errorLine s.now message)) s.tree).1 with
  | error fault => exact reportFault_run_fst _ fault _
  | ok _ => rfl

/-- A caller sees the failure that is announced, or the fault of the error log. -/
theorem announce_run_fst (f : Failure) (s : Session) :
    (announce f s : Except Failure α × Session).1 = .error (s.escaping f) := by
  have hlogged : ∀ (error : Template.Error) (message : Text),
      (Failure.template error).announcement? = some message →
        (announce (.template error) s : Except Failure α × Session).1 =
          .error (s.escaping (.template error)) := by
    intro error message h
    have hlog := logError_run_fst message s
    rcases hrun : logError message s with ⟨result, s'⟩
    rw [hrun] at hlog
    simp only [announce, h, bind_run, hrun, Session.escaping]
    cases hfault : s.logFault? <;>
      · rw [hfault] at hlog
        dsimp only at hlog
        subst hlog
        rfl
  cases f with
  | template error => cases error <;> exact hlogged _ _ rfl
  | file fault => rfl
  | decoding fault => rfl

theorem announce_ne_ok (f : Failure) (s s' : Session) (v : α) : announce f s ≠ (.ok v, s') := by
  intro h
  have hfailed := announce_run_fst (α := α) f s
  rw [h] at hfailed
  cases hfailed

/-- Writing to a log at a path that can be one fails at most with a fault of the file
system. -/
theorem isSystem_of_writeLog {path : File.Path} (h : '\x00' ∉ path.text) {bytes : List UInt8}
    {tree : File.Tree} {fault : File.Fault} (hfault : (writeLog path bytes tree).1 = .error fault) :
    fault.isSystem = true := by
  have hpath := File.Path.zeroFree_iff_text.2 h
  unfold writeLog at hfault
  rcases hmade : tree.makeDirectories path.parent with ⟨other | ⟨⟩, made⟩
  · rw [hmade] at hfault
    exact File.Tree.isSystem_of_makeDirectories hpath.parent (by rw [hmade, hfault])
  · rw [hmade] at hfault
    dsimp only at hfault
    cases happend : made.append path bytes with
    | error other =>
        rw [happend] at hfault
        rw [← Except.error.inj hfault]
        exact File.Tree.isSystem_of_append hpath happend
    | ok whole =>
        rw [happend] at hfault
        cases hfault

/-- With a path of the error log that can be one, nothing escapes from the log. -/
theorem logFault?_eq_none {s : Session} (h : '\x00' ∉ s.config.errorLog.text) :
    s.logFault? = none := by
  unfold Session.logFault?
  cases hwrite : (writeLog s.config.errorLog [] s.tree).1 with
  | error fault => exact if_pos (isSystem_of_writeLog h hwrite)
  | ok _ => rfl

/-- Callers always see the failure itself exactly when nothing escapes from the log. -/
theorem escaping_eq_self_iff {s : Session} : (∀ f, s.escaping f = f) ↔ s.logFault? = none := by
  constructor
  · intro h
    have := h (.template (.templateNotFound []))
    cases hfault : s.logFault? with
    | none => rfl
    | some fault => simp [Session.escaping, hfault] at this
  · intro h f
    cases f <;> simp [Session.escaping, h]

theorem Steady.escaping {s s' : Session} (h : Steady s s') : s'.escaping = s.escaping := by
  have hfault : s'.logFault? = s.logFault? := by
    unfold Session.logFault?
    rw [h.config, h.tree]
  funext f
  unfold Session.escaping
  rw [hfault]

/-- What a caller sees of a stage that settles. -/
theorem Settles.run_fst {I : Session → Prop} {a : Action α} {s : Session}
    {r : Except Failure α} (h : Settles I a s r) : (a s).1 = r.mapError s.escaping := by
  obtain ⟨s', hsteady, -, hrun⟩ := h
  rw [hrun]
  cases r with
  | ok v => rfl
  | error f =>
      rw [settle, announce_run_fst, hsteady.escaping]
      rfl

theorem escaping_eq_iff {s : Session} {f : Failure} :
    s.escaping f = f ↔ f.kind? = none ∨ s.logFault? = none := by
  cases f with
  | template error => cases hfault : s.logFault? <;> simp [Session.escaping, Failure.kind?, hfault]
  | file fault => simp [Session.escaping, Failure.kind?]
  | decoding fault => simp [Session.escaping, Failure.kind?]

end Render
end Stencil
