import Stencil.Proofs.Render.LogTrace

/-!
# What a run leaves in the logs

A renderer renders, and it is told of errors and crashes to log, at any times and in any order.
Each of these errands writes the entries that it should to the logs, and when they can all be
written the logs hold the entries of the whole run, one after the other.

Main results:

- Inductive `Errand` and definition `performAll`: runs of a renderer.
- Definition `chronicle`: the entries of a run, each with its time.
- Theorem `logs_render`: what one rendering writes.
- Theorem `performAll_tree`: what a run writes.
- Theorem `contents_performAll`: what a file gains in a run.
-/

namespace Stencil
namespace Render

open Stencil.Render.Action

/-- What a renderer is asked to do. -/
inductive Errand where
  | render (identifier : Text) (data : Data)
  | logError (message : Text)
  | logCrash (identifier : Text) (data : Data) (report : Text)

/-- Something with a time. -/
structure Dated (α : Type) where
  now : Text
  what : α
deriving DecidableEq

/-- The write of an entry at its time. -/
def Dated.write (c : Config) (e : Dated Entry) : Write := e.what.write c e.now

/-- The entries of an exception that the data raised.  One that has no text leaves none. -/
def crashEntries (identifier : Text) (data : Data) (raised : Raised) : List Entry :=
  if raised.inner?.isSome then []
  else [.crash identifier data raised.report,
    .error (finalMessage identifier (.template (.invocation raised.report identifier)))]

/-- The entries of a rendering, by what comes of the stages before the data come in. -/
def renderEntries (identifier : Text) (data : Data) :
    Except Failure (Template.Program × Template.Compiled) → List Entry
  | .error f => f.announcement?.toList.map .error ++ [.error (finalMessage identifier f)]
  | .ok (_, template) => match template.apply data with
    | .ok _ => []
    | .error raised => crashEntries identifier data raised

section

variable {identifier text : Text} {data : Data} {program : Template.Program}
  {template : Template.Compiled} {raised : Raised}

theorem renderEntries_of_applied (happly : template.apply data = .ok text) :
    renderEntries identifier data (.ok (program, template)) = [] := by
  simp only [renderEntries, happly]

theorem renderEntries_of_raised (happly : template.apply data = .error raised) :
    renderEntries identifier data (.ok (program, template)) =
      crashEntries identifier data raised := by
  simp only [renderEntries, happly]

end

namespace Errand

/-- Does an errand. -/
def action : Errand → Action Unit
  | render identifier data => do
    let _ ← Render.render identifier data
  | logError message => Render.logError message
  | logCrash identifier data report => Render.logCrash identifier data report

/-- The entries of an errand. -/
def entries (s : Session) : Errand → List Entry
  | render identifier data => renderEntries identifier data (prepare identifier s).1
  | logError message => [.error message]
  | logCrash identifier data report => [.crash identifier data report]

end Errand

/-- The session after an errand at its time. -/
def perform (d : Dated Errand) (s : Session) : Session := (d.what.action { s with now := d.now }).2

/-- The session after errands one after the other. -/
def performAll (errands : List (Dated Errand)) (s : Session) : Session :=
  errands.foldl (fun s d => perform d s) s

/-- The entries of a run, in their order. -/
def chronicle : List (Dated Errand) → Session → List (Dated Entry)
  | [], _ => []
  | d :: errands, s =>
    (d.what.entries { s with now := d.now }).map (⟨d.now, ·⟩) ++ chronicle errands (perform d s)

/-- All entries of a run can be written. -/
def AllLogged (errands : List (Dated Errand)) (s : Session) : Prop :=
  AllWritten ((chronicle errands s).map (Dated.write s.config)) s.tree

instance (errands : List (Dated Errand)) (s : Session) : Decidable (AllLogged errands s) :=
  inferInstanceAs (Decidable (AllWritten _ _))

/-! ## One errand -/

variable {s : Session}

theorem loggable_of_written {entries : List Entry} {e : Entry}
    (h : Written s.config s.now entries s.tree) (hmem : e ∈ entries) :
    Loggable (e.path s.config) :=
  loggable_of_not_mem <|
    not_mem_text_of_allWritten (written_iff_allWritten.1 h) (List.mem_map_of_mem hmem)

/-- An exception that the data raised writes its entries, when they can be written. -/
theorem logs_crashEntries (identifier : Text) (data : Data) (raised : Raised)
    (hwritten : Written s.config s.now (crashEntries identifier data raised) s.tree) :
    ∃ outcome, ∀ s' : Session, s'.config = s.config →
      Logs (crashed identifier data raised) s' outcome (crashEntries identifier data raised) := by
  unfold crashEntries at hwritten ⊢
  cases hinner : raised.inner? with
  | some inner => exact ⟨_, fun s' _ => logs_crashed_of_inner identifier data hinner s'⟩
  | none =>
      rw [hinner] at hwritten
      have hcrash : Loggable s.config.crashLog := loggable_of_written hwritten (.head _)
      have herror : Loggable s.config.errorLog :=
        loggable_of_written hwritten (.tail _ (.head _))
      exact ⟨_, fun s' hconfig =>
        logs_crashed (hconfig ▸ herror) (hconfig ▸ hcrash) identifier data hinner⟩

/-- A rendering writes its entries, when they can be written. -/
theorem logs_render (hc : s.config.Valid) (identifier : Text) (data : Data)
    (hwritten : Written s.config s.now (renderEntries identifier data (prepare identifier s).1)
      s.tree) :
    ∃ outcome, Logs (render identifier data) s outcome
      (renderEntries identifier data (prepare identifier s).1) := by
  obtain ⟨s', hsteady, ⟨⟨program, template⟩, hprepare⟩ | ⟨f, -, hprepare⟩⟩ :=
    prepare_cases hc identifier
  · have hlogs : Logs (prepare identifier) s (.ok (program, template)) [] :=
      hsteady.logs (b := pure (program, template)) hprepare (logs_pure _ s')
    rw [hprepare] at hwritten ⊢
    obtain ⟨outcome, hrest⟩ : ∃ outcome, ∀ s' : Session, s'.config = s.config →
        Logs (invoke identifier template data) s' outcome
          (renderEntries identifier data (.ok (program, template))) := by
      cases happly : template.apply data with
      | ok text =>
          rw [renderEntries_of_applied happly]
          exact ⟨_, fun s' _ => logs_invoke_of_applied happly identifier s'⟩
      | error raised =>
          rw [renderEntries_of_raised happly] at hwritten ⊢
          rw [invoke_of_raised happly]
          exact logs_crashEntries identifier data raised hwritten
    exact ⟨outcome, hlogs.attempt.ok_bind hrest⟩
  · -- The last line is in the error log, whatever is announced before it.
    have hlast : ∃ f', (prepare identifier s).1 = .error f' := by
      rw [hprepare, announce_run_fst]
      exact ⟨_, rfl⟩
    obtain ⟨f', hf'⟩ := hlast
    have herror : Loggable s.config.errorLog := by
      rw [hf'] at hwritten
      have hmem : Entry.error (finalMessage identifier f') ∈
          renderEntries identifier data (.error f') := List.mem_append_right _ (.head _)
      exact loggable_of_written hwritten hmem
    have hlogs : Logs (prepare identifier) s (.error f) (f.announcement?.toList.map .error) :=
      hsteady.logs hprepare (logs_announce (hsteady.config ▸ herror) f)
    rw [hlogs.result]
    exact ⟨_, hlogs.attempt.bind fun s₁ hconfig => logs_failed (hconfig ▸ herror) identifier f⟩

/-- What an errand leaves, when its entries can be written. -/
theorem perform_tree (hc : s.config.Valid) (d : Dated Errand)
    (hwritten : Written s.config d.now (d.what.entries { s with now := d.now }) s.tree) :
    (perform d s).config = s.config ∧
      (perform d s).tree =
        journal s.config d.now (d.what.entries { s with now := d.now }) s.tree := by
  obtain ⟨now, errand⟩ := d
  have hlogs : ∃ r, Logs errand.action { s with now := now } r
      (errand.entries { s with now := now }) := by
    cases errand with
    | render identifier data =>
        obtain ⟨outcome, hrender⟩ := logs_render (s := { s with now := now }) hc identifier data
          hwritten
        exact ⟨_, hrender.discard⟩
    | logError message =>
        exact ⟨_, logs_logError (s := { s with now := now })
          (loggable_of_written (s := { s with now := now }) hwritten (.head _)) message⟩
    | logCrash identifier data report =>
        exact ⟨_, logs_logCrash (s := { s with now := now })
          (loggable_of_written (s := { s with now := now }) hwritten (.head _)) identifier data
          report⟩
  obtain ⟨r, hlogs⟩ := hlogs
  exact ⟨hlogs.config, hlogs.tree⟩

/-! ## Runs -/

/-- A run that goes on writes what it wrote before, and then the rest. -/
theorem chronicle_append (before later : List (Dated Errand)) (s : Session) :
    chronicle (before ++ later) s =
      chronicle before s ++ chronicle later (performAll before s) := by
  induction before generalizing s with
  | nil => rfl
  | cons d before ih =>
      rw [List.cons_append, chronicle, chronicle, ih, List.append_assoc]
      rfl

/-- What a run has written at some point can be written. -/
theorem AllLogged.take {errands : List (Dated Errand)} (h : AllLogged errands s) (n : Nat) :
    AllLogged (errands.take n) s := by
  rw [AllLogged, ← List.take_append_drop n errands, chronicle_append, List.map_append,
    allWritten_append] at h
  exact h.1

theorem map_write_dated (c : Config) (now : Text) (entries : List Entry) :
    (entries.map fun e => (⟨now, e⟩ : Dated Entry)).map (Dated.write c) =
      entries.map (Entry.write c now) := List.map_map

/-- A run writes the entries of its chronicle, when they can be written. -/
theorem performAll_tree {errands : List (Dated Errand)} (hc : s.config.Valid)
    (hlogged : AllLogged errands s) :
    (performAll errands s).config = s.config ∧
      (performAll errands s).tree =
        writeAll ((chronicle errands s).map (Dated.write s.config)) s.tree := by
  induction errands generalizing s with
  | nil => exact ⟨rfl, rfl⟩
  | cons d errands ih =>
      rw [AllLogged, chronicle, List.map_append, map_write_dated, allWritten_append] at hlogged
      obtain ⟨hfirst, hrest⟩ := hlogged
      obtain ⟨hconfig, htree⟩ := perform_tree hc d (written_iff_allWritten.2 hfirst)
      rw [journal_eq_writeAll] at htree
      obtain ⟨hconfig', htree'⟩ := ih (s := perform d s) (hconfig ▸ hc) (by
        rw [AllLogged, hconfig, htree]
        exact hrest)
      refine ⟨hconfig'.trans hconfig, ?_⟩
      rw [chronicle, List.map_append, map_write_dated, writeAll_append, ← htree, ← hconfig]
      exact htree'

/-- The bytes of the entries of a chronicle that belong to the file at a location. -/
def chronicled (c : Config) (tree : File.Tree) (entries : List (Dated Entry))
    (l : File.Location) : List UInt8 :=
  entries.flatMap fun e => if tree.locate (e.what.path c) = .ok l then e.what.bytes e.now else []

/-- A file gains the bytes of those entries that are found, when it gains nothing else. -/
theorem chronicled_eq {α : Type} {find? : Dated Entry → Option α} {bytes : α → List UInt8}
    {c : Config} {tree : File.Tree} {l : File.Location} (entries : List (Dated Entry))
    (h : ∀ e : Dated Entry,
      (if tree.locate (e.what.path c) = .ok l then e.what.bytes e.now else []) =
        (find? e).elim [] bytes) :
    chronicled c tree entries l = (entries.filterMap find?).flatMap bytes := by
  induction entries with
  | nil => rfl
  | cons e entries ih =>
      have hcons : chronicled c tree (e :: entries) l =
          (find? e).elim [] bytes ++ chronicled c tree entries l := by
        rw [← h e]
        rfl
      rw [hcons, ih, List.filterMap_cons]
      cases find? e <;> rfl

/-- The log of an entry of a run is there after it. -/
theorem exists_locate_of_mem_chronicle {errands : List (Dated Errand)} (hc : s.config.Valid)
    (hlogged : AllLogged errands s) {e : Dated Entry} (hmem : e ∈ chronicle errands s) :
    ∃ l, (performAll errands s).tree.locate (e.what.path s.config) = .ok l := by
  obtain ⟨-, htree⟩ := performAll_tree hc hlogged
  rw [htree]
  exact exists_locate_of_allWritten hlogged (List.mem_map_of_mem (f := Dated.write s.config) hmem)

/-- In a run every file gains the entries that belong to it, in their order. -/
theorem contents_performAll {errands : List (Dated Errand)} (hc : s.config.Valid)
    (hlogged : AllLogged errands s) (l : File.Location) :
    (performAll errands s).tree.contents l = s.tree.contents l ++
      chronicled s.config (performAll errands s).tree (chronicle errands s) l := by
  obtain ⟨-, htree⟩ := performAll_tree hc hlogged
  have hgains := (gains_writeAll hlogged).contents l
  rw [← htree] at hgains
  rw [hgains, added, List.flatMap_map]
  rfl

end Render
end Stencil
