import Stencil.Proofs.Render.Operations

/-!
# The cache follows the history

Files change under a cache, entries are given up while requests are served, and requests
fail after some of their work is done.  Still every entry is the last one that the history
has for its key since the cache was cleared: a text is what its file held when it was read
for the last time, and a compiled template is what its program is compiled to.

Main results:

- Definition `LastMade`: an entry as the history has it.
- Structure `Recorded` and theorem `upkeep_recorded`: the invariant, and that the stages of
  rendering keep it.
- Theorem `cache_matches_history`: the cache after every run of operations.
-/

namespace Stencil
namespace Render

open Stencil.Render.Action

variable {c : Config} {key : Key} {item : Item} {event : Event} {events : List Event}
  {cache : Cache Key Item}

/-! ## Entries in the history -/

/-- An entry is the last one that was made for its key since the cache was cleared. -/
def LastMade (key : Key) (item : Item) (events : List Event) : Prop :=
  ∃ older event newer, events = older ++ event :: newer ∧ event.entry? = some (key, item) ∧
    ∀ e ∈ newer, e ≠ .cleared ∧ ∀ other, e.entry? ≠ some (key, other)

theorem lastMade_concat (h : event.entry? = some (key, item)) :
    LastMade key item (events ++ [event]) :=
  ⟨events, event, [], rfl, h, by simp⟩

/-- What happens to other keys does not matter. -/
theorem LastMade.concat (h : LastMade key item events) (hcleared : event ≠ .cleared)
    (hother : ∀ other, event.entry? ≠ some (key, other)) :
    LastMade key item (events ++ [event]) := by
  obtain ⟨older, made, newer, rfl, hmade, hnewer⟩ := h
  refine ⟨older, made, newer ++ [event], by simp, hmade, fun e he => ?_⟩
  rcases List.mem_append.1 he with hold | hlast
  · exact hnewer e hold
  · rw [List.mem_singleton.1 hlast]
    exact ⟨hcleared, hother⟩

/-- There is only one last entry for a key. -/
theorem LastMade.unique {item' : Item} (h : LastMade key item events)
    (h' : LastMade key item' events) : item = item' := by
  obtain ⟨older, event, newer, hevents, hmade, hnewer⟩ := h
  obtain ⟨older', event', newer', hevents', hmade', hnewer'⟩ := h'
  rw [hevents] at hevents'
  have hsame : event = event' := by
    rcases List.append_eq_append_iff.1 hevents' with ⟨rest, -, hrest⟩ | ⟨rest, -, hrest⟩
    · cases rest with
      | nil => exact (List.cons.inj hrest).1
      | cons e rest =>
          have hlater : event' ∈ newer := by simp [(List.cons.inj hrest).2]
          exact absurd hmade' ((hnewer _ hlater).2 item')
    · cases rest with
      | nil => exact (List.cons.inj hrest).1.symm
      | cons e rest =>
          have hlater : event ∈ newer' := by simp [(List.cons.inj hrest).2]
          exact absurd hmade ((hnewer' _ hlater).2 item)
  rw [hsame, hmade'] at hmade
  exact (Prod.mk.inj (Option.some.inj hmade)).2.symm

theorem LastMade.fits (h : LastMade key item events) : key.Fits item := by
  obtain ⟨_, event, _, -, hmade, -⟩ := h
  exact event.fits_of_entry? hmade

theorem Event.entry?_eq_source_iff {identifier : Text} :
    event.entry? = some (.source identifier, item) ↔
      ∃ text, event = .read identifier (some text) ∧ item = .source text := by
  constructor
  · intro h
    unfold Event.entry? at h
    split at h <;> cases h
    exact ⟨_, rfl, rfl⟩
  · rintro ⟨text, rfl, rfl⟩
    rfl

theorem Event.entry?_eq_program_iff {program : Template.Program} :
    event.entry? = some (.program program, item) ↔
      ∃ identifier template, event = .compiled identifier program (some template) ∧
        item = .compiled template := by
  constructor
  · intro h
    unfold Event.entry? at h
    split at h <;> cases h
    exact ⟨_, _, rfl, rfl⟩
  · rintro ⟨identifier, template, rfl, rfl⟩
    rfl

/-! ## The invariant -/

/-- Where every item fits its key, a cache that has nothing to offer for a key has no entry
under it. -/
theorem Misses.not_mem_keys (h : Misses cache key)
    (hfits : ∀ key item, (key, item) ∈ cache.entries → key.Fits item) : key ∉ cache.keys := by
  intro hkey
  cases hfind : cache.find? key with
  | none => exact Cache.find?_eq_none_iff.1 hfind hkey
  | some item => exact h item hfind (hfits _ _ (Cache.mem_of_find? hfind))

/-- A cache that follows the history. -/
structure Recorded (c : Config) (cache : Cache Key Item) (events : List Event) : Prop where
  policy : cache.policy = c.cachePolicy
  distinct : cache.keys.Nodup
  bounded : ∀ n, c.cacheSize = some n → cache.size ≤ n
  last : ∀ key item, (key, item) ∈ cache.entries → LastMade key item events

theorem recorded_of_entries_eq_nil (hpolicy : cache.policy = c.cachePolicy)
    (hentries : cache.entries = []) : Recorded c cache events where
  policy := hpolicy
  distinct := by simp [Cache.keys, hentries]
  bounded := by simp [Cache.size, hentries]
  last := by simp [hentries]

theorem Recorded.clear (h : Recorded c cache events) :
    Recorded c cache.clear (events ++ [.cleared]) :=
  recorded_of_entries_eq_nil h.policy rfl

theorem Recorded.write (h : Recorded c cache events) (hmade : event.entry? = some (key, item))
    (hmiss : Misses cache key) : Recorded c (cache.write key item) (events ++ [event]) where
  policy := h.policy
  distinct := Cache.nodup_keys_write h.distinct
  bounded n hn := Cache.size_write_le (by rw [h.policy, Config.cachePolicy, hn])
  last key' item' hmem := by
    rcases Cache.mem_of_mem_write hmem with hold | hnew
    · refine (h.last _ _ hold).concat (Event.ne_cleared_of_entry? hmade) fun other hother => ?_
      -- An entry that was there is not under the key that was missed.
      obtain ⟨rfl, -⟩ := Prod.mk.inj (Option.some.inj (hmade.symm.trans hother))
      exact hmiss.not_mem_keys (fun k i hi => (h.last k i hi).fits) (Cache.mem_keys.2 ⟨_, hold⟩)
    · obtain ⟨rfl, rfl⟩ := Prod.mk.inj hnew
      exact lastMade_concat hmade

/-- The stages of rendering keep a cache that follows the history. -/
theorem upkeep_recorded (c : Config) (disk : File.Tree) : Upkeep disk (Recorded c) where
  use key h :=
    { policy := (Cache.policy_touch key _).trans h.policy
      distinct := Cache.nodup_keys_touch h.distinct
      bounded := fun n hn => (Cache.size_touch key _).trans_le (h.bounded n hn)
      last := fun k i hi => h.last k i (Cache.mem_touch.1 hi) }
  fail event hnone hcleared h :=
    { h with
      last := fun k i hi => (h.last k i hi).concat hcleared fun other => by simp [hnone] }
  make event _ _ hmade _ hmiss h := h.write hmade hmiss

/-! ## Runs -/

/-- The text that the file of an identifier held when it was read for the last time in a
run.  It was read by an operation that began over files that hold this text, and since then
the cache was not cleared. -/
def LastRead (c : Config) (tree : File.Tree) (now : Text) (operations : List Operation)
    (identifier text : Text) : Prop :=
  ∃ before operation later, operations = before ++ operation :: later ∧
    let s := (Session.start c tree now).run before
    readTree s.tree (.ofText identifier) = .ok text ∧
    ∃ older newer,
      ((Session.start c tree now).run operations).events =
        older ++ .read identifier (some text) :: newer ∧
      s.events.length ≤ older.length ∧ older.length < (operation.perform s).events.length ∧
      ∀ e ∈ newer, e ≠ .cleared ∧ ∀ other, e ≠ .read identifier (some other)

/-- After every run, whatever happened to the files, was given up or failed, keys are
distinct, there are not too many entries, every text is what the last reading of its file
gave, and every compiled template is what its program is compiled to. -/
theorem cache_matches_history {c : Config} (hc : c.Valid) (tree : File.Tree) (now : Text)
    (operations : List Operation) :
    let s := (Session.start c tree now).run operations
    s.cache.keys.Nodup ∧ (∀ n, c.cacheSize = some n → s.cache.size ≤ n) ∧
      (∀ identifier item, (.source identifier, item) ∈ s.cache.entries →
        ∃ text, item = .source text ∧ LastRead c tree now operations identifier text) ∧
      ∀ program item, (.program program, item) ∈ s.cache.entries →
        ∃ template, item = .compiled template ∧
          ∀ identifier, Template.compile program identifier = .ok template := by
  intro s
  have hrecorded : Recorded c s.cache s.events :=
    (within_run (upkeep_recorded c) hc ⟨rfl, rfl, recorded_of_entries_eq_nil rfl rfl⟩
      Recorded.clear operations).kept
  refine ⟨hrecorded.distinct, hrecorded.bounded, fun identifier item hmem => ?_,
    fun program item hmem => ?_⟩
  · obtain ⟨older, event, newer, hevents, hmade, hnewer⟩ := hrecorded.last _ _ hmem
    obtain ⟨text, rfl, rfl⟩ := Event.entry?_eq_source_iff.1 hmade
    have hat : s.events[older.length]? = some (.read identifier (some text)) := by simp [hevents]
    obtain ⟨before, operation, later, hoperations, hfrom, hto, hread⟩ :=
      exists_operation_of_event hc hat
    refine ⟨text, rfl, before, operation, later, hoperations, hread, older, newer, hevents, hfrom,
      hto, fun e he => ⟨(hnewer e he).1, ?_⟩⟩
    rintro other rfl
    exact (hnewer _ he).2 (.source other) rfl
  · obtain ⟨older, event, newer, hevents, hmade, -⟩ := hrecorded.last _ _ hmem
    obtain ⟨identifier, template, rfl, rfl⟩ := Event.entry?_eq_program_iff.1 hmade
    have hat : s.events[older.length]? = some (.compiled identifier program (some template)) := by
      simp [hevents]
    obtain ⟨_, _, _, _, _, _, hcompiled⟩ := exists_operation_of_event hc hat
    exact ⟨template, rfl, Template.compile_eq_ok hcompiled⟩

/-- A session that keeps two entries. -/
def pairConfig : Config := { Config.standard with cacheSize := some 2 }

/-- A page is prepared, and then others write it anew and delete it. -/
def pageChanges : List Operation :=
  [.write (.ofText "page") (Text.Utf8.encode "x\x7b\x7by\x7d\x7d"), .ask (.prepare "page"),
    .write (.ofText "page") (Text.Utf8.encode "z"), .ask (.load "page"), .ask (.load "gone"),
    .delete (.ofText "page")]

/-- The page that is gone is still there as it was prepared. -/
theorem cache_matches_history_deleted :
    let s := (Session.start pairConfig (.bare []) "now").run pageChanges
    s.cache.size = 2 ∧ s.tree.isFile (.ofText "page") = .ok false ∧
      LastRead pairConfig (.bare []) "now" pageChanges "page" "x\x7b\x7by\x7d\x7d" := by
  intro s
  have hvalid : pairConfig.Valid :=
    ⟨Config.valid_standard.proper, Config.valid_standard.basePath, by simp [pairConfig]⟩
  have hentry : (.source "page", .source "x\x7b\x7by\x7d\x7d") ∈ s.cache.entries := by
    decide +kernel
  obtain ⟨-, -, hsources, -⟩ := cache_matches_history hvalid (.bare []) "now" pageChanges
  obtain ⟨text, htext, hread⟩ := hsources _ _ hentry
  refine ⟨by decide +kernel, by decide +kernel, ?_⟩
  rw [Item.source.inj htext]
  exact hread

end Render
end Stencil
