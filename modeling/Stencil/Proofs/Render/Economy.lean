import Stencil.Proofs.Render.History

/-!
# Work is done once

A session that gives up no entries reads every file and compiles every program at most once
from one clearing of the cache to the next, however often they are asked for, whatever
fails meanwhile, and whatever templates a program comes from.

Main results:

- Definition `timesMade`: how often a file was read or a program compiled.
- Structure `Economical` and theorem `upkeep_economical`: the invariant, and that the stages
  of rendering keep it.
- Theorem `work_is_done_once`: what the history of a run shows.
-/

namespace Stencil
namespace Render

open Stencil.Render.Action

variable {c : Config} {disk : File.Tree} {key : Key} {item : Item} {event : Event}
  {events : List Event} {cache : Cache Key Item}

/-! ## Counting -/

/-- Whether an event makes an entry for a key: the file is read, or the program compiled,
with success. -/
def Event.makes (key : Key) (event : Event) : Bool :=
  event.entry?.any fun (k, _) => k = key

/-- How often an entry was made for a key. -/
def timesMade (key : Key) (events : List Event) : Nat := events.countP (Event.makes key)

theorem Event.makes_iff : event.makes key = true ↔ ∃ item, event.entry? = some (key, item) := by
  unfold Event.makes
  rcases event.entry? with _ | ⟨k, i⟩
  · simp
  · simp [Prod.ext_iff]

theorem timesMade_append (key : Key) (first second : List Event) :
    timesMade key (first ++ second) = timesMade key first + timesMade key second :=
  List.countP_append

theorem timesMade_eq_zero_iff :
    timesMade key events = 0 ↔ ∀ e ∈ events, ∀ item, e.entry? ≠ some (key, item) := by
  unfold timesMade
  rw [List.countP_eq_zero]
  simp only [Event.makes_iff, not_exists, ne_eq]

theorem timesMade_singleton_eq_zero (h : ∀ item, event.entry? ≠ some (key, item)) :
    timesMade key [event] = 0 := by
  rw [timesMade_eq_zero_iff]
  intro e he
  rw [List.mem_singleton.1 he]
  exact h

theorem timesMade_singleton (h : event.entry? = some (key, item)) : timesMade key [event] = 1 := by
  rw [timesMade, List.countP_singleton, if_pos (Event.makes_iff.2 ⟨item, h⟩)]

/-! ## The invariant -/

/-- A cache that has kept all that was made since it was cleared, and a history that shows
nothing made twice between two clearings. -/
structure Economical (c : Config) (cache : Cache Key Item) (events : List Event) : Prop
    extends Recorded c cache events where
  present : ∀ recent, recent <:+ events → .cleared ∉ recent → ∀ key, key ∉ cache.keys →
    timesMade key recent = 0
  once : ∀ stretch, stretch <:+: events → .cleared ∉ stretch → ∀ key, timesMade key stretch ≤ 1

theorem economical_start (c : Config) : Economical c (.empty c.cachePolicy) [] where
  toRecorded := recorded_of_entries_eq_nil rfl rfl
  present recent hrecent _ key _ := by
    rw [List.suffix_nil.1 hrecent]
    rfl
  once stretch hstretch _ key := by
    rw [List.infix_nil.1 hstretch]
    exact Nat.zero_le 1

/-- One more event: it has to make its entry for a key that was missed, if it makes one. -/
theorem Economical.concat {cache' : Cache Key Item} (h : Economical c cache events)
    (hrecorded : Recorded c cache' (events ++ [event]))
    (hkeys : ∀ key ∈ cache.keys, key ∈ cache'.keys)
    (hmade : ∀ key item, event.entry? = some (key, item) → key ∉ cache.keys ∧ key ∈ cache'.keys) :
    Economical c cache' (events ++ [event]) where
  toRecorded := hrecorded
  present recent hrecent hcleared key hkey := by
    rcases List.suffix_concat_iff.1 hrecent with rfl | ⟨earlier, rfl, hearlier⟩
    · rfl
    · rw [List.mem_append, not_or] at hcleared
      have hold := h.present earlier hearlier hcleared.1 key fun hmem => hkey (hkeys _ hmem)
      have hnew := timesMade_singleton_eq_zero fun item hentry => hkey (hmade key item hentry).2
      rw [timesMade_append, hold, hnew]
  once stretch hstretch hcleared key := by
    rcases List.infix_concat_iff.1 hstretch with hsuffix | hinfix
    · rcases List.suffix_concat_iff.1 hsuffix with rfl | ⟨earlier, rfl, hearlier⟩
      · exact Nat.zero_le 1
      · rw [List.mem_append, not_or] at hcleared
        rw [timesMade_append]
        by_cases hnew : ∃ item, event.entry? = some (key, item)
        · -- A key that was missed has not been made since the cache was cleared.
          obtain ⟨item, hentry⟩ := hnew
          rw [h.present earlier hearlier hcleared.1 key (hmade key item hentry).1, Nat.zero_add]
          exact (timesMade_singleton hentry).le
        · rw [timesMade_singleton_eq_zero fun item hentry => hnew ⟨item, hentry⟩, Nat.add_zero]
          exact h.once earlier hearlier.isInfix hcleared.1 key
    · exact h.once stretch hinfix hcleared key

/-- Nothing has been made since a cache was just cleared. -/
theorem eq_nil_of_suffix_cleared {recent : List Event} (h : recent <:+ events ++ [.cleared])
    (hcleared : .cleared ∉ recent) : recent = [] := by
  rcases List.suffix_concat_iff.1 h with rfl | ⟨earlier, rfl, -⟩
  · rfl
  · simp at hcleared

theorem Economical.clear (h : Economical c cache events) :
    Economical c cache.clear (events ++ [.cleared]) where
  toRecorded := h.toRecorded.clear
  present recent hrecent hcleared key _ := by
    rw [eq_nil_of_suffix_cleared hrecent hcleared]
    rfl
  once stretch hstretch hcleared key := by
    rcases List.infix_concat_iff.1 hstretch with hsuffix | hinfix
    · rw [eq_nil_of_suffix_cleared hsuffix hcleared]
      exact Nat.zero_le 1
    · exact h.once stretch hinfix hcleared key

/-- What was made is not made again until the cache is cleared. -/
theorem Economical.timesMade_newer (h : Economical c cache events) {older newer : List Event}
    (hevents : events = older ++ event :: newer) (hmade : event.entry? = some (key, item))
    (hcleared : .cleared ∉ newer) : timesMade key newer = 0 := by
  have hinfix : event :: newer <:+: events := ⟨older, [], by rw [hevents, List.append_nil]⟩
  have hstretch : .cleared ∉ event :: newer := by
    rw [List.mem_cons, not_or]
    exact ⟨(Event.ne_cleared_of_entry? hmade).symm, hcleared⟩
  have honce := h.once _ hinfix hstretch key
  rw [← List.singleton_append, timesMade_append, timesMade_singleton hmade] at honce
  omega

theorem Recorded.keys_write (h : Recorded c cache events) (hsize : c.cacheSize = none)
    (hmiss : Misses cache key) (item : Item) :
    (cache.write key item).keys = cache.keys ++ [key] := by
  have hpolicy : cache.policy = .keepAll := by rw [h.policy, Config.cachePolicy, hsize]
  have hkey := hmiss.not_mem_keys fun k i hi => (h.last k i hi).fits
  rw [Cache.keys, Cache.entries_write_of_not_mem hpolicy hkey, List.map_append]
  rfl

/-- The stages of rendering do no work twice. -/
theorem upkeep_economical (hsize : c.cacheSize = none) (disk : File.Tree) :
    Upkeep disk (Economical c) where
  use key h :=
    { toRecorded := (upkeep_recorded c disk).use key h.toRecorded
      present := fun recent hrecent hcleared k hk =>
        h.present recent hrecent hcleared k fun hold => hk (Cache.mem_keys_touch.2 hold)
      once := h.once }
  fail event hnone hcleared h :=
    h.concat ((upkeep_recorded c disk).fail event hnone hcleared h.toRecorded) (fun _ hk => hk)
      fun key item hentry => by simp [hnone] at hentry
  make event key item hentry _ hmiss h := by
    have hkeys := h.keys_write hsize hmiss item
    refine h.concat (h.write hentry hmiss) (fun k hk => ?_) fun k i hk => ?_
    · rw [hkeys]
      exact List.mem_append_left _ hk
    · obtain ⟨rfl, -⟩ := Prod.mk.inj (Option.some.inj (hentry.symm.trans hk))
      rw [hkeys]
      exact ⟨hmiss.not_mem_keys fun k i hi => (h.last k i hi).fits, by simp⟩

/-! ## Programs that come again -/

theorem perform_prepare (identifier : Text) (s : Session) :
    (Operation.ask (.prepare identifier)).perform s = (prepare identifier s).2 := by
  rw [Operation.perform, Request.perform, map_run]

/-- What was just compiled is an entry. -/
theorem Recorded.mem_of_compile {s s' : Session} (h : Recorded c s.cache s.events)
    (hsize : c.cacheSize = none) {program : Template.Program} {identifier : Text}
    {template : Template.Compiled} (hrun : compile program identifier s = (.ok template, s')) :
    (.program program, .compiled template) ∈ s'.cache.entries := by
  rcases hit_or_misses s.cache (.program program) with ⟨item, hfind, hfits⟩ | hmiss
  · obtain ⟨found, rfl⟩ := Key.fits_program_iff.1 hfits
    rw [compile_of_hit hfind] at hrun
    cases hrun
    exact Cache.mem_touch.2 (Cache.mem_of_find? hfind)
  · have hkey := hmiss.not_mem_keys fun k i hi => (h.last k i hi).fits
    have hpolicy : s.cache.policy = .keepAll := by rw [h.policy, Config.cachePolicy, hsize]
    rw [compile_of_miss identifier hmiss] at hrun
    cases hcompiled : Template.compile program identifier with
    | ok found =>
        rw [hcompiled] at hrun
        cases hrun
        dsimp only
        rw [Cache.entries_write_of_not_mem hpolicy hkey]
        exact List.mem_append_right _ (List.mem_singleton.2 rfl)
    | error error =>
        rw [hcompiled] at hrun
        exact absurd hrun (announce_ne_ok _ _ _ _)

/-- After a page was prepared, its program is the last one of its kind in the history. -/
theorem lastMade_of_prepare {s s' : Session} (hc : c.Valid) (hsize : c.cacheSize = none)
    (hs : Within c s.tree (Economical c) s) {page : Text} {program : Template.Program}
    {template : Template.Compiled} (hrun : prepare page s = (.ok (program, template), s')) :
    Within c s'.tree (Economical c) s' ∧
      LastMade (.program program) (.compiled template) s'.events := by
  have hnext : Within c s'.tree (Economical c) s' := by
    have := (proceeds_prepare (upkeep_economical hsize s.tree) hc page hs).within hs
    rwa [hrun] at this
  obtain ⟨s₁, hs₁, hcompile⟩ := exists_compile_of_prepare (upkeep_economical hsize _) hc hs hrun
  exact ⟨hnext, hnext.kept.last _ _ (hs₁.kept.toRecorded.mem_of_compile hsize hcompile)⟩

/-! ## Runs -/

/-- Between two clearings, or before the first or after the last one, every file is read and
every program is compiled with success at most once.  When two pages come to the same
program, they get the same template, from the one compilation that was finished when the
first of them was prepared. -/
theorem work_is_done_once {c : Config} (hc : c.Valid) (hsize : c.cacheSize = none)
    (tree : File.Tree) (now : Text) (operations : List Operation) :
    let s := (Session.start c tree now).run operations
    (∀ stretch, stretch <:+: s.events → .cleared ∉ stretch → ∀ key, timesMade key stretch ≤ 1) ∧
      ∀ first second meanwhile program template template' s₁ s₂,
        prepare first s = (.ok (program, template), s₁) → .ask .clearCache ∉ meanwhile →
        prepare second (s₁.run meanwhile) = (.ok (program, template'), s₂) →
        template' = template ∧ ∃ older identifier newer,
          s₂.events = older ++ .compiled identifier program (some template) :: newer ∧
          older.length < s₁.events.length ∧ .cleared ∉ newer ∧
          timesMade (.program program) newer = 0 := by
  intro s
  have hs : Within c s.tree (Economical c) s :=
    within_run (upkeep_economical hsize) hc ⟨rfl, rfl, economical_start c⟩ Economical.clear
      operations
  refine ⟨hs.kept.once, fun first second meanwhile program template template' s₁ s₂ hfirst
    hmeanwhile hsecond => ?_⟩
  obtain ⟨hs₁, hlast⟩ := lastMade_of_prepare hc hsize hs hfirst
  have hmet : Within c (s₁.run meanwhile).tree (Economical c) (s₁.run meanwhile) :=
    within_run (upkeep_economical hsize) hc hs₁ Economical.clear meanwhile
  obtain ⟨hs₂, hlast'⟩ := lastMade_of_prepare hc hsize hmet hsecond
  -- From the first preparation to the second one the history grows without clearing.
  obtain ⟨later, hlater, hclear⟩ : ∃ later, s₂.events = s₁.events ++ later ∧ .cleared ∉ later := by
    have hrun : s₁.run (meanwhile ++ [.ask (.prepare second)]) = s₂ := by
      rw [Session.run_concat, perform_prepare, hsecond]
    rw [← hrun]
    refine exists_events_run (hs₁.config ▸ hc) ?_
    simpa using hmeanwhile
  obtain ⟨older, event, newer, hevents, hmade, hnewer⟩ := hlast
  obtain ⟨identifier, found, rfl, hfound⟩ := Event.entry?_eq_program_iff.1 hmade
  obtain rfl := Item.compiled.inj hfound
  have hcleared : .cleared ∉ newer ++ later := by
    rw [List.mem_append, not_or]
    exact ⟨fun h => (hnewer _ h).1 rfl, hclear⟩
  have hsplit : s₂.events =
      older ++ .compiled identifier program (some template) :: (newer ++ later) := by
    rw [hlater, hevents, List.append_assoc, List.cons_append]
  have hnone : timesMade (.program program) (newer ++ later) = 0 :=
    hs₂.kept.timesMade_newer hsplit hmade hcleared
  have hlasting : LastMade (.program program) (.compiled template) s₂.events :=
    ⟨older, _, newer ++ later, hsplit, rfl, fun e he =>
      ⟨fun h => hcleared (h ▸ he), timesMade_eq_zero_iff.1 hnone e he⟩⟩
  refine ⟨Item.compiled.inj (hlast'.unique hlasting), older, identifier, newer ++ later, hsplit, ?_,
    hcleared, hnone⟩
  simp [hevents]

/-- Two pages of one text. -/
def twinTree : File.Tree :=
  ⟨[], [(["a"], .file (Text.Utf8.encode "\x7b\x7by\x7d\x7d")),
    (["b"], .file (Text.Utf8.encode "\x7b\x7by\x7d\x7d"))]⟩

/-- The first page is given up and rendered from the cache, and a missing one is asked for. -/
def twinChanges : List Operation :=
  [.delete (.ofText "a"), .ask (.render "a" (.ofTree .null)), .ask (.load "gone")]

/-- The second page is not compiled, because the first one was. -/
theorem work_is_done_once_twins :
    let s := (Session.start .standard twinTree "now").run [.ask (.load "gone"), .ask (.load "a")]
    let s₁ := (prepare "a" s).2
    let s₂ := (prepare "b" (s₁.run twinChanges)).2
    timesMade (.source "a") s.events = 1 ∧
      ∃ older identifier newer,
        s₂.events =
          older ++ .compiled identifier ⟨[.lookup "y"]⟩ (some ⟨[.path ["y"]]⟩) :: newer ∧
        older.length < s₁.events.length ∧ .cleared ∉ newer ∧
        timesMade (.program ⟨[.lookup "y"]⟩) newer = 0 := by
  intro s s₁ s₂
  have hfirst : (prepare "a" s).1 = .ok (⟨[.lookup "y"]⟩, ⟨[.path ["y"]]⟩) := by decide +kernel
  have hsecond : (prepare "b" (s₁.run twinChanges)).1 =
      .ok (⟨[.lookup "y"]⟩, ⟨[.path ["y"]]⟩) := by decide +kernel
  obtain ⟨honce, htwins⟩ := work_is_done_once Config.valid_standard rfl twinTree "now"
    [.ask (.load "gone"), .ask (.load "a")]
  have hle := honce s.events (List.infix_refl _) (by decide +kernel) (.source "a")
  have hpos : 0 < timesMade (.source "a") s.events := by decide +kernel
  refine ⟨by omega, ?_⟩
  exact (htwins "a" "b" twinChanges _ _ _ s₁ s₂ (run_eq_of_fst hfirst)
    (by simp [twinChanges, Operation.delete]) (run_eq_of_fst hsecond)).2

end Render
end Stencil
