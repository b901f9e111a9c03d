import Stencil.Proofs.Render.History
import Stencil.Proofs.Template.Looking

/-!
# What a failed rendering leaves in the cache

Rendering writes to the cache at many points and can fail between any two of them.  What it
leaves then is whole: the texts of the files that it has read, and no compiled template, as a
template is only kept when everything before the data come in has succeeded.  From then on the
cache is the same for all data, whatever they make of the template.

Main results:

- Definition `Reads`: an action that reads files and compiles nothing.
- Theorem `uncompiling_prepare`: when the stages before the data come in fail, nothing was
  compiled.
- Structure `Grown` and theorem `upkeep_grown`: a cache that has grown by what was made.
- Theorem `failed_render_leaves_texts`: the cache after a rendering that fails.
-/

namespace Stencil
namespace Render

open Stencil.Render.Action

variable {α β : Type} {c : Config} {disk : File.Tree} {s : Session} {events : List Event}
  {cache : Cache Key Item}

/-! ## Actions that only read -/

/-- No template was compiled with success. -/
def Uncompiled (events : List Event) : Prop :=
  ∀ event ∈ events, ∀ program item, event.entry? ≠ some (.program program, item)

/-- An action that compiles no template when it ends in certain ways. -/
def Uncompiling (P : Except Failure α → Prop) (a : Action α) : Prop :=
  ∀ s, P (a s).1 → ∃ new, (a s).2.events = s.events ++ new ∧ Uncompiled new

/-- An action that compiles no template, however it ends. -/
def Reads (a : Action α) : Prop := Uncompiling (fun _ => True) a

theorem uncompiled_nil : Uncompiled [] := by simp [Uncompiled]

/-- An event that is no successful compilation. -/
theorem uncompiled_singleton {event : Event}
    (h : ∀ identifier program template, event ≠ .compiled identifier program (some template)) :
    Uncompiled [event] := by
  intro e he program item hentry
  obtain ⟨identifier, template, hcompiled, -⟩ := Event.entry?_eq_program_iff.1 hentry
  exact h identifier program template (List.mem_singleton.1 he ▸ hcompiled)

/-- Events without a compilation, and more of them. -/
theorem Uncompiled.append {first second : List Event} (h : Uncompiled first)
    (h' : Uncompiled second) : Uncompiled (first ++ second) :=
  fun event he => (List.mem_append.1 he).elim (h event) (h' event)

/-- An action that leaves the history alone reads nothing. -/
theorem reads_of_events {a : Action α} (h : ∀ s, (a s).2.events = s.events) : Reads a :=
  fun s _ => ⟨[], by rw [h, List.append_nil], uncompiled_nil⟩

theorem Blind.cache_eq {a : Action α} (ha : Blind a) (s : Session) : (a s).2.cache = s.cache := by
  obtain ⟨effect, heffect⟩ := ha
  rw [heffect s]

/-- A blind action leaves no events. -/
theorem Blind.events_eq {a : Action α} (ha : Blind a) (s : Session) :
    (a s).2.events = s.events := by
  obtain ⟨effect, heffect⟩ := ha
  rw [heffect s]

theorem Blind.reads {a : Action α} (ha : Blind a) : Reads a := reads_of_events ha.events_eq

theorem reads_pure (v : α) : Reads (pure v : Action α) := (blind_pure v).reads

/-- Looking at the session is not recorded. -/
theorem reads_get : Reads (get : Action Session) := reads_of_events fun _ => rfl

/-- After reading, the action may compile if it could before. -/
theorem Reads.bind {P : Except Failure β → Prop} {a : Action α} {f : α → Action β} (ha : Reads a)
    (hf : ∀ v, Uncompiling P (f v)) : Uncompiling P (a >>= f) := by
  intro s
  obtain ⟨first, hfirst, hfirst'⟩ := ha s trivial
  rw [bind_run]
  rcases hrun : a s with ⟨e | v, s'⟩
  · rw [hrun] at hfirst
    exact fun _ => ⟨first, hfirst, hfirst'⟩
  · rw [hrun] at hfirst
    intro hend
    obtain ⟨second, hsecond, hsecond'⟩ := hf v s' hend
    refine ⟨first ++ second, ?_, hfirst'.append hsecond'⟩
    rw [hsecond, hfirst, List.append_assoc]

/-- A failure that is caught leaves the same events. -/
theorem Reads.attempt {a : Action α} (ha : Reads a) : Reads (attempt a) := ha

theorem reads_modifyCache (change : Cache Key Item → Cache Key Item) :
    Reads (modifyCache change) := reads_of_events fun _ => rfl

theorem reads_isFile (path : File.Path) : Reads (isFile path) :=
  reads_of_events fun s => by rw [isFile_run]

theorem reads_refuse (error : Template.Error) : Reads (refuse error : Action α) :=
  (blind_logError _).reads.bind fun _ => (blind_throw _).reads

/-- A file that is read is recorded with its text, and one that cannot be read without. -/
theorem reads_readText (identifier : Text) : Reads (readText identifier) := by
  have hrecord : ∀ text, Reads (record (.read identifier text)) :=
    fun text s _ => ⟨_, rfl, uncompiled_singleton (by simp)⟩
  refine reads_get.bind fun s => (hrecord _).bind fun _ => ?_
  split
  · exact reads_pure _
  · exact (blind_throw _).reads

/-- A text that is fetched is read, and then kept. -/
theorem reads_fetch (identifier : Text) : Reads (fetch identifier) := by
  refine (reads_isFile _).bind fun found => ?_
  split
  · exact reads_readText identifier
  · exact reads_refuse _

theorem reads_load (identifier : Text) : Reads (load identifier) := by
  refine reads_get.bind fun s => ?_
  split
  · exact (reads_modifyCache _).bind fun _ => reads_pure _
  · exact (reads_fetch identifier).bind fun _ => (reads_modifyCache _).bind fun _ => reads_pure _

theorem reads_loadOrEmpty (identifier : Text) : Reads (loadOrEmpty identifier) := by
  refine (reads_load identifier).attempt.bind fun result => ?_
  split
  · exact reads_pure _
  · exact reads_pure _
  · exact (blind_throw _).reads

/-- Expansion reads what its components read, up to the first that fails. -/
theorem reads_expandTokens {expand : Text → Action Text} (hexpand : ∀ name, Reads (expand name))
    (tokens : List Template.Token) : Reads (expandTokens expand tokens) := by
  induction tokens with
  | nil => exact reads_pure []
  | cons token tokens ih =>
      have hrest : ∀ text, Reads (do return text ++ (← expandTokens expand tokens)) :=
        fun text => ih.bind fun _ => reads_pure _
      cases token with
      | literal text => exact (reads_pure _).bind hrest
      | placeholder expression raw => exact (reads_pure _).bind hrest
      | component name raw => exact (hexpand name).bind hrest

/-- A component is looked for and read before it is expanded. -/
theorem reads_expandComponent {inside : Option (Text → Text → Action Text)}
    (hinside : ∀ expand ∈ inside, ∀ identifier text, Reads (expand identifier text))
    (identifier name : Text) : Reads (expandComponent inside identifier name) := by
  refine reads_get.bind fun s => ?_
  cases inside with
  | none => exact reads_refuse _
  | some expand =>
      refine (reads_isFile _).bind fun found => ?_
      split
      · exact (reads_loadOrEmpty _).bind fun text => hinside expand rfl _ text
      · exact reads_refuse _

/-- By induction on the remaining depth. -/
theorem reads_expand (remaining : Nat) (identifier text : Text) :
    Reads (expand remaining identifier text) := by
  induction remaining generalizing identifier text with
  | zero =>
      exact reads_get.bind fun s =>
        reads_expandTokens (reads_expandComponent (by simp) identifier) _
  | succ remaining ih =>
      refine reads_get.bind fun s => reads_expandTokens (reads_expandComponent ?_ identifier) _
      rintro expand ⟨rfl⟩
      exact ih

theorem reads_inline (text : Text) (depth : Int) (identifier : Text) :
    Reads (inline text depth identifier) :=
  reads_get.bind fun _ => reads_expand _ _ _

theorem reads_interpolate (identifier text : Text) : Reads (interpolate identifier text) := by
  refine reads_get.bind fun s => ?_
  split
  · exact reads_pure _
  · exact (blind_logError _).reads.bind fun _ => (blind_throw _).reads

/-! ## Failing before the data come in -/

/-- A program that cannot be compiled leaves only its failure in the history. -/
theorem uncompiling_compile (program : Template.Program) (identifier : Text) :
    Uncompiling (fun r => ∃ f, r = .error f) (compile program identifier) := by
  rintro s ⟨f, hfails⟩
  rcases hit_or_misses s.cache (.program program) with ⟨item, hfind, hfits⟩ | hmiss
  · obtain ⟨template, rfl⟩ := Key.fits_program_iff.1 hfits
    rw [compile_of_hit hfind] at hfails
    cases hfails
  · rw [compile_of_miss identifier hmiss] at hfails ⊢
    cases hcompiled : Template.compile program identifier with
    | ok template =>
        rw [hcompiled] at hfails
        cases hfails
    | error error =>
        exact ⟨[.compiled identifier program none], (blind_announce _).events_eq _,
          uncompiled_singleton (by simp)⟩

/-- When the stages before the data come in fail, no template was compiled. -/
theorem uncompiling_prepare (identifier : Text) :
    Uncompiling (fun r => ∃ f, r = .error f) (prepare identifier) := by
  refine (reads_load identifier).bind fun text => ?_
  refine (reads_inline text 0 identifier).bind fun text' => ?_
  refine (reads_interpolate identifier text').bind fun program => ?_
  -- Nothing can fail after compiling, so a failure is one of the compilation itself.
  rintro s ⟨f, hfails⟩
  have hcompile := uncompiling_compile program identifier s
  rw [bind_run] at hfails ⊢
  rcases hrun : compile program identifier s with ⟨e | template, s'⟩
  · rw [hrun] at hcompile
    exact hcompile ⟨e, rfl⟩
  · rw [hrun] at hfails
    cases hfails

/-! ## Growth of the cache -/

/-- The texts that were read with success, by their identifiers and in order. -/
def textsRead (events : List Event) : List (Text × Text) :=
  events.filterMap fun
    | .read identifier (some text) => some (identifier, text)
    | _ => none

/-- The texts that were read are those of the events. -/
theorem mem_textsRead {read : Text × Text} :
    read ∈ textsRead events ↔ .read read.1 (some read.2) ∈ events := by
  rw [textsRead, List.mem_filterMap]
  constructor
  · rintro ⟨event, he, hread⟩
    split at hread <;> cases hread
    exact he
  · exact fun he => ⟨_, he, rfl⟩

theorem textsRead_append (first second : List Event) :
    textsRead (first ++ second) = textsRead first ++ textsRead second :=
  List.filterMap_append

/-- The entry of a text that was read. -/
def textEntry (read : Text × Text) : Key × Item := (.source read.1, .source read.2)

/-- Events without a compilation make entries for texts only. -/
theorem Uncompiled.filterMap_entry? {new : List Event} (h : Uncompiled new) :
    new.filterMap Event.entry? = (textsRead new).map textEntry := by
  rw [textsRead, List.map_filterMap]
  refine List.filterMap_congr fun event he => ?_
  cases event with
  | read identifier text => cases text <;> rfl
  | compiled identifier program template =>
      cases template with
      | none => rfl
      | some template => exact absurd rfl (h _ he program (.compiled template))
  | cleared => rfl

/-- A cache that follows the history and has grown, since an older session, by what was made. -/
structure Grown (c : Config) (disk : File.Tree) (old : Session) (cache : Cache Key Item)
    (events : List Event) : Prop extends Recorded c cache events where
  since : ∃ new, events = old.events ++ new ∧ (∀ event ∈ new, event.Truthful disk) ∧
    (∀ e ∈ cache.entries, e ∈ old.cache.entries ∨ e ∈ new.filterMap Event.entry?) ∧
    (c.cacheSize = none → cache.entries = old.cache.entries ++ new.filterMap Event.entry?)

/-- At the beginning nothing has been read. -/
theorem grown_refl (hs : Recorded c s.cache s.events) : Grown c disk s s.cache s.events where
  toRecorded := hs
  since := ⟨[], by simp⟩

/-- Every recorded change keeps to what has been read since. -/
theorem upkeep_grown (c : Config) (disk : File.Tree) (old : Session) :
    Upkeep disk (Grown c disk old) where
  use {cache events} key h := by
    obtain ⟨new, hevents, htruthful, hmem, hall⟩ := h.since
    refine { toRecorded := (upkeep_recorded c disk).use key h.toRecorded, since := ?_ }
    refine ⟨new, hevents, htruthful, fun e he => hmem e (Cache.mem_touch.1 he), fun hsize => ?_⟩
    have hpolicy : cache.policy = .keepAll := by rw [h.policy, Config.cachePolicy, hsize]
    rw [Cache.touch_of_keepAll hpolicy, hall hsize]
  fail event hnone hcleared h := by
    obtain ⟨new, hevents, htruthful, hmem, hall⟩ := h.since
    refine
      { toRecorded := (upkeep_recorded c disk).fail event hnone hcleared h.toRecorded
        since := ?_ }
    have hmade : (new ++ [event]).filterMap Event.entry? = new.filterMap Event.entry? := by
      rw [List.filterMap_append, List.filterMap_cons_none hnone, List.filterMap_nil,
        List.append_nil]
    refine ⟨new ++ [event], by rw [hevents, List.append_assoc], ?_, by rwa [hmade], by rwa [hmade]⟩
    exact List.forall_mem_append.2
      ⟨htruthful, by simpa using Event.truthful_of_entry?_eq_none hnone⟩
  make {cache events} event key item hentry htruthful hmiss h := by
    obtain ⟨new, hevents, hall, hmem, hgrown⟩ := h.since
    refine { toRecorded := h.write hentry hmiss, since := ?_ }
    have hmade : (new ++ [event]).filterMap Event.entry? =
        new.filterMap Event.entry? ++ [(key, item)] := by
      rw [List.filterMap_append, List.filterMap_cons_some hentry, List.filterMap_nil]
    refine ⟨new ++ [event], by rw [hevents, List.append_assoc], ?_, fun e he => ?_, fun hsize => ?_⟩
    · exact List.forall_mem_append.2 ⟨hall, by simpa using htruthful⟩
    · rw [hmade, List.mem_append, ← or_assoc, List.mem_singleton]
      exact (Cache.mem_of_mem_write he).imp_left (hmem e)
    · have hpolicy : cache.policy = .keepAll := by rw [h.policy, Config.cachePolicy, hsize]
      have hkey : key ∉ cache.keys := hmiss.not_mem_keys fun k i hi => (h.last k i hi).fits
      rw [Cache.entries_write_of_not_mem hpolicy hkey, hgrown hsize, hmade, List.append_assoc]

/-! ## Rendering -/

/-- After the stages before the data come in, a rendering leaves the cache and the history alone. -/
theorem render_run_cache (identifier : Text) (data : Data) (s : Session) :
    (render identifier data s).2.cache = (prepare identifier s).2.cache ∧
      (render identifier data s).2.events = (prepare identifier s).2.events := by
  have hrun : attempt (prepare identifier) s =
      (.ok (prepare identifier s).1, (prepare identifier s).2) := rfl
  unfold render
  rw [bind_run, hrun]
  cases (prepare identifier s).1 with
  | error failure =>
      have hblind := blind_failed identifier failure
      exact ⟨hblind.cache_eq _, hblind.events_eq _⟩
  | ok prepared =>
      have hblind := blind_invoke identifier prepared.2 data
      exact ⟨hblind.cache_eq _, hblind.events_eq _⟩

/-- A compiled template gives a text when there are no data. -/
theorem exists_apply_null (template : Template.Compiled) :
    ∃ text, template.apply (.ofTree .null) = .ok text := by
  rw [Template.apply_of_root_eq_null template rfl]
  induction template.parts with
  | nil => exact ⟨[], rfl⟩
  | cons part parts ih =>
      obtain ⟨rest, hrest⟩ := ih
      obtain ⟨text, htext⟩ : ∃ text, part.render (.ofTree (.mapping [])) = .ok text := by
        rw [Template.render_eq_renderWith]
        cases part with
        | text t => exact ⟨t, rfl⟩
        | path path =>
            by_cases hpath : path = []
            · subst hpath
              exact ⟨_, rfl⟩
            · rw [Template.Part.renderWith, Template.look_empty hpath]
              exact ⟨[], rfl⟩
      exact ⟨text ++ rest, by rw [Template.renderParts, htext, hrest]; rfl⟩

/-- A template that was prepared can be rendered. -/
theorem exists_render_eq_ok {identifier : Text} {program : Template.Program}
    {template : Template.Compiled} (h : (prepare identifier s).1 = .ok (program, template)) :
    ∃ text, (render identifier (.ofTree .null) s).1 = .ok ⟨identifier, text, none⟩ := by
  obtain ⟨text, htext⟩ := exists_apply_null template
  have hrun : render identifier (.ofTree .null) s =
      invoke identifier template (.ofTree .null) (prepare identifier s).2 := by
    unfold render attempt
    rw [bind_run, run_eq_of_fst h]
  refine ⟨text, ?_⟩
  rw [hrun, invoke, htext]
  rfl

/-- After any run of operations a template is rendered.  When that fails before the data come in,
every entry that the cache has gained is the text of a file that was read meanwhile, as the file
is, and no template; without a limit on its size, the cache has kept all its entries in their
places, and the texts that were read come after them in the order in which they were read.  When
the data make the template fail, the cache is as after rendering the same template with any other
data, and with some data that succeeds. -/
theorem failed_render_leaves_texts {c : Config} (hc : c.Valid) (tree : File.Tree) (now : Text)
    (operations : List Operation) (identifier : Text) (data : Data) :
    let s := (Session.start c tree now).run operations
    let s' := (render identifier data s).2
    (∀ f, (prepare identifier s).1 = .error f → ∃ new, s'.events = s.events ++ new ∧
        (∀ e ∈ s'.cache.entries, e ∈ s.cache.entries ∨ ∃ read ∈ textsRead new,
          e = textEntry read ∧ readTree s.tree (.ofText read.1) = .ok read.2) ∧
        (c.cacheSize = none →
          s'.cache.entries = s.cache.entries ++ (textsRead new).map textEntry)) ∧
      ∀ program template raised, (prepare identifier s).1 = .ok (program, template) →
        template.apply data = .error raised →
        (∀ data', (render identifier data' s).2.cache = s'.cache) ∧
          ∃ data' text, (render identifier data' s).1 = .ok ⟨identifier, text, none⟩ := by
  intro s s'
  refine ⟨fun f hfails => ?_, fun program template raised hprepared _ => ⟨fun data' => ?_, ?_⟩⟩
  · have hs : Within c s.tree (Recorded c) s :=
      within_run (upkeep_recorded c) hc ⟨rfl, rfl, recorded_of_entries_eq_nil rfl rfl⟩
        Recorded.clear operations
    -- Growth is counted from the session in which the rendering begins.
    have hstart : Within c s.tree (Grown c s.tree s) s := ⟨hs.config, rfl, grown_refl hs.kept⟩
    have hgrown := ((proceeds_prepare (upkeep_grown c s.tree s) hc identifier hstart).within
      hstart).kept
    obtain ⟨new, hevents, htruthful, hmem, hall⟩ := hgrown.since
    -- What was made is what was read, as nothing was compiled.
    obtain ⟨new', hevents', huncompiled⟩ := uncompiling_prepare identifier s ⟨f, hfails⟩
    obtain rfl : new = new' := List.append_cancel_left (hevents.symm.trans hevents')
    obtain ⟨hcache, hhistory⟩ := render_run_cache identifier data s
    rw [huncompiled.filterMap_entry?] at hmem hall
    refine ⟨new, hhistory.trans hevents, fun e he => ?_, fun hsize => ?_⟩
    · refine (hmem e (hcache ▸ he)).imp_right fun hnew => ?_
      obtain ⟨read, hread, rfl⟩ := List.mem_map.1 hnew
      exact ⟨read, hread, rfl, htruthful _ (mem_textsRead.1 hread)⟩
    · rw [hcache]
      exact hall hsize
  · rw [(render_run_cache identifier data' s).1, (render_run_cache identifier data s).1]
  · exact ⟨_, exists_render_eq_ok hprepared⟩

/-- A page with a component that can be read and one that cannot, and a page that shows a value. -/
def partialTree : File.Tree :=
  ⟨[], [(["note"], .file (Text.Utf8.encode "n")),
    (["page"], .file (Text.Utf8.encode "\x7b\x7bcomponent(a)\x7d\x7d\x7b\x7bcomponent(b)\x7d\x7d")),
    (["components"], .directory), (["components", "a.mizui"], .file (Text.Utf8.encode "x")),
    (["components", "b.mizui"], .file [255]),
    (["shown"], .file (Text.Utf8.encode "\x7b\x7bx\x7d\x7d"))]⟩

/-- The texts that are read before the other component fails. -/
def partialReads : List (Text × Text) :=
  [("page", "\x7b\x7bcomponent(a)\x7d\x7d\x7b\x7bcomponent(b)\x7d\x7d"),
    ("components/a.mizui", "x")]

/-- A value that cannot be shown. -/
def unshownData : Data :=
  .ofTree (.mapping [(.text "x", .object [] (.error ⟨"RuntimeError", "boom"⟩) "thing")])

/-- A session in which another file was loaded. -/
def partialSession : Session :=
  (Session.start .standard partialTree "now").run [.ask (.load "note")]

/-- The page leaves its own text and that of the component that can be read; and a value that
cannot be shown leaves the same cache as no data. -/
theorem failed_render_leaves_texts_partial :
    (render "page" (.ofTree .null) partialSession).2.cache.entries =
        partialSession.cache.entries ++ partialReads.map textEntry ∧
      (render "shown" (.ofTree .null) partialSession).2.cache =
        (render "shown" unshownData partialSession).2.cache := by
  have hbroken : (prepare "page" partialSession).1 =
      .error (.decoding ⟨255, 0, 1, .invalidStart⟩) := by decide +kernel
  have hread : textsRead (prepare "page" partialSession).2.events =
      textsRead partialSession.events ++ partialReads := by decide +kernel
  have hshown : (prepare "shown" partialSession).1 =
      .ok (⟨[.lookup "x"]⟩, ⟨[.path ["x"]]⟩) := by decide +kernel
  have hraised : (Template.Compiled.mk [.path ["x"]]).apply unshownData =
      .error ⟨"RuntimeError", "boom"⟩ := by decide +kernel
  have hsession : (Session.start .standard partialTree "now").run [.ask (.load "note")] =
      partialSession := rfl
  have hpage := failed_render_leaves_texts Config.valid_standard partialTree "now"
    [.ask (.load "note")] "page" (.ofTree .null)
  have hvalue := failed_render_leaves_texts Config.valid_standard partialTree "now"
    [.ask (.load "note")] "shown" unshownData
  rw [hsession] at hpage hvalue
  refine ⟨?_, (hvalue.2 _ _ _ hshown hraised).1 _⟩
  obtain ⟨new, hevents, -, hentries⟩ := hpage.1 _ hbroken
  rw [(render_run_cache "page" (.ofTree .null) partialSession).2] at hevents
  rw [hevents, textsRead_append] at hread
  rw [← List.append_cancel_left hread]
  exact hentries rfl

end Render
end Stencil
