import Stencil.Proofs.Render.Operations

/-!
# Sessions that keep what they have

A session that gives up no entries goes on with everything that it has found.  While it
loads and compiles, it goes on having the same text for every identifier, because what is
loaded is what the file held; and later, whatever happens to the files, it still has what
it had loaded.

Main results:

- Structure `Retains` and theorem `retains_run`: a cache that has what an older one has, and
  that every run without clearing leads to one.
- Definition `Session.text?`: the text that a session has for an identifier.
- Structure `Follows`: a session that goes on from another one by loading and compiling.
- Theorems `follows_load` and `follows_compile`: the cached steps keep what they find.
- Theorem `expandComponent_eq_ok_iff`: when a component is expanded.
-/

namespace Stencil
namespace Render

open Stencil.Render.Action

variable {α : Type} {s s' s'' : Session} {cache cache' old : Cache Key Item} {key : Key}
  {item : Item}

/-! ## Caches that keep their entries -/

/-- A cache that gives up nothing and has what an older one has. -/
structure Retains (old cache : Cache Key Item) : Prop where
  policy : cache.policy = .keepAll
  entries : ∀ key item, key.Fits item → old.find? key = some item → cache.find? key = some item

theorem retains_refl (h : cache.policy = .keepAll) : Retains cache cache :=
  ⟨h, fun _ _ _ hfind => hfind⟩

theorem Retains.trans (h : Retains old cache) (h' : Retains cache cache') : Retains old cache' :=
  ⟨h'.policy, fun key item hfits hfind =>
    h'.entries key item hfits (h.entries key item hfits hfind)⟩

/-- An entry is made only for a key that was missed, so it takes the place of no other. -/
theorem Retains.write (h : Retains old cache) (hmiss : Misses cache key) (item : Item) :
    Retains old (cache.write key item) where
  policy := h.policy
  entries k i hfits hfind := by
    have hkept := h.entries k i hfits hfind
    rw [Cache.find?_write_of_ne h.policy]
    · exact hkept
    · rintro rfl
      exact hmiss i hkept hfits

theorem upkeep_retains (disk : File.Tree) (old : Cache Key Item) :
    Upkeep disk fun cache _ => Retains old cache where
  use key h := by rwa [Cache.touch_of_keepAll h.policy]
  fail _ _ _ h := h
  make _ _ item _ _ hmiss h := h.write hmiss item

/-- Whatever happens to a session without clearing, it keeps what it has. -/
theorem retains_run (hc : s.config.Valid) (hpolicy : s.cache.policy = .keepAll)
    {operations : List Operation} (hclear : .ask .clearCache ∉ operations) :
    (s.run operations).config = s.config ∧ Retains s.cache (s.run operations).cache :=
  have hrun := within_run_of_not_mem (fun disk => upkeep_retains disk s.cache) hc
    ⟨rfl, rfl, retains_refl hpolicy⟩ hclear
  ⟨hrun.config, hrun.kept⟩

/-! ## The texts of a session -/

/-- The text that a session has for an identifier: the one in its cache, or else that of the
file. -/
def Session.text? (s : Session) (identifier : Text) : Option Text :=
  match s.cache.find? (.source identifier) with
  | some (.source text) => some text
  | _ => (readTree s.tree (.ofText identifier)).toOption

theorem Session.text?_of_hit {identifier text : Text}
    (h : s.cache.find? (.source identifier) = some (.source text)) :
    s.text? identifier = some text := by
  rw [text?, h]

theorem Session.text?_of_misses {identifier : Text} (h : Misses s.cache (.source identifier)) :
    s.text? identifier = (readTree s.tree (.ofText identifier)).toOption := by
  unfold text?
  split
  · rename_i text hfind
    exact absurd trivial (h _ hfind)
  · rfl

/-- A session that goes on from another one: files are loaded and programs compiled, and
nothing else happens. -/
structure Follows (s s' : Session) : Prop extends Steady s s' where
  retains : Retains s.cache s'.cache
  texts : ∀ identifier, s'.text? identifier = s.text? identifier

theorem follows_refl (h : s.cache.policy = .keepAll) : Follows s s :=
  ⟨.refl s, retains_refl h, fun _ => rfl⟩

theorem Follows.trans (h : Follows s s') (h' : Follows s' s'') : Follows s s'' :=
  ⟨h.toSteady.trans h'.toSteady, h.retains.trans h'.retains,
    fun identifier => (h'.texts identifier).trans (h.texts identifier)⟩

/-- Making an entry changes no text that the session has. -/
theorem follows_make (hpolicy : s.cache.policy = .keepAll) {event : Event}
    (hentry : event.entry? = some (key, item)) (htruthful : event.Truthful s.tree)
    (hmiss : Misses s.cache key) :
    Follows s { s with cache := s.cache.write key item, events := s.events ++ [event] } := by
  refine ⟨⟨rfl, rfl, rfl, rfl⟩, (retains_refl hpolicy).write hmiss item, fun identifier => ?_⟩
  by_cases hkey : .source identifier = key
  · subst hkey
    obtain ⟨text, rfl⟩ := Key.fits_source_iff.1 (Event.fits_of_entry? hentry)
    have hread : readTree s.tree (.ofText identifier) = .ok text := by
      unfold Event.entry? at hentry
      split at hentry <;> cases hentry
      exact htruthful
    rw [Session.text?_of_misses hmiss, hread]
    exact Session.text?_of_hit (Cache.find?_write_self hpolicy)
  · unfold Session.text?
    dsimp only
    rw [Cache.find?_write_of_ne hpolicy hkey]

/-! ## The cached steps -/

/-- A text that was loaded is kept. -/
theorem follows_load (hpolicy : s.cache.policy = .keepAll) {identifier text : Text}
    (h : load identifier s = (.ok text, s')) :
    Follows s s' ∧ s'.cache.find? (.source identifier) = some (.source text) := by
  rcases hit_or_misses s.cache (.source identifier) with ⟨item, hfind, hfits⟩ | hmiss
  · obtain ⟨found, rfl⟩ := Key.fits_source_iff.1 hfits
    rw [load_of_hit hfind, Cache.touch_of_keepAll hpolicy] at h
    cases h
    exact ⟨follows_refl hpolicy, hfind⟩
  · rw [load_of_miss hmiss] at h
    split at h
    · cases h
    · exact absurd h (announce_ne_ok _ _ _ _)
    · split at h
      · cases h
      · rename_i found hread
        cases h
        exact ⟨follows_make hpolicy rfl hread hmiss, Cache.find?_write_self hpolicy⟩

/-- A template that was compiled is kept. -/
theorem follows_compile (hpolicy : s.cache.policy = .keepAll) {program : Template.Program}
    {identifier : Text} {template : Template.Compiled}
    (h : compile program identifier s = (.ok template, s')) :
    Follows s s' ∧ s'.cache.find? (.program program) = some (.compiled template) := by
  rcases hit_or_misses s.cache (.program program) with ⟨item, hfind, hfits⟩ | hmiss
  · obtain ⟨found, rfl⟩ := Key.fits_program_iff.1 hfits
    rw [compile_of_hit hfind, Cache.touch_of_keepAll hpolicy] at h
    cases h
    exact ⟨follows_refl hpolicy, hfind⟩
  · rw [compile_of_miss identifier hmiss] at h
    split at h
    · exact absurd h (announce_ne_ok _ _ _ _)
    · rename_i found hcompiled
      cases h
      exact ⟨follows_make hpolicy rfl hcompiled hmiss, Cache.find?_write_self hpolicy⟩

/-- What was loaded is the text that the session had already. -/
theorem text?_of_load (hpolicy : s.cache.policy = .keepAll) {identifier text : Text}
    (h : load identifier s = (.ok text, s')) : s.text? identifier = some text := by
  obtain ⟨hfollows, hfind⟩ := follows_load hpolicy h
  rw [← hfollows.texts, Session.text?_of_hit hfind]

/-- The file of a component is there, so its text is loaded or fails to be read. -/
theorem loadOrEmpty_eq_ok_iff {identifier text : Text}
    (hfile : s.tree.isFile (.ofText identifier) = .ok true) :
    loadOrEmpty identifier s = (.ok text, s') ↔ load identifier s = (.ok text, s') := by
  have hload : ∀ f, (load identifier s).1 = .error f → f.announcement? = none := by
    intro f hf
    rcases hit_or_misses s.cache (.source identifier) with ⟨item, hfind, hfits⟩ | hmiss
    · obtain ⟨found, rfl⟩ := Key.fits_source_iff.1 hfits
      rw [load_of_hit hfind] at hf
      cases hf
    · rw [load_of_miss hmiss, hfile] at hf
      dsimp only at hf
      split at hf
      · rename_i hread
        cases hf
        exact announcement?_of_readTree hread
      · cases hf
  unfold loadOrEmpty attempt
  rw [bind_run]
  rcases hrun : load identifier s with ⟨f | found, s₁⟩
  · rw [hrun] at hload
    have hnone := hload f rfl
    cases f with
    | template error => cases error <;> cases hnone
    | file fault => simp
    | decoding fault => simp
  · rfl

theorem refuse_ne_ok {error : Template.Error} {v : α} : refuse error s ≠ (.ok v, s') := by
  intro h
  obtain ⟨-, _, -, h⟩ := bind_run_eq_ok_iff.1 h
  cases h

/-- A component is expanded when it may stand there, its file is there, and the text of the
file is loaded and expanded. -/
theorem expandComponent_eq_ok_iff (hc : s.config.Valid) {identifier name out : Text}
    {inside : Option (Text → Text → Action Text)} :
    expandComponent inside identifier name s = (.ok out, s') ↔
      ∃ expand text s₁, inside = some expand ∧
        s.tree.isFile (s.config.componentPath name) = .ok true ∧
        load (s.config.componentPath name).text s = (.ok text, s₁) ∧
        expand (s.config.componentPath name).text text s₁ = (.ok out, s') := by
  have hpath := File.Path.ofText_text (Config.normal_componentPath hc name)
  unfold expandComponent
  rw [bind_run, get_run]
  dsimp only
  cases inside with
  | none => simp [refuse_ne_ok]
  | some expand =>
      dsimp only
      rw [bind_run, isFile_run]
      unfold Plain.isFile
      cases hfile : s.tree.isFile (s.config.componentPath name) with
      | error fault =>
          constructor
          · intro h
            cases h
          · rintro ⟨_, _, _, _, hthere, _⟩
            cases hthere
      | ok found =>
          cases found with
          | false => simp [Except.mapError, refuse_ne_ok]
          | true =>
              rw [← hpath] at hfile
              simp [Except.mapError, bind_run_eq_ok_iff, loadOrEmpty_eq_ok_iff hfile]

end Render
end Stencil
