import Stencil.Proofs.Render.Coherence

/-!
# Upkeep of the cache and the history

Stages change the cache and the history together, and only in three ways: an entry is used,
a file or a program fails, or an entry is made for a key that was missed.  A property that
survives these three survives every stage of rendering, whatever the cache holds at first
and wherever the stage fails.

Main results:

- Theorems `load_of_hit`, `load_of_miss`, `compile_of_hit` and `compile_of_miss`: what the
  two cached steps do.
- Structure `Upkeep`: a property of cache and history that the three changes keep.
- Definition `Proceeds`: an action that keeps such a property until it gives a result or
  announces a failure.
- Theorem `proceeds_prepare`: all stages before the data come in proceed.
-/

namespace Stencil
namespace Render

open Stencil.Render.Action

variable {α β : Type}

/-! ## Entries and events -/

/-- Whether an item is of the sort that a key stands for. -/
def Key.Fits : Key → Item → Prop
  | .source _, .source _ => True
  | .program _, .compiled _ => True
  | _, _ => False

theorem Key.fits_source_iff {identifier : Text} {item : Item} :
    (Key.source identifier).Fits item ↔ ∃ text, item = .source text := by
  cases item <;> simp [Key.Fits]

theorem Key.fits_program_iff {program : Template.Program} {item : Item} :
    (Key.program program).Fits item ↔ ∃ template, item = .compiled template := by
  cases item <;> simp [Key.Fits]

/-- A cache has nothing to offer for a key. -/
def Misses (cache : Cache Key Item) (key : Key) : Prop :=
  ∀ item, cache.find? key = some item → ¬ key.Fits item

/-- The entry that an event makes: the text of a file that was read, or the template that a
program was compiled to. -/
def Event.entry? : Event → Option (Key × Item)
  | .read identifier (some text) => some (.source identifier, .source text)
  | .compiled _ program (some template) => some (.program program, .compiled template)
  | _ => none

/-- Whether an event tells the truth about the files and the compiler. -/
def Event.Truthful (disk : File.Tree) : Event → Prop
  | .read identifier (some text) => readTree disk (.ofText identifier) = .ok text
  | .compiled identifier program (some template) =>
    Template.compile program identifier = .ok template
  | _ => True

/-- An event makes an entry of the kind that its key asks for. -/
theorem Event.fits_of_entry? {event : Event} {key : Key} {item : Item}
    (h : event.entry? = some (key, item)) : key.Fits item := by
  unfold Event.entry? at h
  split at h <;> cases h <;> trivial

/-- Giving up the entries makes none. -/
theorem Event.ne_cleared_of_entry? {event : Event} {key : Key} {item : Item}
    (h : event.entry? = some (key, item)) : event ≠ .cleared := by
  rintro rfl
  cases h

/-- An event that makes no entry says nothing that could be false. -/
theorem Event.truthful_of_entry?_eq_none {disk : File.Tree} {event : Event}
    (h : event.entry? = none) : event.Truthful disk := by
  cases event with
  | read identifier text => cases text with
    | none => trivial
    | some text => cases h
  | compiled identifier program template => cases template with
    | none => trivial
    | some template => cases h
  | cleared => trivial

/-! ## The cached steps -/

/-- Whether a path is a file is not recorded. -/
theorem isFile_run (path : File.Path) (s : Session) :
    isFile path s = (Plain.isFile s.tree path, s) := by
  unfold isFile Plain.isFile
  simp only [bind_run, get_run]
  cases s.tree.isFile path <;> rfl

/-- A key has an entry of its kind, or it has none that can be used. -/
theorem hit_or_misses (cache : Cache Key Item) (key : Key) :
    (∃ item, cache.find? key = some item ∧ key.Fits item) ∨ Misses cache key := by
  by_cases hhit : ∃ item, cache.find? key = some item ∧ key.Fits item
  · exact Or.inl hhit
  · exact Or.inr fun item hfind hfits => hhit ⟨item, hfind, hfits⟩

/-- A text that is kept is used and not read. -/
theorem load_of_hit {s : Session} {identifier text : Text}
    (h : s.cache.find? (.source identifier) = some (.source text)) :
    load identifier s = (.ok text, { s with cache := s.cache.touch (.source identifier) }) := by
  unfold load
  rw [bind_run, get_run]
  dsimp only
  rw [h]
  rfl

/-- A text that is missed is read from the file, and then it is an entry. -/
theorem load_of_miss {s : Session} {identifier : Text}
    (h : Misses s.cache (.source identifier)) :
    load identifier s = match s.tree.isFile (.ofText identifier) with
      | .error fault => (.error (.file fault), s)
      | .ok false => announce (.template (.templateNotFound identifier)) s
      | .ok true => match readTree s.tree (.ofText identifier) with
        | .error f => (.error f, { s with events := s.events ++ [.read identifier none] })
        | .ok text => (.ok text,
          { s with
            cache := s.cache.write (.source identifier) (.source text)
            events := s.events ++ [.read identifier (some text)] }) := by
  have hfetch : load identifier s = (do
      let text ← fetch identifier
      modifyCache (Cache.write (.source identifier) (.source text))
      return text : Action Text) s := by
    unfold load
    rw [bind_run, get_run]
    dsimp only
    cases hfind : s.cache.find? (.source identifier) with
    | none => rfl
    | some item =>
        cases item with
        | source text => exact absurd trivial (h _ hfind)
        | compiled template => rfl
  rw [hfetch]
  unfold fetch isFile readText
  simp only [bind_run, get_run]
  cases s.tree.isFile (.ofText identifier) with
  | error fault => rfl
  | ok found =>
      cases found with
      | false =>
          simp only [pure_run, Bool.false_eq_true, if_false, bind_run]
          unfold announce
          simp only [Failure.announcement?, bind_run]
          rcases logError (Template.Error.templateNotFound identifier).message s with
            ⟨e | ⟨⟩, s'⟩ <;> rfl
      | true =>
          simp only [pure_run, if_true, bind_run, get_run]
          cases readTree s.tree (.ofText identifier) <;> rfl

/-- A template that is kept is used and not compiled. -/
theorem compile_of_hit {s : Session} {program : Template.Program} {identifier : Text}
    {template : Template.Compiled}
    (h : s.cache.find? (.program program) = some (.compiled template)) :
    compile program identifier s =
      (.ok template, { s with cache := s.cache.touch (.program program) }) := by
  unfold compile
  rw [bind_run, get_run]
  dsimp only
  rw [h]
  rfl

/-- Compiling without looking at the cache first. -/
def compileAnew (program : Template.Program) (identifier : Text) : Action Template.Compiled := do
  record (.compiled identifier program (Template.compile program identifier).toOption)
  match Template.compile program identifier with
  | .ok template =>
    modifyCache (Cache.write (.program program) (.compiled template))
    return template
  | .error error => refuse error

/-- A program that is missed is compiled, and then its template is an entry. -/
theorem compile_of_miss {s : Session} {program : Template.Program} (identifier : Text)
    (h : Misses s.cache (.program program)) :
    compile program identifier s = match Template.compile program identifier with
      | .error error => announce (.template error)
        { s with events := s.events ++ [.compiled identifier program none] }
      | .ok template => (.ok template,
        { s with
          cache := s.cache.write (.program program) (.compiled template)
          events := s.events ++ [.compiled identifier program (some template)] }) := by
  have hmade : compile program identifier s = compileAnew program identifier s := by
    unfold compile
    rw [bind_run, get_run]
    dsimp only
    cases hfind : s.cache.find? (.program program) with
    | none => rfl
    | some item =>
        cases item with
        | source text => rfl
        | compiled template => exact absurd trivial (h _ hfind)
  rw [hmade, compileAnew]
  cases hcompiled : Template.compile program identifier with
  | ok template => rfl
  | error error =>
      obtain ⟨expression, rfl⟩ := Template.compile_eq_error hcompiled
      rfl

/-! ## Properties that are kept -/

/-- A property of cache and history that the stages keep over a file tree. -/
structure Upkeep (disk : File.Tree) (I : Cache Key Item → List Event → Prop) : Prop where
  /-- An entry is used. -/
  use : ∀ {cache events} (key), I cache events → I (cache.touch key) events
  /-- Something fails that would have made an entry. -/
  fail : ∀ {cache events} (event : Event), event.entry? = none → event ≠ .cleared →
    I cache events → I cache (events ++ [event])
  /-- An entry is made for a key that was missed. -/
  make : ∀ {cache events} (event : Event) {key item}, event.entry? = some (key, item) →
    event.Truthful disk → Misses cache key → I cache events →
      I (cache.write key item) (events ++ [event])

/-- Nothing need be kept up. -/
theorem upkeep_trivial (disk : File.Tree) : Upkeep disk fun _ _ => True where
  use _ _ := trivial
  fail _ _ _ _ := trivial
  make _ _ _ _ _ _ _ := trivial

/-- A session with a configuration and a file tree, whose cache and history have a
property. -/
structure Within (c : Config) (disk : File.Tree) (I : Cache Key Item → List Event → Prop)
    (s : Session) : Prop where
  config : s.config = c
  tree : s.tree = disk
  kept : I s.cache s.events

variable {c : Config} {disk : File.Tree} {I : Cache Key Item → List Event → Prop}
  {P : Failure → Prop} {s s' : Session}

/-- A step that leaves configuration and files stays within them. -/
theorem Within.steady (hs : Within c disk I s) (h : Steady s s') (hI : I s'.cache s'.events) :
    Within c disk I s' :=
  ⟨h.config.trans hs.config, h.tree.trans hs.tree, hI⟩

/-- An action that keeps a property of cache and history until it gives a result, or
announces a failure of some class. -/
def Proceeds (I : Cache Key Item → List Event → Prop) (P : Failure → Prop) (a : Action α)
    (s : Session) : Prop :=
  ∃ r : Except Failure α, (∀ f, r = .error f → P f) ∧
    Settles (fun s => I s.cache s.events) a s r

/-- An action proceeds like another one that does the same. -/
theorem Proceeds.of_run_eq {a b : Action α} (h : a s = b s) (hb : Proceeds I P b s) :
    Proceeds I P a s := by
  obtain ⟨r, hP, s', hsteady, hkept, hrun⟩ := hb
  exact ⟨r, hP, s', hsteady, hkept, h.trans hrun⟩

theorem proceeds_pure (hs : Within c disk I s) (v : α) : Proceeds I P (pure v : Action α) s :=
  ⟨.ok v, by simp, settles_pure hs.kept v⟩

/-- A failure that is thrown must be one that is not announced. -/
theorem proceeds_throw (hs : Within c disk I s) {f : Failure} (hf : P f)
    (hnone : f.announcement? = none) : Proceeds I P (throw f : Action α) s :=
  ⟨.error f, by simpa using hf, settles_throw hs.kept hnone⟩

/-- Any failure may be announced. -/
theorem proceeds_announce (hs : Within c disk I s) {f : Failure} (hf : P f) :
    Proceeds I P (announce f : Action α) s :=
  ⟨.error f, by simpa using hf, settles_announce hs.kept f⟩

/-- An action proceeds, and then the next one from wherever it has got to. -/
theorem Proceeds.bind {a : Action α} {f : α → Action β} (hs : Within c disk I s)
    (ha : Proceeds I P a s) (hf : ∀ v s', Within c disk I s' → Proceeds I P (f v) s') :
    Proceeds I P (a >>= f) s := by
  obtain ⟨r, hP, s', hsteady, hkept, hrun⟩ := ha
  cases r with
  | ok v =>
      obtain ⟨r', hP', s'', hsteady', hkept', hrun'⟩ := hf v s' (hs.steady hsteady hkept)
      refine ⟨r', hP', s'', hsteady.trans hsteady', hkept', ?_⟩
      rw [bind_run, hrun]
      exact hrun'
  | error e =>
      refine ⟨.error e, fun g hg => ?_, s', hsteady, hkept, ?_⟩
      · cases hg
        exact hP e rfl
      · rw [settle, ← announce_bind e f s', bind_run, bind_run, hrun]
        rfl

/-- A sequence that succeeds goes on from where its first action gave a result. -/
theorem Proceeds.of_bind_eq_ok {a : Action α} {f : α → Action β} (hs : Within c disk I s)
    (ha : Proceeds I P a s) {w : β} {s'' : Session} (h : (a >>= f) s = (.ok w, s'')) :
    ∃ v s', Within c disk I s' ∧ f v s' = (.ok w, s'') := by
  obtain ⟨r, -, s', hsteady, hkept, hrun⟩ := ha
  rw [bind_run, hrun] at h
  cases r with
  | ok v => exact ⟨v, s', hs.steady hsteady hkept, h⟩
  | error e =>
      rcases hfailed : settle (.error e : Except Failure α) s' with ⟨e' | v, s₃⟩
      · rw [hfailed] at h
        cases h
      · exact absurd hfailed (announce_ne_ok e s' s₃ v)

theorem Proceeds.get_bind {f : Session → Action β} (h : Proceeds I P (f s) s) :
    Proceeds I P (get >>= f) s := by
  obtain ⟨r, hP, hsettles⟩ := h
  exact ⟨r, hP, hsettles.get_bind⟩

/-! ## Failures of a page -/

/-- The failures of the stages of a page before the data come in.  Its text is read as a
program only as a whole, so that errors of that name the page itself. -/
def Failure.Staged (page : Text) : Failure → Prop
  | .template (.unbalanced identifier _ _) => identifier = page
  | .template (.emptyPlaceholder _ identifier) => identifier = page
  | .template (.invocation _ _) => False
  | .template (.unreported _ _) => False
  | _ => True

/-- A failure that is not announced may come before the data, on any page. -/
theorem Failure.staged_of_announcement? {page : Text} {f : Failure}
    (h : f.announcement? = none) : f.Staged page := by
  cases f with
  | template error => cases error <;> cases h
  | file fault => trivial
  | decoding fault => trivial

/-! ## Loading -/

/-- Loading keeps what the upkeep keeps; it fails as the file does, or because there is
none. -/
theorem proceeds_load (hI : Upkeep disk I) (hs : Within c disk I s) {identifier : Text}
    (hP : ∀ f : Failure, f.announcement? = none → P f)
    (hmissing : disk.isFile (.ofText identifier) = .ok false →
      P (.template (.templateNotFound identifier))) : Proceeds I P (load identifier) s := by
  rcases hit_or_misses s.cache (.source identifier) with ⟨item, hfind, hfits⟩ | hmiss
  · obtain ⟨text, rfl⟩ := Key.fits_source_iff.1 hfits
    refine ⟨.ok text, by simp, { s with cache := s.cache.touch (.source identifier) },
      ⟨rfl, rfl, rfl, rfl⟩, hI.use _ hs.kept, load_of_hit hfind⟩
  · have hrun := load_of_miss hmiss
    cases hfile : s.tree.isFile (.ofText identifier) with
    | error fault =>
        rw [hfile] at hrun
        exact ⟨.error (.file fault), by simpa using hP (.file fault) rfl, s, .refl s, hs.kept, hrun⟩
    | ok found =>
        rw [hfile] at hrun
        cases found with
        | false =>
            refine ⟨.error (.template (.templateNotFound identifier)), ?_, s, .refl s, hs.kept,
              hrun⟩
            simpa using hmissing (hs.tree ▸ hfile)
        | true =>
            cases hread : readTree s.tree (.ofText identifier) with
            | error f =>
                rw [hread] at hrun
                have hnone := announcement?_of_readTree hread
                refine ⟨.error f, by simpa using hP f hnone,
                  { s with events := s.events ++ [.read identifier none] }, ⟨rfl, rfl, rfl, rfl⟩,
                  hI.fail (.read identifier none) rfl (by simp) hs.kept, hrun.trans ?_⟩
                simp only [settle, announce, hnone]
                rfl
            | ok text =>
                rw [hread] at hrun
                exact ⟨.ok text, by simp,
                  { s with
                    cache := s.cache.write (.source identifier) (.source text)
                    events := s.events ++ [.read identifier (some text)] }, ⟨rfl, rfl, rfl, rfl⟩,
                  hI.make (.read identifier (some text)) rfl (hs.tree ▸ hread) hmiss
                    hs.kept, hrun⟩

theorem proceeds_load_page (hI : Upkeep disk I) (hs : Within c disk I s) (page : Text) :
    Proceeds I (Failure.Staged page) (load page) s :=
  proceeds_load hI hs (fun _ hf => Failure.staged_of_announcement? hf) fun _ => trivial

/-- A file that is there is loaded, or fails to be read. -/
theorem proceeds_loadOrEmpty (hI : Upkeep disk I) (hs : Within c disk I s) {page identifier : Text}
    (hfile : disk.isFile (.ofText identifier) = .ok true) :
    Proceeds I (Failure.Staged page) (loadOrEmpty identifier) s := by
  have hload : Proceeds I (fun f => f.announcement? = none) (load identifier) s := by
    refine proceeds_load hI hs (fun f hf => hf) fun hmissing => ?_
    rw [hfile] at hmissing
    cases hmissing
  obtain ⟨r, hP, s', hsteady, hkept, hrun⟩ := hload
  refine ⟨r, fun f hf => Failure.staged_of_announcement? (hP f hf), s', hsteady, hkept, ?_⟩
  unfold loadOrEmpty attempt
  rw [bind_run, hrun]
  cases r with
  | ok text => rfl
  | error f =>
      have hnone := hP f rfl
      simp only [settle, announce, hnone]
      cases f with
      | template error => cases error <;> cases hnone
      | file fault => rfl
      | decoding fault => rfl

/-! ## Expansion -/

/-- By induction on the tokens, for components that proceed. -/
theorem proceeds_expandTokens {expand : Text → Action Text} (tokens : List Template.Token)
    (hexpand : ∀ name s', Within c disk I s' → Proceeds I P (expand name) s')
    (hs : Within c disk I s) : Proceeds I P (expandTokens expand tokens) s := by
  induction tokens generalizing s with
  | nil => exact proceeds_pure hs []
  | cons token tokens ih =>
      have hrest : ∀ text s', Within c disk I s' →
          Proceeds I P (do return text ++ (← expandTokens expand tokens)) s' :=
        fun text s' hs' => (ih hs').bind hs' fun rest s'' hs'' => proceeds_pure hs'' _
      cases token with
      | literal text => exact hrest text s hs
      | placeholder expression raw => exact hrest raw s hs
      | component name raw => exact (hexpand name s hs).bind hs hrest

/-- A component may be too deep, missing, or unreadable, or fail inside. -/
theorem proceeds_expandComponent (hI : Upkeep disk I) (hc : c.Valid) {page identifier name : Text}
    {inside : Option (Text → Text → Action Text)}
    (hinside : ∀ expand ∈ inside, ∀ identifier text s', Within c disk I s' →
      Proceeds I (Failure.Staged page) (expand identifier text) s')
    (hs : Within c disk I s) :
    Proceeds I (Failure.Staged page) (expandComponent inside identifier name) s := by
  have hpath := File.Path.ofText_text (Config.normal_componentPath hc name)
  refine Proceeds.get_bind ?_
  rw [hs.config]
  cases inside with
  | none => exact proceeds_announce hs (f := .template (.recursionTooDeep identifier)) trivial
  | some expand =>
      cases hfile : Plain.isFile s.tree (c.componentPath name) with
      | error f =>
          obtain ⟨fault, -, rfl⟩ := Outcome.mapError_eq_error_iff.1 hfile
          refine Proceeds.of_run_eq ?_ (proceeds_throw hs (f := .file fault) trivial rfl)
          simp only [bind_run, isFile_run, hfile, throw_run]
      | ok found =>
          have hknown : disk.isFile (.ofText (c.componentPath name).text) = .ok found := by
            rw [hpath, ← hs.tree]
            exact Outcome.mapError_eq_ok_iff.1 hfile
          cases found with
          | false =>
              let missing := Template.Error.componentNotFound (c.componentPath name).text identifier
              refine Proceeds.of_run_eq ?_ (proceeds_announce hs (f := .template missing) trivial)
              simp only [bind_run, isFile_run, hfile]
              rfl
          | true =>
              refine Proceeds.of_run_eq ?_ ((proceeds_loadOrEmpty hI hs hknown).bind hs
                fun text s' hs' => hinside expand rfl (c.componentPath name).text text s' hs')
              simp only [bind_run, isFile_run, hfile, if_true]

/-- Expansion keeps what the upkeep keeps, at any depth and wherever it fails. -/
theorem proceeds_expand (hI : Upkeep disk I) (hc : c.Valid) {page : Text} {remaining : Nat}
    {identifier text : Text} (hs : Within c disk I s) :
    Proceeds I (Failure.Staged page) (expand remaining identifier text) s := by
  induction remaining generalizing identifier text s with
  | zero =>
      refine Proceeds.get_bind (proceeds_expandTokens _ (fun name s' hs' => ?_) hs)
      exact proceeds_expandComponent hI hc (by simp) hs'
  | succ remaining ih =>
      refine Proceeds.get_bind (proceeds_expandTokens _ (fun name s' hs' => ?_) hs)
      refine proceeds_expandComponent hI hc (fun expand hexpand identifier text s'' hs'' => ?_) hs'
      cases hexpand
      exact ih hs''

/-- Inlining is expansion to the depth that is left. -/
theorem proceeds_inline (hI : Upkeep disk I) (hc : c.Valid) (page : Text) {text : Text}
    {depth : Int} {identifier : Text} (hs : Within c disk I s) :
    Proceeds I (Failure.Staged page) (inline text depth identifier) s :=
  Proceeds.get_bind (proceeds_expand hI hc hs)

/-! ## Programs -/

/-- A page that cannot be scanned fails at its own stage. -/
theorem proceeds_interpolate {page text : Text} (hs : Within c disk I s) :
    Proceeds I (Failure.Staged page) (interpolate page text) s := by
  refine Proceeds.get_bind ?_
  cases hprogram : Template.interpolate s.config.delimiters page text with
  | ok program => exact proceeds_pure hs program
  | error error =>
      rcases Template.interpolate_eq_error hprogram with ⟨line, imbalance, rfl⟩ | ⟨raw, rfl⟩
      · exact proceeds_announce hs (f := .template (.unbalanced page line imbalance)) rfl
      · exact proceeds_announce hs (f := .template (.emptyPlaceholder raw page)) rfl

/-- A template is compiled for the page that asks for it. -/
theorem proceeds_compile (hI : Upkeep disk I) {page : Text} {program : Template.Program}
    (hs : Within c disk I s) :
    Proceeds I (Failure.Staged page) (compile program page) s := by
  rcases hit_or_misses s.cache (.program program) with ⟨item, hfind, hfits⟩ | hmiss
  · obtain ⟨template, rfl⟩ := Key.fits_program_iff.1 hfits
    exact ⟨.ok template, by simp, { s with cache := s.cache.touch (.program program) },
      ⟨rfl, rfl, rfl, rfl⟩, hI.use _ hs.kept, compile_of_hit hfind⟩
  · have hrun := compile_of_miss page hmiss
    cases hcompiled : Template.compile program page with
    | error error =>
        rw [hcompiled] at hrun
        obtain ⟨expression, rfl⟩ := Template.compile_eq_error hcompiled
        exact ⟨.error (.template (.notAPath expression page)), by simp [Failure.Staged],
          { s with events := s.events ++ [.compiled page program none] }, ⟨rfl, rfl, rfl, rfl⟩,
          hI.fail (.compiled page program none) rfl (by simp) hs.kept, hrun⟩
    | ok template =>
        rw [hcompiled] at hrun
        exact ⟨.ok template, by simp,
          { s with
            cache := s.cache.write (.program program) (.compiled template)
            events := s.events ++ [.compiled page program (some template)] },
          ⟨rfl, rfl, rfl, rfl⟩,
          hI.make (.compiled page program (some template)) rfl hcompiled hmiss hs.kept,
          hrun⟩

/-- All stages before the data come in keep what the upkeep keeps, and fail with errors of
their page or announce nothing. -/
theorem proceeds_prepare (hI : Upkeep disk I) (hc : c.Valid) (page : Text)
    (hs : Within c disk I s) : Proceeds I (Failure.Staged page) (prepare page) s := by
  refine (proceeds_load_page hI hs page).bind hs fun text s' hs' => ?_
  refine (proceeds_inline hI hc page hs').bind hs' fun text' s'' hs'' => ?_
  refine (proceeds_interpolate hs'').bind hs'' fun program s₃ hs₃ => ?_
  exact (proceeds_compile hI hs₃).bind hs₃ fun template s₄ hs₄ => proceeds_pure hs₄ _

/-- A program that was prepared has been compiled last. -/
theorem exists_compile_of_prepare (hI : Upkeep disk I) (hc : c.Valid) (hs : Within c disk I s)
    {page : Text} {program : Template.Program} {template : Template.Compiled} {s'' : Session}
    (h : prepare page s = (.ok (program, template), s'')) :
    ∃ s', Within c disk I s' ∧ compile program page s' = (.ok template, s'') := by
  obtain ⟨text, s₁, hs₁, h⟩ := (proceeds_load_page hI hs page).of_bind_eq_ok hs h
  obtain ⟨text', s₂, hs₂, h⟩ := (proceeds_inline hI hc page hs₁).of_bind_eq_ok hs₁ h
  obtain ⟨program', s₃, hs₃, h⟩ := (proceeds_interpolate hs₂).of_bind_eq_ok hs₂ h
  rw [bind_run] at h
  rcases hrun : compile program' page s₃ with ⟨e | template', s₄⟩
  · rw [hrun] at h
    cases h
  · rw [hrun] at h
    cases h
    exact ⟨s₃, hs₃, hrun⟩

end Render
end Stencil
