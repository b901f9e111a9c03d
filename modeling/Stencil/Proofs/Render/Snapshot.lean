import Stencil.Proofs.Render.History
import Stencil.Proofs.Render.Retention

/-!
# Pages as they were prepared

A session that gives up no entries keeps every text and every compiled template that a page
was prepared from.  When the page is prepared again, after whatever happened to the files,
the only thing that still matters on the disk is whether the files of its components are
there.

Main results:

- Definition `Session.Includes`: the components that a page includes, at any depth.
- Definition `Replays` and theorem `replays_prepare`: what was prepared is prepared again
  from what is kept, without any change of the session.
- Definition `Expanded` and theorem `Expanded.includes`: what is included was there, and it
  was expanded.
- Theorem `prepare_again_iff`: preparing a page again gives the same exactly when all
  components that it included are there.
-/

namespace Stencil
namespace Render

open Stencil.Render.Action

variable {α β : Type} {s s' s'' : Session}

/-! ## Replaying -/

/-- An action that goes on to a session over which it gives the same result again and
changes nothing, as long as the files that have to be there are.  So does every later
session that retains what was found. -/
def Replays (present : File.Path → Prop) (a : Action α) (s : Session) : Prop :=
  ∀ v s', a s = (.ok v, s') → Follows s s' ∧
    ∀ t : Session, t.config = s.config → Retains s'.cache t.cache →
      (∀ path, present path → t.tree.isFile path = .ok true) → a t = (.ok v, t)

variable {present : File.Path → Prop}

theorem replays_pure (hpolicy : s.cache.policy = .keepAll) (v : α) :
    Replays present (pure v) s := by
  rintro v' s' h
  cases h
  exact ⟨follows_refl hpolicy, fun _ _ _ _ => rfl⟩

theorem Replays.bind {a : Action α} {f : α → Action β} (ha : Replays present a s)
    (hf : ∀ v s', a s = (.ok v, s') → Follows s s' → Replays present (f v) s') :
    Replays present (a >>= f) s := by
  intro w s'' h
  obtain ⟨v, s', hfirst, hrest⟩ := bind_run_eq_ok_iff.1 h
  obtain ⟨hfollows, hagain⟩ := ha v s' hfirst
  obtain ⟨hfollows', hagain'⟩ := hf v s' hfirst hfollows w s'' hrest
  refine ⟨hfollows.trans hfollows', fun t hconfig hretains hpresent => ?_⟩
  exact bind_run_eq_ok_iff.2 ⟨v, t, hagain t hconfig (hfollows'.retains.trans hretains) hpresent,
    hagain' t (hconfig.trans hfollows.config.symm) hretains hpresent⟩

/-- An action that begins by looking at the configuration. -/
theorem Replays.get_bind {f : Session → Action α} (h : Replays present (f s) s)
    (hf : ∀ t : Session, t.config = s.config → f t = f s) : Replays present (get >>= f) s := by
  intro v s' hrun
  obtain ⟨hfollows, hagain⟩ := h v s' hrun
  refine ⟨hfollows, fun t hconfig hretains hpresent => ?_⟩
  rw [bind_run, get_run]
  dsimp only
  rw [hf t hconfig]
  exact hagain t hconfig hretains hpresent

theorem replays_load (hpolicy : s.cache.policy = .keepAll) (identifier : Text) :
    Replays present (load identifier) s := by
  intro text s' h
  obtain ⟨hfollows, hfind⟩ := follows_load hpolicy h
  refine ⟨hfollows, fun t _ hretains _ => ?_⟩
  rw [load_of_hit (hretains.entries _ _ trivial hfind), Cache.touch_of_keepAll hretains.policy]

theorem replays_compile (hpolicy : s.cache.policy = .keepAll) (program : Template.Program)
    (identifier : Text) : Replays present (compile program identifier) s := by
  intro template s' h
  obtain ⟨hfollows, hfind⟩ := follows_compile hpolicy h
  refine ⟨hfollows, fun t _ hretains _ => ?_⟩
  rw [compile_of_hit (hretains.entries _ _ trivial hfind),
    Cache.touch_of_keepAll hretains.policy]

theorem replays_interpolate (hpolicy : s.cache.policy = .keepAll) (identifier text : Text) :
    Replays present (interpolate identifier text) s := by
  refine Replays.get_bind ?_ fun t hconfig => by rw [hconfig]
  cases Template.interpolate s.config.delimiters identifier text with
  | ok program => exact replays_pure hpolicy program
  | error error =>
      intro program s' h
      obtain ⟨-, _, -, h⟩ := bind_run_eq_ok_iff.1 h
      cases h

theorem replays_expandTokens {expand : Text → Action Text} {tokens : List Template.Token}
    (hpolicy : s.cache.policy = .keepAll)
    (hexpand : ∀ name ∈ Template.componentNames tokens, ∀ s', Follows s s' →
      Replays present (expand name) s') :
    Replays present (expandTokens expand tokens) s := by
  induction tokens generalizing s with
  | nil => exact replays_pure hpolicy []
  | cons token tokens ih =>
      have hrest : ∀ (text : Text) s', Follows s s' →
          Replays present (do return text ++ (← expandTokens expand tokens)) s' := by
        intro text s' hfollows
        refine (ih hfollows.retains.policy fun name hname s'' hfollows' => ?_).bind
          fun rest s'' _ hfollows' => replays_pure hfollows'.retains.policy _
        refine hexpand name ?_ s'' (hfollows.trans hfollows')
        cases token <;> simp [hname]
      cases token with
      | literal text => exact hrest text s (follows_refl hpolicy)
      | placeholder expression raw => exact hrest raw s (follows_refl hpolicy)
      | component name raw =>
          exact (hexpand name (by simp) s (follows_refl hpolicy)).bind
            fun text s' _ hfollows => hrest text s' hfollows

theorem replays_expandComponent (hc : s.config.Valid) (hpolicy : s.cache.policy = .keepAll)
    {identifier name : Text} {inside : Option (Text → Text → Action Text)}
    (hpresent : present (s.config.componentPath name))
    (hinside : ∀ expand ∈ inside, ∀ text s', Follows s s' →
      s.text? (s.config.componentPath name).text = some text →
        Replays present (expand (s.config.componentPath name).text text) s') :
    Replays present (expandComponent inside identifier name) s := by
  intro out s'' h
  obtain ⟨expand, text, s', rfl, -, hload, hexpand⟩ := (expandComponent_eq_ok_iff hc).1 h
  obtain ⟨hfollows, hloaded⟩ := replays_load hpolicy _ _ _ hload
  obtain ⟨hfollows', hexpanded⟩ :=
    hinside expand rfl text s' hfollows (text?_of_load hpolicy hload) _ _ hexpand
  refine ⟨hfollows.trans hfollows', fun t hconfig hretains hall => ?_⟩
  refine (expandComponent_eq_ok_iff (hconfig ▸ hc)).2 ⟨expand, text, t, rfl, ?_, ?_, ?_⟩ <;>
    rw [hconfig]
  · exact hall _ hpresent
  · exact hloaded t hconfig (hfollows'.retains.trans hretains) hall
  · exact hexpanded t (hconfig.trans hfollows.config.symm) hretains hall

/-- Expansion replays where the files of all components that the text marks, and of those
that the texts of these files mark, have to be there. -/
theorem replays_expand (hc : s.config.Valid) (hpolicy : s.cache.policy = .keepAll)
    {remaining : Nat} {identifier text : Text}
    (hpresent : ∀ name ∈ Template.components s.config.delimiters text,
      present (s.config.componentPath name))
    (hclosed : ∀ path inner, present path → s.text? path.text = some inner →
      ∀ name ∈ Template.components s.config.delimiters inner,
        present (s.config.componentPath name)) :
    Replays present (expand remaining identifier text) s := by
  induction remaining generalizing s identifier text with
  | zero =>
      refine Replays.get_bind (replays_expandTokens hpolicy fun name hname s' hfollows => ?_)
        fun t hconfig => by rw [hconfig]
      refine replays_expandComponent (hfollows.config ▸ hc) hfollows.retains.policy ?_ (by simp)
      rw [hfollows.config]
      exact hpresent name hname
  | succ remaining ih =>
      refine Replays.get_bind (replays_expandTokens hpolicy fun name hname s' hfollows => ?_)
        fun t hconfig => by rw [hconfig]
      have hthere : present (s'.config.componentPath name) := by
        rw [hfollows.config]
        exact hpresent name hname
      refine replays_expandComponent (hfollows.config ▸ hc) hfollows.retains.policy hthere ?_
      rintro expand ⟨⟩ inner s'' hfollows' hinner
      have hall := hfollows.trans hfollows'
      refine ih (hall.config ▸ hc) hall.retains.policy ?_ ?_
      · rw [hall.config]
        exact hclosed _ inner hthere (hfollows.texts _ ▸ hinner)
      · intro path other hpath hother
        rw [hall.config]
        exact hclosed path other hpath (hall.texts _ ▸ hother)

/-! ## Preparing again -/

/-- The path of a component that the page of an identifier includes: the text of the page
marks it, or the text of another included component does. -/
inductive Session.Includes (s : Session) (identifier : Text) : File.Path → Prop where
  | here {text name : Text} (htext : s.text? identifier = some text)
      (hname : name ∈ Template.components s.config.delimiters text) :
      Includes s identifier (s.config.componentPath name)
  | inside {path : File.Path} {text name : Text} (hpath : Includes s identifier path)
      (htext : s.text? path.text = some text)
      (hname : name ∈ Template.components s.config.delimiters text) :
      Includes s identifier (s.config.componentPath name)

/-- Reading a text as a program and compiling it replays without any files. -/
theorem replays_program (hpolicy : s.cache.policy = .keepAll) (identifier text : Text) :
    Replays present (do
      let program ← interpolate identifier text
      return (program, ← compile program identifier)) s := by
  refine (replays_interpolate hpolicy identifier text).bind fun program s₁ _ h₁ => ?_
  exact (replays_compile h₁.retains.policy program identifier).bind
    fun template s₂ _ h₂ => replays_pure h₂.retains.policy _

/-- A page that was prepared is prepared again from what was kept of it, where the files of
all components that it included are there. -/
theorem replays_prepare (hc : s.config.Valid) (hpolicy : s.cache.policy = .keepAll)
    (identifier : Text) : Replays (s.Includes identifier) (prepare identifier) s := by
  refine (replays_load hpolicy identifier).bind fun text s₁ hload h₁ => ?_
  have hinline : Replays (s.Includes identifier) (inline text 0 identifier) s₁ := by
    refine Replays.get_bind (replays_expand (h₁.config ▸ hc) h₁.retains.policy ?_ ?_)
      fun t hconfig => by rw [hconfig]
    · rw [h₁.config]
      exact fun name hname => .here (text?_of_load hpolicy hload) hname
    · rw [h₁.config]
      exact fun path inner hpath hinner name hname => .inside hpath (h₁.texts _ ▸ hinner) hname
  exact hinline.bind fun out s₂ _ h₂ => replays_program h₂.retains.policy identifier out

/-! ## What was included -/

/-- While tokens were expanded, every component among them was. -/
theorem exists_of_expandTokens {expand : Text → Action Text} {tokens : List Template.Token}
    {name out : Text} (hpolicy : s.cache.policy = .keepAll)
    (hexpand : ∀ name ∈ Template.componentNames tokens, ∀ s', Follows s s' →
      Replays present (expand name) s')
    (h : expandTokens expand tokens s = (.ok out, s'))
    (hname : name ∈ Template.componentNames tokens) :
    ∃ s₁ v s₂, Follows s s₁ ∧ expand name s₁ = (.ok v, s₂) ∧ Follows s₂ s' := by
  induction tokens generalizing s out with
  | nil => simp at hname
  | cons token tokens ih =>
      have hexpand' : ∀ s₁, Follows s s₁ → ∀ other ∈ Template.componentNames tokens,
          ∀ s', Follows s₁ s' → Replays present (expand other) s' :=
        fun s₁ h₁ other hother s' hs' =>
          hexpand other (by cases token <;> simp [hother]) s' (h₁.trans hs')
      have hlater : ∀ (text : Text) s₁, Follows s s₁ →
          (do return text ++ (← expandTokens expand tokens) : Action Text) s₁ = (.ok out, s') →
          Follows s₁ s' ∧ (name ∈ Template.componentNames tokens →
            ∃ s₁ v s₂, Follows s s₁ ∧ expand name s₁ = (.ok v, s₂) ∧ Follows s₂ s') := by
        intro text s₁ h₁ hrun
        obtain ⟨rest, s₂, hrest, hrun⟩ := bind_run_eq_ok_iff.1 hrun
        cases hrun
        refine ⟨(replays_expandTokens h₁.retains.policy (hexpand' s₁ h₁) rest s' hrest).1,
          fun hmem => ?_⟩
        obtain ⟨s₃, v, s₄, h₃, hvisit, h₄⟩ := ih h₁.retains.policy (hexpand' s₁ h₁) hrest hmem
        exact ⟨s₃, v, s₄, h₁.trans h₃, hvisit, h₄⟩
      cases token with
      | literal text => exact (hlater text s (follows_refl hpolicy) h).2 hname
      | placeholder expression raw => exact (hlater raw s (follows_refl hpolicy) h).2 hname
      | component first raw =>
          obtain ⟨v, s₁, hfirst, h⟩ := (bind_run_eq_ok_iff (a := expand first)).1 h
          obtain ⟨h₁, -⟩ := hexpand first (by simp) s (follows_refl hpolicy) v s₁ hfirst
          obtain ⟨hrest, hvisits⟩ := hlater v s₁ h₁ h
          rcases List.mem_cons.1 hname with rfl | hmem
          · exact ⟨s, v, s₁, follows_refl hpolicy, hfirst, hrest⟩
          · exact hvisits hmem

section Expanded

variable {identifier text name out : Text} {path : File.Path} {remaining : Nat}

/-- Expansion succeeds with or without files that have to be there, so what is asked of
them is dropped where only its effect on the session matters. -/
theorem replays_expand_of_true (hc : s.config.Valid) (hpolicy : s.cache.policy = .keepAll)
    (remaining : Nat) (identifier text : Text) :
    Replays (fun _ => True) (expand remaining identifier text) s :=
  replays_expand hc hpolicy (fun _ _ => trivial) fun _ _ _ _ _ _ => trivial

/-- The text of an identifier was in the cache and was expanded, on the way from one session
to another. -/
def Expanded (s s' : Session) (identifier text : Text) : Prop :=
  ∃ remaining s₁ out s₂, Follows s s₁ ∧
    s₁.cache.find? (.source identifier) = some (.source text) ∧
    expand remaining identifier text s₁ = (.ok out, s₂) ∧ Follows s₂ s'

/-- The session had this text before. -/
theorem Expanded.text?_eq (h : Expanded s s' identifier text) :
    s.text? identifier = some text := by
  obtain ⟨_, s₁, _, _, h₁, hfind, -⟩ := h
  rw [← h₁.texts, Session.text?_of_hit hfind]

/-- The session keeps this text. -/
theorem Expanded.find?_eq (hc : s.config.Valid) (h : Expanded s s' identifier text) :
    s'.cache.find? (.source identifier) = some (.source text) := by
  obtain ⟨remaining, s₁, out, s₂, h₁, hfind, hexpand, h₂⟩ := h
  obtain ⟨hfollows, -⟩ :=
    replays_expand_of_true (h₁.config ▸ hc) h₁.retains.policy _ _ _ _ _ hexpand
  exact (hfollows.trans h₂).retains.entries _ _ trivial hfind

theorem Expanded.of_follows (h : Expanded s' s'' identifier text) {s₀ s₁ : Session}
    (h₀ : Follows s₀ s') (h₁ : Follows s'' s₁) : Expanded s₀ s₁ identifier text := by
  obtain ⟨remaining, s₂, out, s₃, h₂, hfind, hexpand, h₃⟩ := h
  exact ⟨remaining, s₂, out, s₃, h₀.trans h₂, hfind, hexpand, h₃.trans h₁⟩

/-- While a text was expanded, every component that it marks was, and its file was there. -/
theorem expanded_of_expand (hc : s.config.Valid) (hpolicy : s.cache.policy = .keepAll)
    (h : expand remaining identifier text s = (.ok out, s'))
    (hname : name ∈ Template.components s.config.delimiters text) :
    s.tree.isFile (s.config.componentPath name) = .ok true ∧
      ∃ inner, Expanded s s' (s.config.componentPath name).text inner := by
  obtain ⟨inside, hinside, hrun⟩ : ∃ inside : Option (Text → Text → Action Text),
      (∀ expand ∈ inside, ∃ below, expand = Render.expand below) ∧
      expandTokens (expandComponent inside identifier)
        (Template.scan s.config.delimiters text) s = (.ok out, s') := by
    cases remaining with
    | zero => exact ⟨none, by simp, h⟩
    | succ below => exact ⟨some (Render.expand below), by simp, h⟩
  have hreplays : ∀ other ∈ Template.components s.config.delimiters text, ∀ s₁, Follows s s₁ →
      Replays (fun _ => True) (expandComponent inside identifier other) s₁ := by
    intro other _ s₁ h₁
    refine replays_expandComponent (h₁.config ▸ hc) h₁.retains.policy trivial
      fun expand hexpand inner s₂ h₂ _ => ?_
    obtain ⟨below, rfl⟩ := hinside expand hexpand
    exact replays_expand_of_true ((h₁.trans h₂).config ▸ hc) h₂.retains.policy _ _ _
  obtain ⟨s₁, v, s₃, h₁, hcomponent, h₃⟩ := exists_of_expandTokens hpolicy hreplays hrun hname
  obtain ⟨expand, inner, s₂, hfound, hfile, hload, hexpand⟩ :=
    (expandComponent_eq_ok_iff (h₁.config ▸ hc)).1 hcomponent
  rw [h₁.config] at hfile hload hexpand
  obtain ⟨below, rfl⟩ := hinside expand hfound
  obtain ⟨h₂, hfind⟩ := follows_load h₁.retains.policy hload
  exact ⟨h₁.tree ▸ hfile, inner, below, s₂, v, s₃, h₁.trans h₂, hfind, hexpand, h₃⟩

/-- What is included by a page that was expanded was there, and it was expanded too. -/
theorem Expanded.includes (hc : s.config.Valid) (h : Expanded s s' identifier text)
    (hpath : s.Includes identifier path) :
    s.tree.isFile path = .ok true ∧ ∃ inner, Expanded s s' path.text inner := by
  have hstep : ∀ {identifier text inner name}, Expanded s s' identifier text →
      s.text? identifier = some inner → name ∈ Template.components s.config.delimiters inner →
      s.tree.isFile (s.config.componentPath name) = .ok true ∧
        ∃ inner, Expanded s s' (s.config.componentPath name).text inner := by
    intro identifier text inner name h htext hname
    obtain rfl := Option.some.inj (htext.symm.trans h.text?_eq)
    obtain ⟨remaining, s₁, out, s₂, h₁, -, hexpand, h₂⟩ := h
    rw [← h₁.config] at hname ⊢
    obtain ⟨hfile, inner, hinner⟩ :=
      expanded_of_expand (h₁.config ▸ hc) h₁.retains.policy hexpand hname
    exact ⟨h₁.tree ▸ hfile, inner, hinner.of_follows h₁ h₂⟩
  induction hpath with
  | here htext hname => exact hstep h htext hname
  | inside _ htext hname ih =>
      obtain ⟨-, inner, hinner⟩ := ih
      exact hstep hinner htext hname

/-- A session that retains a page that was expanded includes the same in it. -/
theorem Expanded.includes_of_retains (hc : s.config.Valid) (h : Expanded s s' identifier text)
    {t : Session} (hconfig : t.config = s.config) (hretains : Retains s'.cache t.cache)
    (hpath : s.Includes identifier path) : t.Includes identifier path := by
  have hkept : ∀ {identifier text inner}, Expanded s s' identifier text →
      s.text? identifier = some inner → t.text? identifier = some inner := by
    intro identifier text inner h htext
    obtain rfl := Option.some.inj (htext.symm.trans h.text?_eq)
    exact Session.text?_of_hit (hretains.entries _ _ trivial (h.find?_eq hc))
  induction hpath with
  | here htext hname =>
      rw [← hconfig] at hname ⊢
      exact .here (hkept h htext) hname
  | inside hpath htext hname ih =>
      obtain ⟨-, inner, hinner⟩ := h.includes hc hpath
      rw [← hconfig] at hname ⊢
      exact .inside ih (hkept hinner htext) hname

/-- The text of a page that was prepared was expanded. -/
theorem expanded_of_prepare (hc : s.config.Valid) (hpolicy : s.cache.policy = .keepAll)
    {prepared : Template.Program × Template.Compiled}
    (h : prepare identifier s = (.ok prepared, s')) : ∃ text, Expanded s s' identifier text := by
  obtain ⟨text, s₁, hload, h⟩ := bind_run_eq_ok_iff.1 h
  obtain ⟨out, s₂, hinline, h⟩ := bind_run_eq_ok_iff.1 h
  obtain ⟨h₁, hfind⟩ := follows_load hpolicy hload
  have hexpand : expand (remainingDepth s₁.config 0) identifier text s₁ = (.ok out, s₂) := by
    rw [← hinline, inline, bind_run, get_run]
  obtain ⟨h₂, -⟩ :=
    replays_expand_of_true (h₁.config ▸ hc) h₁.retains.policy _ _ _ _ _ hexpand
  have hrest : Replays (fun _ => True) _ s₂ :=
    replays_program h₂.retains.policy identifier out
  exact ⟨text, _, s₁, out, s₂, h₁, hfind, hexpand, (hrest _ _ h).1⟩

/-- A page that was prepared is prepared again, over a session that retains what it was
prepared from, exactly when the components that it included are there. -/
theorem prepare_eq_iff_of_retains (hc : s.config.Valid) (hpolicy : s.cache.policy = .keepAll)
    {prepared : Template.Program × Template.Compiled}
    (hprepare : prepare identifier s = (.ok prepared, s')) {t : Session}
    (hconfig : t.config = s'.config) (hretains : Retains s'.cache t.cache) :
    prepare identifier t = (.ok prepared, t) ↔
      ∀ path, s.Includes identifier path → t.tree.isFile path = .ok true := by
  obtain ⟨hfollows, hreplays⟩ := replays_prepare hc hpolicy identifier _ _ hprepare
  rw [hfollows.config] at hconfig
  constructor
  · intro hagain path hpath
    obtain ⟨text, hexpanded⟩ := expanded_of_prepare hc hpolicy hprepare
    have ht : t.config.Valid := hconfig ▸ hc
    obtain ⟨text', hexpanded'⟩ := expanded_of_prepare ht hretains.policy hagain
    have hpath' := hexpanded.includes_of_retains hc hconfig hretains hpath
    exact (hexpanded'.includes ht hpath').1
  · exact hreplays t hconfig hretains

end Expanded

/-! ## Runs -/

/-- Without a bound on the cache a page that was prepared stays as it is.  Whatever is asked
for afterwards, and whatever happens to the files, also to that of the page, as long as the
cache is not cleared: preparing the page again gives the same program and the same template
and changes nothing of the session, so nothing is read, compiled or logged, exactly when the
files of all components that the page included are there. -/
theorem prepare_again_iff {c : Config} (hc : c.Valid) (hsize : c.cacheSize = none)
    (tree : File.Tree) (now : Text) (earlier : List Operation) :
    let s := (Session.start c tree now).run earlier
    ∀ identifier program template s' later,
      prepare identifier s = (.ok (program, template), s') → .ask .clearCache ∉ later →
      let t := s'.run later
      prepare identifier t = (.ok (program, template), t) ↔
        ∀ path, s.Includes identifier path → t.tree.isFile path = .ok true := by
  intro s identifier program template s' later hprepare hlater t
  have hs : Within c s.tree (Recorded c) s :=
    within_run (upkeep_recorded c) hc ⟨rfl, rfl, recorded_of_entries_eq_nil rfl rfl⟩
      Recorded.clear earlier
  have hvalid : s.config.Valid := hs.config ▸ hc
  have hpolicy : s.cache.policy = .keepAll := by rw [hs.kept.policy, Config.cachePolicy, hsize]
  obtain ⟨hfollows, -⟩ := replays_prepare hvalid hpolicy identifier _ _ hprepare
  obtain ⟨hconfig, hretains⟩ :=
    retains_run (hfollows.config ▸ hvalid) hfollows.retains.policy hlater
  exact prepare_eq_iff_of_retains hvalid hpolicy hprepare hconfig hretains

/-- A page with a component that has a component. -/
def storyTree : File.Tree :=
  ⟨[], [(["page"], .file (Text.Utf8.encode "<\x7b\x7bcomponent(a)\x7d\x7d\x7b\x7by\x7d\x7d")),
    (["components"], .directory),
    (["components", "a.mizui"], .file (Text.Utf8.encode "x\x7b\x7bcomponent(b)\x7d\x7d")),
    (["components", "b.mizui"], .file (Text.Utf8.encode "z"))]⟩

/-- Both components are written anew, and the page is rendered and deleted. -/
def storyChanges : List Operation :=
  [.write (.ofText "components/a.mizui") (Text.Utf8.encode "new"),
    .write (.ofText "components/b.mizui") (Text.Utf8.encode "\x7b\x7bcomponent(c)\x7d\x7d"),
    .ask (.render "page" (.ofTree .null)), .delete (.ofText "page"), .wait "later"]

/-- The files of both components. -/
def storyPaths : List File.Path :=
  [Config.standard.componentPath "a", Config.standard.componentPath "b"]

theorem includes_story {path : File.Path}
    (h : ((Session.start .standard storyTree "now").run []).Includes "page" path) :
    path ∈ storyPaths := by
  have hpage : ∀ text ∈ ((Session.start .standard storyTree "now").run []).text? "page",
      ∀ name ∈ Template.components Config.standard.delimiters text,
        Config.standard.componentPath name ∈ storyPaths := by decide +kernel
  have hcomponents : ∀ path ∈ storyPaths,
      ∀ text ∈ ((Session.start .standard storyTree "now").run []).text? path.text,
        ∀ name ∈ Template.components Config.standard.delimiters text,
          Config.standard.componentPath name ∈ storyPaths := by decide +kernel
  induction h with
  | here htext hname => exact hpage _ htext _ hname
  | inside _ htext hname ih => exact hcomponents _ ih _ htext _ hname

/-- The page that is gone is prepared from the components as they were. -/
theorem prepare_again_iff_rewritten :
    let s := (Session.start .standard storyTree "now").run []
    let t := (prepare "page" s).2.run storyChanges
    t.tree.isFile (.ofText "page") = .ok false ∧
      readTree t.tree (.ofText "components/a.mizui") = .ok "new" ∧
      prepare "page" t =
        (.ok (⟨[.text "<xz", .lookup "y"]⟩, ⟨[.text "<xz", .path ["y"]]⟩), t) := by
  intro s t
  have hprepare : (prepare "page" s).1 =
      .ok (⟨[.text "<xz", .lookup "y"]⟩, ⟨[.text "<xz", .path ["y"]]⟩) := by decide +kernel
  have hfiles : ∀ path ∈ storyPaths, t.tree.isFile path = .ok true := by decide +kernel
  refine ⟨by decide +kernel, by decide +kernel, ?_⟩
  exact (prepare_again_iff Config.valid_standard rfl storyTree "now" [] "page" _ _
    (prepare "page" s).2 storyChanges (run_eq_of_fst hprepare)
    (by simp [storyChanges, Operation.write, Operation.delete])).2
      fun path hpath => hfiles path (includes_story hpath)

end Render
end Stencil
