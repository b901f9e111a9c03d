import Stencil.Proofs.Config.Validity
import Stencil.Proofs.Render.CacheEntries
import Stencil.Proofs.Render.Plain
import Stencil.Proofs.Render.Settling
import Stencil.Proofs.Template.Stages

/-!
# Coherent caches

The cache is coherent with a file tree when every text in it is what the tree holds, and
every compiled template in it is what its program is compiled to.  All stages of rendering
keep a cache coherent, and over a coherent cache they settle with their plain results.

Main results:

- Structure `Coherent`: a session whose cache is coherent with a file tree.
- Theorem `settles_load`: a text from the cache or the file is the text of the file.
- Theorem `settles_expand`: expansion over a coherent cache is plain expansion.
- Theorem `settles_prepare`: so are all stages before the data come in.
-/

namespace Stencil
namespace Render

open Stencil.Render.Action

variable {c : Config} {concerned : File.Path → Prop} {disk : File.Tree} {s : Session}

/-! ## The invariant -/

/-- Two file trees that hold the same files at the paths that templates are read from. -/
def Agree (concerned : File.Path → Prop) (disk tree : File.Tree) : Prop :=
  ∀ path, concerned path → tree.isFile path = disk.isFile path ∧ tree.read path = disk.read path

theorem Agree.refl (concerned : File.Path → Prop) (disk : File.Tree) :
    Agree concerned disk disk :=
  fun _ _ => ⟨rfl, rfl⟩

/-- Whether an entry says what the files and the compiler say. -/
def Faithful (concerned : File.Path → Prop) (disk : File.Tree) : Key × Item → Prop
  | (.source identifier, .source text) =>
    concerned (.ofText identifier) ∧ readTree disk (.ofText identifier) = .ok text
  | (.program program, .compiled template) =>
    ∀ identifier, Template.compile program identifier = .ok template
  | _ => False

/-- A session whose files are those of `disk`, as far as templates are concerned, and
whose cache says nothing else. -/
structure Coherent (c : Config) (concerned : File.Path → Prop) (disk : File.Tree)
    (s : Session) : Prop where
  config : s.config = c
  agree : Agree concerned disk s.tree
  faithful : ∀ e ∈ s.cache.entries, Faithful concerned disk e

/-- The paths that templates are read from include those of all components in them. -/
def Closed (c : Config) (concerned : File.Path → Prop) (disk : File.Tree) : Prop :=
  ∀ path text, concerned path → readTree disk path = .ok text →
    ∀ name ∈ Template.components c.delimiters text, concerned (c.componentPath name)

/-- An empty cache says nothing, so it says nothing false. -/
theorem coherent_of_entries_eq_nil (hconfig : s.config = c) (hagree : Agree concerned disk s.tree)
    (hcache : s.cache.entries = []) : Coherent c concerned disk s :=
  ⟨hconfig, hagree, by simp [hcache]⟩

/-- An empty cache is coherent with every disk. -/
theorem Coherent.clear (hs : Coherent c concerned disk s) :
    Coherent c concerned disk { s with cache := s.cache.clear } :=
  ⟨hs.config, hs.agree, by simp [Cache.clear]⟩

theorem settles_record (hs : Coherent c concerned disk s) (event : Event) :
    Settles (Coherent c concerned disk) (record event) s (.ok ()) := by
  refine ⟨{ s with events := s.events ++ [event] }, ⟨rfl, rfl, rfl, rfl⟩, ?_, rfl⟩
  exact ⟨hs.config, hs.agree, hs.faithful⟩

/-- A use changes the order of the entries only, which coherence does not mind. -/
theorem settles_touch (hs : Coherent c concerned disk s) (key : Key) :
    Settles (Coherent c concerned disk) (modifyCache (Cache.touch key)) s (.ok ()) := by
  refine ⟨{ s with cache := s.cache.touch key }, ⟨rfl, rfl, rfl, rfl⟩, ?_, rfl⟩
  exact ⟨hs.config, hs.agree, fun e he => hs.faithful e (Cache.mem_touch.1 he)⟩

/-- Only what the files and the compiler say may be written. -/
theorem settles_write (hs : Coherent c concerned disk s) {key : Key} {item : Item}
    (h : Faithful concerned disk (key, item)) :
    Settles (Coherent c concerned disk) (modifyCache (Cache.write key item)) s (.ok ()) := by
  refine ⟨{ s with cache := s.cache.write key item }, ⟨rfl, rfl, rfl, rfl⟩, ?_, rfl⟩
  refine ⟨hs.config, hs.agree, fun e he => ?_⟩
  rcases Cache.mem_of_mem_write he with hold | rfl
  · exact hs.faithful e hold
  · exact h

/-- What is found in a coherent cache is what would be read or compiled. -/
theorem Coherent.faithful_of_find? (hs : Coherent c concerned disk s) {key : Key} {item : Item}
    (h : s.cache.find? key = some item) : Faithful concerned disk (key, item) :=
  hs.faithful _ (Cache.mem_of_find? h)

/-! ## Loading -/

/-- Concerned paths are files just when they are on the disk. -/
theorem settles_isFile (hs : Coherent c concerned disk s) {path : File.Path}
    (hpath : concerned path) :
    Settles (Coherent c concerned disk) (isFile path) s (Plain.isFile disk path) := by
  refine Settles.get_bind ?_
  rw [Plain.isFile, ← (hs.agree path hpath).1]
  cases s.tree.isFile path with
  | ok found => exact settles_pure hs found
  | error fault => exact settles_throw hs rfl

/-- Faults of reading are not announced. -/
theorem announcement?_of_readTree {path : File.Path} {f : Failure}
    (h : readTree disk path = .error f) : f.announcement? = none := by
  rcases Plain.readTree_eq_error h with ⟨fault, rfl⟩ | ⟨fault, rfl⟩ <;> rfl

/-- A concerned file is read as it is on the disk. -/
theorem settles_readText (hs : Coherent c concerned disk s) {identifier : Text}
    (hpath : concerned (.ofText identifier)) :
    Settles (Coherent c concerned disk) (readText identifier) s
      (readTree disk (.ofText identifier)) := by
  have hread : readTree s.tree (.ofText identifier) = readTree disk (.ofText identifier) := by
    unfold readTree
    rw [(hs.agree _ hpath).2]
  refine Settles.get_bind ?_
  dsimp only
  rw [hread]
  refine (settles_record hs _).ok_bind fun s' hs' => ?_
  cases hresult : readTree disk (.ofText identifier) with
  | ok text => exact settles_pure hs' text
  | error f => exact settles_throw hs' (announcement?_of_readTree hresult)

/-- A text is fetched as it is on the disk, with or without the cache. -/
theorem settles_fetch (hs : Coherent c concerned disk s) {identifier : Text}
    (hpath : concerned (.ofText identifier)) :
    Settles (Coherent c concerned disk) (fetch identifier) s (Plain.source disk identifier) := by
  refine (settles_isFile hs hpath).bind fun found s' _ _ hs' => ?_
  cases found with
  | true => exact settles_readText hs' hpath
  | false => exact settles_announce hs' (.template (.templateNotFound identifier))

/-- A text from the cache or the file is the text of the file. -/
theorem settles_load (hs : Coherent c concerned disk s) {identifier : Text}
    (hpath : concerned (.ofText identifier)) :
    Settles (Coherent c concerned disk) (load identifier) s (Plain.source disk identifier) := by
  refine Settles.get_bind ?_
  split
  · rename_i text hfind
    have hread := (hs.faithful_of_find? hfind).2
    rw [Plain.source_eq_readTree (Plain.isFile_of_readTree hread), hread]
    exact (settles_touch hs _).ok_bind fun s' hs' => settles_pure hs' text
  · rw [← bind_pure (Plain.source disk identifier)]
    refine (settles_fetch hs hpath).bind fun text s' htext _ hs' => ?_
    have hread : readTree disk (.ofText identifier) = .ok text :=
      (Plain.source_eq_readTree (Plain.isFile_of_source htext)).symm.trans htext
    have hfaithful : Faithful concerned disk (.source identifier, .source text) := ⟨hpath, hread⟩
    exact (settles_write hs' hfaithful).ok_bind fun s'' hs'' => settles_pure hs'' text

/-- The text of a file that exists; it fails only as reading fails. -/
theorem settles_loadOrEmpty (hs : Coherent c concerned disk s) (identifier : Text)
    (hpath : concerned (.ofText identifier))
    (hfile : Plain.isFile disk (.ofText identifier) = .ok true) :
    Settles (Coherent c concerned disk) (loadOrEmpty identifier) s
      (readTree disk (.ofText identifier)) := by
  obtain ⟨s', hsteady, hs', hrun⟩ := settles_load hs hpath
  rw [Plain.source_eq_readTree hfile] at hrun
  refine ⟨s', hsteady, hs', ?_⟩
  unfold loadOrEmpty attempt
  rw [bind_run, hrun]
  cases hread : readTree disk (.ofText identifier) with
  | ok text => rfl
  | error f =>
      simp only [settle, announce, announcement?_of_readTree hread]
      rcases Plain.readTree_eq_error hread with ⟨fault, rfl⟩ | ⟨fault, rfl⟩ <;> rfl

/-! ## Expansion -/

/-- By induction on the tokens, for components that settle. -/
theorem settles_expandTokens {expand : Text → Action Text} {plain : Text → Except Failure Text}
    {tokens : List Template.Token} (hs : Coherent c concerned disk s)
    (hexpand : ∀ name raw s', .component name raw ∈ tokens → Coherent c concerned disk s' →
      Settles (Coherent c concerned disk) (expand name) s' (plain name)) :
    Settles (Coherent c concerned disk) (expandTokens expand tokens) s
      (Plain.expandTokens plain tokens) := by
  induction tokens generalizing s with
  | nil => exact settles_pure hs []
  | cons token tokens ih =>
      have hrest : ∀ text s', Coherent c concerned disk s' →
          Settles (Coherent c concerned disk) (do return text ++ (← expandTokens expand tokens)) s'
            (do return text ++ (← Plain.expandTokens plain tokens)) := by
        intro text s' hs'
        refine (ih hs' fun name raw s'' hmem => hexpand name raw s'' ?_).bind
          fun rest s'' _ _ hs'' => settles_pure hs'' _
        exact List.mem_cons_of_mem _ hmem
      cases token with
      | literal text => exact hrest text s hs
      | placeholder expression raw => exact hrest raw s hs
      | component name raw =>
          exact (hexpand name raw s (List.mem_cons_self ..) hs).bind
            fun text s' _ _ hs' => hrest text s' hs'

/-- A component settles at what plain expansion gives. -/
theorem settles_expandComponent (hc : c.Valid) (hs : Coherent c concerned disk s)
    {inside : Option (Text → Text → Action Text)}
    {plain : Option (Text → Text → Except Failure Text)} {identifier name : Text}
    (hpath : concerned (c.componentPath name))
    (hinside : Option.Rel (fun expand expand' => ∀ text s',
      readTree disk (c.componentPath name) = .ok text → Coherent c concerned disk s' →
        Settles (Coherent c concerned disk) (expand (c.componentPath name).text text) s'
          (expand' (c.componentPath name).text text)) inside plain) :
    Settles (Coherent c concerned disk) (expandComponent inside identifier name) s
      (Plain.expandComponent c disk plain identifier name) := by
  have hread := File.Path.ofText_text (Config.normal_componentPath hc name)
  refine Settles.get_bind ?_
  rw [hs.config]
  cases hinside with
  | none => exact settles_announce hs (.template (.recursionTooDeep identifier))
  | some hinside =>
      refine (settles_isFile hs hpath).bind fun found s' hfound _ hs' => ?_
      cases found with
      | false => exact settles_announce hs' (.template (.componentNotFound _ identifier))
      | true =>
          have hload := settles_loadOrEmpty hs' (c.componentPath name).text
          rw [hread] at hload
          exact (hload hpath hfound).bind fun text s'' htext _ hs'' => hinside text s'' htext hs''

/-- Expansion over a coherent cache is plain expansion. -/
theorem settles_expand (hc : c.Valid) (hclosed : Closed c concerned disk) {remaining : Nat}
    {identifier text : Text} (hs : Coherent c concerned disk s)
    (hnames : ∀ name ∈ Template.components c.delimiters text, concerned (c.componentPath name)) :
    Settles (Coherent c concerned disk) (expand remaining identifier text) s
      (Plain.expand c disk remaining identifier text) := by
  induction remaining generalizing identifier text s with
  | zero =>
      refine Settles.get_bind ?_
      rw [hs.config]
      refine settles_expandTokens hs fun name raw s' hmem hs' => ?_
      exact settles_expandComponent hc hs'
        (hnames name (Template.mem_componentNames.2 ⟨raw, hmem⟩)) .none
  | succ remaining ih =>
      refine Settles.get_bind ?_
      rw [hs.config]
      refine settles_expandTokens hs fun name raw s' hmem hs' => ?_
      have hpath := hnames name (Template.mem_componentNames.2 ⟨raw, hmem⟩)
      exact settles_expandComponent hc hs' hpath
        (.some fun text' s'' htext hs'' => ih hs'' (hclosed _ text' hpath htext))

/-- Everything that a text includes is concerned when what it marks is. -/
theorem settles_inline (hc : c.Valid) (hclosed : Closed c concerned disk)
    (hs : Coherent c concerned disk s) (text : Text) (depth : Int) (identifier : Text)
    (hnames : ∀ name ∈ Template.components c.delimiters text, concerned (c.componentPath name)) :
    Settles (Coherent c concerned disk) (inline text depth identifier) s
      (Plain.expand c disk (remainingDepth c depth) identifier text) := by
  refine Settles.get_bind ?_
  rw [hs.config]
  exact settles_expand hc hclosed hs hnames

/-- What a caller sees of expansion over a cache that is coherent with the files. -/
theorem inline_run_fst (hc : s.config.Valid)
    (hs : Coherent s.config (fun _ => True) s.tree s) (text : Text) (depth : Int)
    (identifier : Text) :
    (inline text depth identifier s).1 =
      (Plain.expand s.config s.tree (remainingDepth s.config depth) identifier text).mapError
        s.escaping :=
  (settles_inline hc (fun _ _ _ _ _ _ => trivial) hs text depth identifier
    fun _ _ => trivial).run_fst

/-! ## Programs -/

/-- Interpolation does not read anything. -/
theorem settles_interpolate (hs : Coherent c concerned disk s) {identifier text : Text} :
    Settles (Coherent c concerned disk) (interpolate identifier text) s
      (Plain.interpolate c identifier text) := by
  refine Settles.get_bind ?_
  rw [hs.config, Plain.interpolate]
  cases hprogram : Template.interpolate c.delimiters identifier text with
  | ok program => exact settles_pure hs program
  | error error =>
      rcases Template.interpolate_eq_error hprogram with ⟨line, imbalance, rfl⟩ | ⟨raw, rfl⟩
      · exact settles_announce hs (.template (.unbalanced identifier line imbalance))
      · exact settles_announce hs (.template (.emptyPlaceholder raw identifier))

/-- A compiled template from the cache or the compiler is what the compiler gives. -/
theorem settles_compile (hs : Coherent c concerned disk s) {program : Template.Program}
    {identifier : Text} :
    Settles (Coherent c concerned disk) (compile program identifier) s
      (Plain.compile program identifier) := by
  refine Settles.get_bind ?_
  split
  · rename_i template hfind
    rw [Plain.compile, hs.faithful_of_find? hfind identifier]
    exact (settles_touch hs _).ok_bind fun s' hs' => settles_pure hs' template
  · refine (settles_record hs _).ok_bind fun s' hs' => ?_
    unfold Plain.compile
    cases hcompiled : Template.compile program identifier with
    | ok template =>
        have hfaithful : Faithful concerned disk (.program program, .compiled template) :=
          Template.compile_eq_ok hcompiled
        exact (settles_write hs' hfaithful).ok_bind fun s'' hs'' => settles_pure hs'' template
    | error error =>
        obtain ⟨expression, rfl⟩ := Template.compile_eq_error hcompiled
        exact settles_announce hs' (.template (.notAPath expression identifier))

/-- All stages before the data come in settle with their plain results. -/
theorem settles_prepare (hc : c.Valid) (hclosed : Closed c concerned disk)
    (hs : Coherent c concerned disk s) {identifier : Text}
    (hpath : concerned (.ofText identifier)) :
    Settles (Coherent c concerned disk) (prepare identifier) s
      (Plain.prepare c disk identifier) := by
  refine (settles_load hs hpath).bind fun text s' htext _ hs' => ?_
  have hread : readTree disk (.ofText identifier) = .ok text :=
    (Plain.source_eq_readTree (Plain.isFile_of_source htext)).symm.trans htext
  refine (settles_inline hc hclosed hs' text 0 identifier (hclosed _ text hpath hread)).bind
    fun text' s'' _ _ hs'' => ?_
  refine (settles_interpolate hs'').bind fun program s₃ _ _ hs₃ => ?_
  exact (settles_compile hs₃).bind fun template s₄ _ _ hs₄ => settles_pure hs₄ _

end Render
end Stencil
