import Stencil.Proofs.Render.History
import Stencil.Proofs.Template.Padding

/-!
# Templates that are shared

Right after a program was compiled it is not compiled again, whatever template it comes from then
and however small the cache is.  So texts that are read as one program share one compiled template,
as templates do that differ in the padding of their placeholders only.

Main results:

- Theorem `compile_again`: compiling a program once more finds the template.
- Theorem `repadded_templates_agree`: padding has no influence on the balance check, on the
  program and on the compiled template.
-/

namespace Stencil
namespace Render

open Stencil.Render.Action Template

variable {c : Config} {s s₁ : Session} {program : Program} {identifier : Text}
  {template : Compiled}

/-! ## Compiling once more -/

/-- In a session whose cache follows its history, a program that was just compiled is found. -/
theorem find?_of_compile (hc : c.Valid) (hs : Recorded c s.cache s.events)
    (h : compile program identifier s = (.ok template, s₁)) :
    s₁.config = s.config ∧
      s₁.cache.find? (.program program) = some (.compiled template) := by
  rcases hit_or_misses s.cache (.program program) with ⟨item, hfind, hfits⟩ | hmiss
  · rcases Key.fits_program_iff.1 hfits with ⟨found, rfl⟩
    rw [compile_of_hit hfind] at h
    cases h
    refine ⟨rfl, ?_⟩
    rw [Cache.find?_touch hs.distinct]
    exact hfind
  · rw [compile_of_miss identifier hmiss] at h
    cases hcompiled : Template.compile program identifier with
    | error error =>
        rw [hcompiled] at h
        exact absurd h (announce_ne_ok _ _ _ _)
    | ok found =>
        rw [hcompiled] at h
        cases h
        have hkey := hmiss.not_mem_keys fun key item hitem => (hs.last key item hitem).fits
        have hlimit : ∀ n, s.cache.policy = .keepRecent n → 1 ≤ n := by
          intro n hpolicy
          rw [hs.policy, Config.cachePolicy] at hpolicy
          split at hpolicy
          · cases hpolicy
          · rename_i size hsize
            cases hpolicy
            exact hc.cacheSize _ hsize
        refine ⟨rfl, (Cache.find?_eq_some_iff (Cache.nodup_keys_write hs.distinct)).2 ?_⟩
        exact Cache.mem_write_self hkey hlimit

/-- Right after a program was compiled, compiling it for whatever template gives the same result
and leaves nothing in the history. -/
theorem compile_again (hc : c.Valid) (hs : Recorded c s.cache s.events)
    (h : compile program identifier s = (.ok template, s₁)) (other : Text) :
    ∃ s₂, compile program other s₁ = (.ok template, s₂) ∧ s₂.events = s₁.events :=
  ⟨_, compile_of_hit (find?_of_compile hc hs h).2, rfl⟩

/-! ## From the text to the compiled template -/

/-- The stages after inlining: the text is read as a program, and the program is compiled. -/
def templateOf (identifier text : Text) : Action Compiled := do
  let program ← interpolate identifier text
  compile program identifier

theorem templateOf_run {text : Text}
    (h : Template.interpolate s.config.delimiters identifier text = .ok program) :
    templateOf identifier text s = compile program identifier s := by
  have hprogram : interpolate identifier text s = (.ok program, s) := by
    unfold interpolate
    rw [bind_run, get_run]
    dsimp only
    rw [h]
    rfl
  rw [templateOf, bind_run, hprogram]

/-- After every run, texts that are read as one program are given one compiled template: for the
second text nothing is compiled. -/
theorem templateOf_again (hc : c.Valid) {tree : File.Tree} {now : Text}
    {operations : List Operation} (hs : s = (Session.start c tree now).run operations)
    {text text' other : Text}
    (htext : Template.interpolate c.delimiters identifier text = .ok program)
    (htext' : Template.interpolate c.delimiters other text' = .ok program)
    (h : templateOf identifier text s = (.ok template, s₁)) :
    ∃ s₂, templateOf other text' s₁ = (.ok template, s₂) ∧ s₂.events = s₁.events := by
  have hwithin : Within c s.tree (Recorded c) s := by
    rw [hs]
    exact within_run (upkeep_recorded c) hc ⟨rfl, rfl, recorded_of_entries_eq_nil rfl rfl⟩
      Recorded.clear operations
  rw [← hwithin.config] at htext
  rw [templateOf_run htext] at h
  have hconfig := (find?_of_compile hc hwithin.kept h).1
  rw [← hwithin.config, ← hconfig] at htext'
  rw [templateOf_run htext']
  exact compile_again hc hwithin.kept h other

/-! ## Padding -/

/-- Padding has no influence.  Let the delimiters hold neither blanks nor characters of paths, and
let all placeholders of a template hold paths.  The template that comes from padding any of them
anew is scanned into the tokens it was put together from, the balance check says the same of both
templates, and where it accepts them they are read as one program.  So they share one compiled
template: after every run, compiling one of them right after the other compiles nothing. -/
theorem repadded_templates_agree {d : Delimiters} (hd : d.Plain) {text : Text}
    {tokens : List Token} (hpaths : HoldPaths (scan d text))
    (h : List.Forall₂ (Token.Repadded d) (scan d text) tokens) :
    let padded := unscan tokens
    scan d padded = tokens ∧
    (∀ identifier, checkBalance d identifier padded = checkBalance d identifier text) ∧
    ∀ identifier, checkBalance d identifier text = .ok () →
      ∃ program, (∀ page, Template.interpolate d page text = .ok program ∧
          Template.interpolate d page padded = .ok program) ∧
        ∀ c : Config, c.Valid → c.delimiters = d → ∀ tree now operations,
          ∀ t ∈ [text, padded], ∀ t' ∈ [text, padded], ∀ page other template s₁,
            templateOf page t ((Session.start c tree now).run operations) = (.ok template, s₁) →
              ∃ s₂, templateOf other t' s₁ = (.ok template, s₂) ∧ s₂.events = s₁.events := by
  intro padded
  rcases scan_repadded hd hpaths h with ⟨hscan, halike⟩
  refine ⟨hscan, ?_, ?_⟩
  · intro identifier
    exact (checkBalance_of_alike hd.toProper halike identifier).symm
  · intro identifier hbalance
    rcases exists_interpolate_repadded hd hpaths h hbalance with ⟨program, hprogram⟩
    refine ⟨program, hprogram, ?_⟩
    rintro c hc rfl tree now operations t ht t' ht' page other template s₁ hrun
    have hread : ∀ u ∈ [text, padded], ∀ name,
        Template.interpolate c.delimiters name u = .ok program := by
      intro u hu name
      rcases List.mem_pair.1 hu with rfl | rfl
      · exact (hprogram name).1
      · exact (hprogram name).2
    exact templateOf_again hc rfl (hread t ht page) (hread t' ht' other) hrun

/-- Delimiters that overlap, with a cache for one entry. -/
def tightConfig : Config :=
  { Config.standard with delimiters := ⟨"<<", "<>"⟩, cacheSize := some 1 }

/-- Strays of both kinds stand around a placeholder, one of them closed on the next line only.  The
padding of both placeholders is changed; the second text is not compiled. -/
theorem repadded_templates_agree_strays :
    let d : Delimiters := tightConfig.delimiters
    let text : Text := "<> << a.b <> <<\n<<c\t<>"
    let padded : Text := "<> <<\ta.b<> <<\n<<  c <>"
    let s := (Session.start tightConfig (.bare []) "now").run []
    d.Plain ∧ checkBalance d "first" text = .ok () ∧
      Template.interpolate d "second" padded =
        .ok ⟨[.text "<> ", .lookup "a.b", .text " <<\n", .lookup "c"]⟩ ∧
      ∃ template s₁ s₂, templateOf "first" text s = (.ok template, s₁) ∧
        templateOf "second" padded s₁ = (.ok template, s₂) ∧ s₂.events = s₁.events := by
  intro d text padded s
  have hd : d.Plain := by
    refine ⟨⟨by decide, by decide⟩, ?_, ?_⟩
    · intro c hc
      obtain rfl : c = '<' := by simpa [d, tightConfig] using hc
      decide +kernel
    · intro c hc
      obtain rfl | rfl : c = '<' ∨ c = '>' := by simpa [d, tightConfig] using hc
      · decide +kernel
      · decide +kernel
  have hvalid : tightConfig.Valid :=
    ⟨hd.toProper, Config.valid_standard.basePath, by simp [tightConfig]⟩
  have hscan : scan d text = [.literal "<> ", .placeholder "a.b" "<< a.b <>", .literal " <<\n",
      .placeholder "c" "<<c\t<>"] := by decide +kernel
  have hpaths : HoldPaths (scan d text) := by
    intro expression raw hmem
    simp only [hscan, List.mem_cons, List.not_mem_nil, reduceCtorEq, false_or, or_false,
      Token.placeholder.injEq] at hmem
    rcases hmem with ⟨rfl, -⟩ | ⟨rfl, -⟩
    · decide +kernel
    · decide +kernel
  have hpadded : List.Forall₂ (Token.Repadded d) (scan d text)
      [.literal "<> ", .placeholder "a.b" "<<\ta.b<>", .literal " <<\n",
        .placeholder "c" "<<  c <>"] := by
    rw [hscan]
    have hfirst := Token.Repadded.placeholder (d := d) "a.b" "<< a.b <>" "\t" [] (by decide)
      (by decide)
    have hsecond := Token.Repadded.placeholder (d := d) "c" "<<c\t<>" "  " " " (by decide)
      (by decide)
    exact .cons (.same _) (.cons hfirst (.cons (.same _) (.cons hsecond .nil)))
  have hbalance : checkBalance d "first" text = .ok () := by decide +kernel
  have hpaddedText : unscan [.literal "<> ", .placeholder "a.b" "<<\ta.b<>", .literal " <<\n",
      .placeholder "c" "<<  c <>"] = padded := by decide
  rcases repadded_templates_agree hd hpaths hpadded with ⟨-, -, hagree⟩
  rw [hpaddedText] at hagree
  rcases hagree "first" hbalance with ⟨program, hprogram, hshared⟩
  have hread : Template.interpolate d "first" text =
      .ok ⟨[.text "<> ", .lookup "a.b", .text " <<\n", .lookup "c"]⟩ := by decide +kernel
  have hrun : (templateOf "first" text s).1 =
      .ok ⟨[.text "<> ", .path ["a", "b"], .text " <<\n", .path ["c"]]⟩ := by decide +kernel
  rcases hshared tightConfig hvalid rfl (.bare []) "now" [] text (by simp) padded (by simp)
    "first" "second" _ _ (run_eq_of_fst hrun) with ⟨s₂, hsecond, hevents⟩
  refine ⟨hd, hbalance, ?_, _, _, s₂, run_eq_of_fst hrun, hsecond, hevents⟩
  rw [(hprogram "second").2, ← (hprogram "first").1, hread]

end Render
end Stencil
