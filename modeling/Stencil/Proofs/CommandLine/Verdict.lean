import Stencil.Proofs.CommandLine.Configuring
import Stencil.Proofs.Markup.Escape
import Stencil.Proofs.Render.Coherence
import Stencil.Proofs.Render.LogTrace
import Stencil.Proofs.Template.Dependence

/-!
# Checking and rendering

Checking a template comes to the same verdict as rendering it, as far as the data are not
concerned: it goes through the same stages, and names the same error.  It is less careful
than rendering in two respects.  A failure that is no error of a template stops it, and so
does a path that the title of a panel cannot show.

Main results:

- Definition `FailsEarly`: rendering a template fails before the data come in.
- Theorem `failsEarly_iff`: it does so when preparing the template fails.
- Theorems `check_of_prepared`, `check_of_refused` and `check_of_stopped`: what checking
  comes to, by the outcome of preparing.
- Theorem `check_agrees_with_render`: the verdicts of checking, by what rendering does.
-/

namespace Stencil
namespace CommandLine

open Stencil.Render

variable {c : Config} {config : Option File.Path} {h : Host} {template : File.Path}

/-! ## Panels -/

theorem panels_receive (r : Logging.Record) (k : Logging.Console) :
    (k.receive r).panels = k.panels := by
  unfold Logging.Console.receive
  split <;> rfl

/-- Messages for the operator are no panels. -/
theorem panels_tell (messages : List Message) (k : Logging.Console) :
    (Host.tell messages k).panels = k.panels := by
  induction messages generalizing k with
  | nil => rfl
  | cons m messages ih => exact (ih _).trans (panels_receive _ k)

/-- When its frame and its body can be drawn, the title decides on a panel. -/
theorem check_panel {title body style : Text} (hstyle : Markup.checkStyle style = .ok ())
    (hbody : Markup.check body = .ok ()) :
    Markup.Panel.check ⟨title, body, style⟩ = Markup.check title := by
  unfold Markup.Panel.check
  rw [hstyle, hbody]
  cases Markup.check title <;> rfl

theorem checkStyle_red : Markup.checkStyle "red" = .ok () :=
  Markup.checkStyle_of_readStyle Markup.readStyle_red

theorem checkStyle_green : Markup.checkStyle "green" = .ok () := by
  have hread : Markup.readStyle "green" = .ok ⟨[], some "green", none, none⟩ := by decide
  exact Markup.checkStyle_of_readStyle hread

/-- What comes of a command that ends with a code after a panel, when only the title of the
panel matters. -/
def verdict (code : Nat) (title : Text) : Except Fault Nat :=
  ((Markup.check title).mapError .panel).map fun _ => code

theorem verdict_eq_ok_iff {code other : Nat} {title : Text} :
    verdict code title = .ok other ↔ other = code ∧ Markup.check title = .ok () := by
  unfold verdict
  rw [Outcome.map_eq_ok_iff]
  constructor
  · rintro ⟨⟨⟩, hcheck, rfl⟩
    exact ⟨rfl, Outcome.mapError_eq_ok_iff.1 hcheck⟩
  · rintro ⟨rfl, hcheck⟩
    exact ⟨(), Outcome.mapError_eq_ok_iff.2 hcheck, rfl⟩

theorem verdict_ne_failure {code : Nat} {title : Text} {f : Failure} :
    verdict code title ≠ .error (.failure f) := by
  intro herror
  obtain ⟨_, -, hfault⟩ := Outcome.mapError_eq_error_iff.1 (Outcome.map_eq_error_iff.1 herror)
  cases hfault

theorem endWithPanel_of_check (code : Nat) (title : Text) {style body : Text}
    (hstyle : Markup.checkStyle style = .ok ()) (hbody : Markup.check body = .ok ()) :
    (endWithPanel code title style body h).1 = verdict code title ∧
      (endWithPanel code title style body h).2.console.panels =
        h.console.panels ++ [⟨title, body, style⟩] := by
  rw [verdict, ← check_panel hstyle hbody]
  exact ⟨rfl, rfl⟩

/-- The panel for a template that does not pass the check. -/
def errorPanel (template : File.Path) (error : Template.Error) : Markup.Panel :=
  ⟨template.text, Markup.styled "red" error.kind.name ++ ": " ++ Markup.escape error.message, "red"⟩

/-- The panel for a template that is not rendered. -/
def failurePanel (f : Failure) : Markup.Panel :=
  ⟨"render failed", Markup.styled "red" (Markup.escape f.message), "red"⟩

theorem check_errorPanel_body (template : File.Path) (error : Template.Error) :
    Markup.check (errorPanel template error).body = .ok () := by
  have hname : error.kind.name.all Markup.isHarmless := by
    cases error.kind <;> decide
  exact Markup.check_styled_append_escape hname error.message

/-! ## The configured host -/

/-- In a fresh context an action runs on a fresh session, and shows no panels.  The variables that
were loaded before do not matter to it. -/
theorem exists_perform_eq {α : Type} (action : Action α) (path : File.Path) (c : Config)
    (h : Host) (installed : Option Context) :
    ∃ after : Host, after.console.panels = h.console.panels ∧
      Host.perform action (.ofConfig path c) { h.loadVariables.2 with context := installed } =
        ((action (.start c h.tree h.now)).1, after) :=
  ⟨_, panels_tell _ _, rfl⟩

/-! ## Early failures -/

/-- Rendering a template fails before the data come in: it fails for another reason than
that the compiled template fails on the data. -/
def FailsEarly (c : Config) (h : Host) (template : File.Path) (data : Data) (f : Failure) : Prop :=
  (Render.render template.text data (.start c h.tree h.now)).1 = .ok ⟨template.text, [], some f⟩ ∧
    f.kind? ≠ some .invocation

/-- When a compiled template fails, it fails on the data. -/
theorem kind?_of_invoke {identifier text : Text} {t : Template.Compiled} {data : Data}
    {s : Session} {f : Failure}
    (hinvoke : (invoke identifier t data s).1 = .ok ⟨identifier, text, some f⟩) :
    f.kind? = some .invocation := by
  cases happly : t.apply data with
  | error raised =>
      rw [invoke_of_raised happly] at hinvoke
      cases hinner : raised.inner? with
      | some inner =>
          cases (logs_crashed_of_inner identifier data hinner s).result.symm.trans hinvoke
      | none =>
          have hrun := run_eq_of_fst hinvoke
          unfold crashed at hrun
          rw [hinner] at hrun
          obtain ⟨_, s', -, hfailed⟩ := bind_run_eq_ok_iff.1 hrun
          obtain ⟨_, s'', -, hresult⟩ := bind_run_eq_ok_iff.1 hfailed
          cases hresult
          rfl
  | ok text =>
      cases (logs_invoke_of_applied happly identifier s).result.symm.trans hinvoke

theorem kind?_ne_of_staged {page : Text} {f : Failure} (hstaged : f.Staged page) :
    f.kind? ≠ some .invocation := by
  cases f with
  | file fault => simp [Failure.kind?]
  | decoding fault => simp [Failure.kind?]
  | template error =>
      cases error with
      | invocation report identifier => exact hstaged.elim
      | unreported raised identifier => exact hstaged.elim
      | _ => simp [Failure.kind?, Template.Error.kind]

theorem exists_of_kind? {f : Failure} {kind : Template.ErrorKind} (hkind : f.kind? = some kind) :
    ∃ error, f = .template error := by
  cases f with
  | template error => exact ⟨error, rfl⟩
  | file fault => cases hkind
  | decoding fault => cases hkind

/-- Rendering fails early when preparing fails, and with the same failure. -/
theorem failsEarly_iff (hc : c.Valid) (hlog : Loggable c.errorLog) {data : Data} {f : Failure} :
    FailsEarly c h template data f ↔
      (prepare template.text (.start c h.tree h.now)).1 = .error f := by
  obtain ⟨prepared, hstaged, hprepare⟩ :=
    logs_prepare (s := .start c h.tree h.now) hc hlog template.text
  rw [hprepare.result]
  cases prepared with
  | error f' =>
      have hrender : Logs (Render.render template.text data) (.start c h.tree h.now) _ _ :=
        hprepare.attempt.bind fun s' hconfig => logs_failed (hconfig ▸ hlog) template.text f'
      unfold FailsEarly
      rw [hrender.result]
      constructor
      · rintro ⟨heq, -⟩
        cases heq
        rfl
      · intro heq
        cases heq
        exact ⟨rfl, kind?_ne_of_staged (hstaged f rfl)⟩
  | ok v =>
      constructor
      · rintro ⟨hrender, hkind⟩
        obtain ⟨_, s', hattempt, hinvoke⟩ := bind_run_eq_ok_iff.1 (run_eq_of_fst hrender)
        have hok := hprepare.attempt.result
        rw [hattempt] at hok
        cases hok
        exact absurd (kind?_of_invoke (congrArg Prod.fst hinvoke)) hkind
      · intro heq
        cases heq

/-- The paths of a template that was prepared are dotted paths. -/
theorem isPath_of_prepare {tree : File.Tree} {now identifier : Text} {program : Template.Program}
    {t : Template.Compiled} (hc : c.Valid)
    (hprepare : (prepare identifier (.start c tree now)).1 = .ok (program, t)) :
    ∀ path ∈ program.paths, Template.isPath path = true := by
  have hcoherent : Coherent c (fun _ => True) tree (.start c tree now) :=
    coherent_of_entries_eq_nil rfl (.refl _ _) rfl
  have hsettles : Settles _ (prepare identifier) _ _ :=
    settles_prepare hc (fun _ _ _ _ _ _ => trivial) hcoherent trivial
  rw [hsettles.run_fst, Outcome.mapError_eq_ok_iff] at hprepare
  obtain ⟨_, -, hprepare⟩ := Outcome.bind_eq_ok_iff.1 hprepare
  obtain ⟨_, -, hprepare⟩ := Outcome.bind_eq_ok_iff.1 hprepare
  obtain ⟨_, -, hprepare⟩ := Outcome.bind_eq_ok_iff.1 hprepare
  obtain ⟨_, hcompile, hpair⟩ := Outcome.bind_eq_ok_iff.1 hprepare
  cases hpair
  have hpaths := (Template.lookups_of_compile (Outcome.mapError_eq_ok_iff.1 hcompile)).2
  exact fun path hpath => hpaths path (Template.mem_paths.1 hpath)

/-- Lines with dotted paths hold only characters of words, points, dashes and blanks. -/
theorem not_mem_lines_of_isPath {paths : List Text}
    (hpaths : ∀ path ∈ paths, Template.isPath path = true) {c : Char} (hfeed : c ≠ '\n')
    (hdash : c ∉ ("- " : Text)) (hpoint : c ≠ '.') (hword : Text.isWord c = false) :
    c ∉ Text.join "\n" (paths.map fun path => "- " ++ path) := by
  intro hmem
  obtain ⟨line, hline, hmem⟩ := (Text.mem_join hfeed).1 hmem
  obtain ⟨path, hpath, rfl⟩ := List.mem_map.1 hline
  have hinside : c ∈ path := (List.mem_append.1 hmem).resolve_left hdash
  rw [Template.isWord_of_isPath (hpaths path hpath) hinside hpoint] at hword
  cases hword

/-- The listing of dotted paths can be drawn. -/
theorem check_listing {paths : List Text} (hpaths : ∀ path ∈ paths, Template.isPath path = true) :
    Markup.check (listing paths) = .ok () := by
  unfold listing
  split
  · rfl
  · have hbracket := not_mem_lines_of_isPath (c := '[') hpaths (by decide) (by decide) (by decide)
      (by decide +kernel)
    have hslash := not_mem_lines_of_isPath (c := '\\') hpaths (by decide) (by decide) (by decide)
      (by decide +kernel)
    exact Markup.check_of_harmless (List.all_eq_true.2 fun c hmem => Markup.isHarmless_iff.2
      ⟨ne_of_mem_of_not_mem hmem hbracket, ne_of_mem_of_not_mem hmem hslash⟩)

/-! ## What commands come to -/

section Outcomes

variable (hready : h.console.ready = true) (hvariables : h.loadVariables.1 = .ok ())
  (hload : Config.load h.tree (h.loadVariables.2.configPath config) = .ok c)
include hready hvariables hload

/-- Checking is preparing, and then saying what came of it. -/
theorem exists_check_eq (template : File.Path) :
    ∃ after : Host, after.console.panels = h.console.panels ∧
      check template config h =
        match (prepare template.text (.start c h.tree h.now)).1 with
        | .error (.template error) =>
          endWithPanel failed template.text "red" (errorPanel template error).body after
        | .error f => (.error (.failure f), after)
        | .ok (program, _) =>
          endWithPanel succeeded (template.text ++ " ok") "green" (listing program.paths)
            after := by
  let path := h.loadVariables.2.configPath config
  obtain ⟨after, hpanels, hperform⟩ :=
    exists_perform_eq (prepare template.text) path c h (some (.ofConfig path c))
  refine ⟨after, hpanels, ?_⟩
  unfold check
  rw [configure_of_load hready hvariables hload]
  dsimp only
  rw [hperform]
  rcases (prepare template.text (.start c h.tree h.now)).1 with (_ | _ | _) | _ <;> rfl

/-- A template that can be prepared passes the check. -/
theorem check_of_prepared (hc : c.Valid) {prepared : Template.Program × Template.Compiled}
    (hprepare : (prepare template.text (.start c h.tree h.now)).1 = .ok prepared) :
    (check template config h).1 = verdict succeeded (template.text ++ " ok") := by
  obtain ⟨after, -, hcheck⟩ := exists_check_eq hready hvariables hload template
  rw [hprepare] at hcheck
  have hlisting := check_listing (isPath_of_prepare hc hprepare)
  rw [hcheck]
  exact (endWithPanel_of_check _ _ checkStyle_green hlisting).1

/-- An error of a template is shown. -/
theorem check_of_refused {error : Template.Error}
    (hprepare : (prepare template.text (.start c h.tree h.now)).1 = .error (.template error)) :
    (check template config h).1 = verdict failed template.text ∧
      (check template config h).2.console.panels =
        h.console.panels ++ [errorPanel template error] := by
  obtain ⟨after, hpanels, hcheck⟩ := exists_check_eq hready hvariables hload template
  rw [hprepare] at hcheck
  rw [hcheck, ← hpanels]
  exact endWithPanel_of_check _ _ checkStyle_red (check_errorPanel_body template error)

/-- Any other failure stops the check. -/
theorem check_of_stopped {f : Failure} (hkind : f.kind? = none)
    (hprepare : (prepare template.text (.start c h.tree h.now)).1 = .error f) :
    (check template config h).1 = .error (.failure f) := by
  obtain ⟨after, -, hcheck⟩ := exists_check_eq hready hvariables hload template
  rw [hprepare] at hcheck
  cases f with
  | template error => cases hkind
  | file fault => rw [hcheck]
  | decoding fault => rw [hcheck]

/-- A rendering that fails early is reported, whatever it fails with. -/
theorem render_of_failsEarly {dataFile : Option File.Path} {settings : List Text} {data : Data}
    (hdata : gather h.tree dataFile settings = .ok data) {f : Failure}
    (hfails : FailsEarly c h template data f) :
    (render template dataFile settings config h).1 = .ok failed ∧
      (render template dataFile settings config h).2.console.panels =
        h.console.panels ++ [failurePanel f] := by
  let path := h.loadVariables.2.configPath config
  obtain ⟨after, hpanels, hperform⟩ :=
    exists_perform_eq (Render.render template.text data) path c h (some (.ofConfig path c))
  have hrender : render template dataFile settings config h =
      report ⟨template.text, [], some f⟩ after := by
    unfold render
    rw [hdata]
    dsimp only
    rw [configure_of_load hready hvariables hload]
    dsimp only
    rw [hperform, hfails.1]
  have htitle : Markup.check "render failed" = .ok () := rfl
  obtain ⟨hcode, hshown⟩ := endWithPanel_of_check (h := after) failed "render failed"
    checkStyle_red (Markup.check_styled_escape f.message)
  rw [hrender, ← show after.console.panels = h.console.panels from hpanels]
  exact ⟨hcode.trans (verdict_eq_ok_iff.2 ⟨rfl, htitle⟩), hshown⟩

end Outcomes

/-! ## The verdicts -/

/-- What checking comes to, by how rendering fails early: not at all, with an error of a
template, or with another failure. -/
theorem check_cases (hready : h.console.ready = true) (hvariables : h.loadVariables.1 = .ok ())
    (hload : Config.load h.tree (h.loadVariables.2.configPath config) = .ok c) (hc : c.Valid)
    (hlog : Loggable c.errorLog) (data : Data) :
    ((∀ f, ¬ FailsEarly c h template data f) ∧
      (check template config h).1 = verdict succeeded (template.text ++ " ok")) ∨
    (∃ error, (∀ f, FailsEarly c h template data f ↔ f = .template error) ∧
      (check template config h).1 = verdict failed template.text ∧
      (check template config h).2.console.panels =
        h.console.panels ++ [errorPanel template error]) ∨
    ∃ f, f.kind? = none ∧ (∀ g, FailsEarly c h template data g ↔ g = f) ∧
      (check template config h).1 = .error (.failure f) := by
  simp only [failsEarly_iff hc hlog]
  cases hprepare : (prepare template.text (.start c h.tree h.now)).1 with
  | ok prepared => exact Or.inl ⟨by simp, check_of_prepared hready hvariables hload hc hprepare⟩
  | error f =>
      have honly : ∀ g, (Except.error f : Except Failure (Template.Program × Template.Compiled)) =
          .error g ↔ g = f := by
        simp [eq_comm]
      cases hkind : f.kind? with
      | none =>
          exact Or.inr (Or.inr
            ⟨f, hkind, honly, check_of_stopped hready hvariables hload hkind hprepare⟩)
      | some kind =>
          obtain ⟨error, rfl⟩ := exists_of_kind? hkind
          exact Or.inr (Or.inl ⟨error, honly, check_of_refused hready hvariables hload hprepare⟩)

/-- Checking and rendering agree on what can be said before the data come in.  A check passes
exactly if rendering does not fail early, and it does not pass exactly if rendering fails
early with an error of a template; both then show this error.  In both cases the title of
the panel must be one that can be drawn.  Any other early failure stops the check. -/
theorem check_agrees_with_render (hready : h.console.ready = true)
    (hvariables : h.loadVariables.1 = .ok ())
    (hload : Config.load h.tree (h.loadVariables.2.configPath config) = .ok c) (hc : c.Valid)
    (hlog : Loggable c.errorLog) {dataFile : Option File.Path} {settings : List Text} {data : Data}
    (hdata : gather h.tree dataFile settings = .ok data) :
    let checked := check template config h
    let rendered := render template dataFile settings config h
    let fails := FailsEarly c h template data
    (∀ code, checked.1 = .ok code → code = succeeded ∨ code = failed) ∧
    (checked.1 = .ok succeeded ↔
      (∀ f, ¬ fails f) ∧ Markup.check (template.text ++ " ok") = .ok ()) ∧
    (checked.1 = .ok failed ↔
      (∃ error, fails (.template error)) ∧ Markup.check template.text = .ok ()) ∧
    (∀ error, fails (.template error) →
      checked.2.console.panels = h.console.panels ++ [errorPanel template error]) ∧
    (∀ f, fails f → rendered.1 = .ok failed ∧
      rendered.2.console.panels = h.console.panels ++ [failurePanel f]) ∧
    ∀ f, checked.1 = .error (.failure f) ↔ fails f ∧ f.kind? = none := by
  intro checked rendered fails
  have hrendered : ∀ f, fails f → rendered.1 = .ok failed ∧
      rendered.2.console.panels = h.console.panels ++ [failurePanel f] :=
    fun f => render_of_failsEarly hready hvariables hload hdata
  have hcodes : succeeded ≠ failed := by decide
  obtain ⟨hnone, hchecked⟩ | ⟨error, honly, hchecked, hpanels⟩ | ⟨f, hkind, honly, hchecked⟩ :=
    check_cases hready hvariables hload hc hlog data
  · rw [show checked.1 = _ from hchecked]
    refine ⟨fun code hcode => Or.inl (verdict_eq_ok_iff.1 hcode).1, ?_, ?_,
      fun error herror => absurd herror (hnone _), hrendered, fun f => ?_⟩
    · simp [verdict_eq_ok_iff, fails, hnone]
    · simp [verdict_eq_ok_iff, fails, hnone, hcodes.symm]
    · simp [verdict_ne_failure, fails, hnone]
  · rw [show checked.1 = _ from hchecked]
    refine ⟨fun code hcode => Or.inr (verdict_eq_ok_iff.1 hcode).1, ?_, ?_,
      fun other hother => ?_, hrendered, fun f => ?_⟩
    · simp [verdict_eq_ok_iff, fails, honly, hcodes]
    · simp [verdict_eq_ok_iff, fails, honly]
    · obtain rfl := Failure.template.inj ((honly _).1 hother)
      exact hpanels
    · simp only [verdict_ne_failure, fails, honly, false_iff, not_and]
      rintro rfl
      simp [Failure.kind?]
  · have htemplate : ∀ error, .template error ≠ f := by
      rintro error rfl
      cases hkind
    rw [show checked.1 = _ from hchecked]
    refine ⟨fun code hcode => absurd hcode (by simp), ?_, ?_,
      fun error herror => absurd ((honly _).1 herror) (htemplate error), hrendered, fun g => ?_⟩
    · simp [fails, honly]
    · simp [fails, honly, htemplate]
    · simp only [Except.error.injEq, Fault.failure.injEq, fails, honly]
      constructor
      · rintro rfl
        exact ⟨rfl, hkind⟩
      · rintro ⟨rfl, -⟩
        rfl

/-- A host with a page whose component is not there, and with a file that is no text. -/
def patchyHost : Host where
  console := { Logging.Console.initial with ready := true }
  environment := []
  tree := ⟨[], [(["page"], .file (Text.Utf8.encode "\x7b\x7bcomponent(menu)\x7d\x7d")),
    (["noise"], .file [0xff])]⟩
  now := "now"
  context := none

theorem load_patchyHost :
    Config.load patchyHost.tree (patchyHost.loadVariables.2.configPath none) = .ok .standard :=
  rfl

theorem loggable_standard : Loggable Config.standard.errorLog :=
  loggable_of_not_mem (by decide)

/-- For the page both commands name the component that is missing. -/
theorem check_agrees_with_render_missing :
    let page : File.Path := .ofText "page"
    let error := Template.Error.componentNotFound "components/menu.mizui" "page"
    (check page none patchyHost).1 = .ok failed ∧
      (check page none patchyHost).2.console.panels = [errorPanel page error] ∧
      (render page none [] none patchyHost).1 = .ok failed ∧
      (render page none [] none patchyHost).2.console.panels =
        [failurePanel (.template error)] := by
  intro page error
  have hdata : gather patchyHost.tree none [] = .ok (.ofTree (.mapping [])) := rfl
  obtain ⟨-, -, hfailed, hpanels, hrendered, -⟩ := check_agrees_with_render rfl rfl
    load_patchyHost Config.valid_standard loggable_standard hdata
  have hfails : FailsEarly .standard patchyHost page (.ofTree (.mapping [])) (.template error) :=
    ⟨by decide +kernel, by decide⟩
  obtain ⟨hcode, hshown⟩ := hrendered _ hfails
  exact ⟨hfailed.2 ⟨⟨error, hfails⟩, by decide +kernel⟩, hpanels error hfails, hcode, hshown⟩

/-- A file that is no text stops the check, while rendering ends with its exit code and says
what is wrong. -/
theorem check_error_of_undecodable :
    let noise : File.Path := .ofText "noise"
    let fault := Failure.decoding ⟨0xff, 0, 1, .invalidStart⟩
    (check noise none patchyHost).1 = .error (.failure fault) ∧
      (render noise none [] none patchyHost).1 = .ok failed ∧
      (render noise none [] none patchyHost).2.console.panels = [failurePanel fault] := by
  intro noise fault
  have hfails : FailsEarly .standard patchyHost noise (.ofTree (.mapping [])) fault :=
    ⟨by decide +kernel, by decide⟩
  have hprepare := (failsEarly_iff Config.valid_standard loggable_standard).1 hfails
  exact ⟨check_of_stopped rfl rfl load_patchyHost rfl hprepare,
    render_of_failsEarly rfl rfl load_patchyHost rfl hfails⟩

end CommandLine
end Stencil
