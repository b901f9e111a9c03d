import Mathlib.Control.Monad.Basic
import Stencil.Host

/-!
# How long a context stands

The context of a host stands through everything that is done with the host, whether or not it
raises, until it is dropped by hand or by a forced bootstrap.  Its cache is changed by its own
renders only.  A forced bootstrap drops it before the configuration file is loaded, so that one that
raises leaves no context.

Main results:

- Definition `move`: everything that is done with a host, one thing at a time.
- Theorem `stands_move`: what one move leaves of a context.
- Theorem `stands_run`: what a run of moves leaves of it.
- Theorem `move_bootstrap_cases`: what comes of a bootstrap that has to load its file.
- Theorem `context_stands_unless_forced`: how contexts come, stand and go.
- Theorem `context_lost_by_force`: a forced bootstrap that raises.
-/

namespace Stencil

/-- A context with another cache. -/
def Context.withCache (cache : Render.Cache Render.Key Render.Item) (k : Context) : Context :=
  { k with cache := cache }

@[simp] theorem Context.withCache_withCache (cache cache' : Render.Cache Render.Key Render.Item)
    (k : Context) : (k.withCache cache).withCache cache' = k.withCache cache' := rfl

@[simp] theorem Context.withCache_cache (k : Context) : k.withCache k.cache = k := rfl

namespace Host

/-- What can be done with a host, and what can happen around it. -/
inductive Move where
  | bootstrap (force : Bool) (given : Option File.Path)
  | init (path : File.Path) (config : Config)
  | get
  | reset
  | render (identifier : Text) (data : Data)
  /-- The environment, the file of variables, the other files and the time change. -/
  | surroundings (environment : Variables)
      (supply : Variables → Except Config.LoadFault Unit × Variables) (tree : File.Tree)
      (now : Text)

/-- What a move gives. -/
inductive Answer where
  | context (context : Context)
  | result (result : Render.Result)
  | done

/-- What a move raises. -/
inductive Fault where
  | start (fault : StartFault)
  /-- There is no context. -/
  | missing
  | failure (failure : Render.Failure)

/-- Whether a move is a rendering. -/
def Move.Renders : Move → Prop
  | render _ _ => True
  | _ => False

/-- Whether a move lets a context stand that is there. -/
def Move.Keeps : Move → Prop
  | bootstrap force _ => force = false
  | reset => False
  | _ => True

/-- The answer to a request for a context. -/
def contextAnswer : Except StartFault Context → Except Fault Answer
  | .ok context => .ok (.context context)
  | .error fault => .error (.start fault)

/-- The answer to a rendering. -/
def renderAnswer : Except StartFault (Except Render.Failure Render.Result) → Except Fault Answer
  | .ok (.ok result) => .ok (.result result)
  | .ok (.error failure) => .error (.failure failure)
  | .error fault => .error (.start fault)

/-- Makes a move. -/
def move : Move → Host → Except Fault Answer × Host
  | .bootstrap force given, h => (h.bootstrap force given).map contextAnswer id
  | .init path config, h => (h.install path config).map (.ok ∘ .context) id
  | .get, h =>
    match h.context with
    | some context => (.ok (.context context), h)
    | none => (.error .missing, h)
  | .reset, h => (.ok .done, h.drop)
  | .render identifier data, h => (h.render identifier data).map renderAnswer id
  | .surroundings environment supply tree now, h =>
    (.ok .done, { h with environment, supply, tree, now })

/-- Makes moves one after the other, whether or not they raise. -/
def run (moves : List Move) (h : Host) : Host := moves.foldl (fun h m => (move m h).2) h

variable {h : Host} {k : Context} {c : Config} {m : Move} {moves : List Move}
  {given : Option File.Path} {force : Bool}

@[simp] theorem run_nil (h : Host) : run [] h = h := rfl

@[simp] theorem run_cons (m : Move) (moves : List Move) (h : Host) :
    run (m :: moves) h = run moves (move m h).2 := rfl

/-! ## Loading the configuration file -/

/-- The path of the configuration file, once the variables are loaded. -/
def startPath (h : Host) (given : Option File.Path) : File.Path :=
  h.loadVariables.2.configPath given

/-- The configuration that a bootstrap finds in its file, once the variables are loaded and the
console is set up. -/
def Loads (h : Host) (given : Option File.Path) (c : Config) : Prop :=
  h.loadVariables.1 = .ok () ∧ (h.loadVariables.2.setUpLogging none none).1 = .ok () ∧
    Config.load h.tree (h.startPath given) = .ok c

/-- Where the variables are loaded and the console is set up, only the file counts. -/
theorem loads_iff_of_ready (hvariables : h.loadVariables.1 = .ok ())
    (hready : h.console.ready = true) :
    h.Loads given c ↔ Config.load h.tree (h.startPath given) = .ok c := by
  have hlogging : (h.loadVariables.2.setUpLogging none none).1 = .ok () :=
    congrArg Prod.fst (setUpLogging_of_ready none none (h := h.loadVariables.2) hready)
  exact ⟨fun hloads => hloads.2.2, fun hload => ⟨hvariables, hlogging, hload⟩⟩

/-- A host without a context installs what its file says, or it raises and installs none, with the
variables that are there. -/
theorem installLoaded_cases (given : Option File.Path) (hnone : h.context = none) :
    (∃ c, (h.setUpLogging none none).1 = .ok () ∧ Config.load h.tree (h.configPath given) = .ok c ∧
      let k := Context.ofConfig (h.configPath given) c
      (h.installLoaded given).1 = .ok k ∧ (h.installLoaded given).2.context = some k) ∨
    ((∀ c, ¬ ((h.setUpLogging none none).1 = .ok () ∧
        Config.load h.tree (h.configPath given) = .ok c)) ∧
      (∃ fault, (h.installLoaded given).1 = .error fault) ∧
        (h.installLoaded given).2.context = none) := by
  cases hlogging : (h.setUpLogging none none).1 with
  | error fault =>
      have hset : h.setUpLogging none none = (.error fault, (h.setUpLogging none none).2) :=
        Prod.ext hlogging rfl
      rw [installLoaded, hset]
      refine .inr ⟨fun c hc => ?_, ⟨_, rfl⟩, hnone⟩
      cases hc.1
  | ok =>
      have hset : h.setUpLogging none none = (.ok (), (h.setUpLogging none none).2) :=
        Prod.ext hlogging rfl
      cases hload : Config.load h.tree (h.configPath given) with
      | error fault =>
          rw [installLoaded_of_load_error hset hload]
          refine .inr ⟨fun c hc => ?_, ⟨_, rfl⟩, hnone⟩
          cases hc.2
      | ok c =>
          rw [installLoaded_of_load hset hnone hload]
          exact .inl ⟨c, rfl, rfl, rfl, rfl⟩

/-- The same when the variables are loaded before. -/
theorem installFile_cases (given : Option File.Path) (hnone : h.context = none) :
    (∃ c, h.Loads given c ∧
      let k := Context.ofConfig (h.startPath given) c
      (h.installFile given).1 = .ok k ∧ (h.installFile given).2.context = some k) ∨
    ((∀ c, ¬ h.Loads given c) ∧ (∃ fault, (h.installFile given).1 = .error fault) ∧
      (h.installFile given).2.context = none) := by
  cases hvariables : h.loadVariables.1 with
  | error fault =>
      rw [installFile_of_loadVariables_error hvariables]
      refine .inr ⟨fun c hc => ?_, ⟨_, rfl⟩, hnone⟩
      cases hvariables.symm.trans hc.1
  | ok =>
      rw [installFile_of_loadVariables hvariables]
      obtain ⟨c, hlogging, hload, hinstalled⟩ | ⟨hno, hraised⟩ :=
        installLoaded_cases (h := h.loadVariables.2) given hnone
      · exact .inl ⟨c, ⟨hvariables, hlogging, hload⟩, hinstalled⟩
      · exact .inr ⟨fun c hc => hno c hc.2, hraised⟩

/-- A bootstrap that finds no context, or none that it may keep, installs what its file says, or it
raises and leaves none. -/
theorem bootstrap_cases (given : Option File.Path) (hload : force = true ∨ h.context = none) :
    (∃ c, h.Loads given c ∧
      let k := Context.ofConfig (h.startPath given) c
      (h.bootstrap force given).1 = .ok k ∧ (h.bootstrap force given).2.context = some k) ∨
    ((∀ c, ¬ h.Loads given c) ∧ (∃ fault, (h.bootstrap force given).1 = .error fault) ∧
      (h.bootstrap force given).2.context = none) := by
  -- In both cases the file is loaded by a host without a context.
  have hfile : ∃ bare : Host, bare.context = none ∧ (∀ c, bare.Loads given c ↔ h.Loads given c) ∧
      bare.startPath given = h.startPath given ∧
      h.bootstrap force given = bare.installFile given := by
    cases force with
    | true => exact ⟨h.drop, rfl, fun c => Iff.rfl, rfl, rfl⟩
    | false =>
        have hnone : h.context = none := hload.resolve_left Bool.false_ne_true
        exact ⟨h, hnone, fun c => Iff.rfl, rfl, by rw [bootstrap, if_neg Bool.false_ne_true, hnone]⟩
  obtain ⟨bare, hnone, hloads, hpath, heq⟩ := hfile
  have hcases := installFile_cases given hnone
  simp only [hloads, hpath] at hcases
  rw [heq]
  exact hcases

/-- The same of the move. -/
theorem move_bootstrap_cases (given : Option File.Path)
    (hload : force = true ∨ h.context = none) :
    (∃ c, h.Loads given c ∧
      let k := Context.ofConfig (h.startPath given) c
      (move (.bootstrap force given) h).1 = .ok (.context k) ∧
        (move (.bootstrap force given) h).2.context = some k) ∨
    ((∀ c, ¬ h.Loads given c) ∧
      (∃ fault, (move (.bootstrap force given) h).1 = .error (.start fault)) ∧
        (move (.bootstrap force given) h).2.context = none) := by
  obtain ⟨c, hc, hresult, hcontext⟩ | ⟨hno, ⟨fault, hresult⟩, hcontext⟩ :=
    bootstrap_cases given hload
  · exact .inl ⟨c, hc, congrArg contextAnswer hresult, hcontext⟩
  · exact .inr ⟨hno, ⟨fault, congrArg contextAnswer hresult⟩, hcontext⟩

/-! ## Standing -/

theorem bootstrap_of_context (hk : h.context = some k) :
    h.bootstrap false given = (.ok k, h) := by
  rw [bootstrap, if_neg Bool.false_ne_true, hk]

theorem install_of_context {path : File.Path} (hk : h.context = some k) :
    h.install path c = (k, h) := by
  rw [install, hk]

/-- Rendering in a context leaves it, with another cache. -/
theorem perform_context {α : Type} (action : Render.Action α) (k : Context) (h : Host) :
    ∃ cache, (h.perform action k).2.context = some (k.withCache cache) := ⟨_, rfl⟩

/-- A host with a context renders in it. -/
theorem move_render_of_context (identifier : Text) (data : Data) (hk : h.context = some k) :
    move (.render identifier data) h =
      (h.perform (Render.render identifier data) k).map (renderAnswer ∘ .ok) id := by
  rw [move, render, bootstrap_of_context hk]
  rfl

theorem move_get_of_context (hk : h.context = some k) : move .get h = (.ok (.context k), h) := by
  rw [move, hk]

theorem move_get_of_no_context (hnone : h.context = none) :
    move .get h = (.error .missing, h) := by
  rw [move, hnone]

/-- A move leaves a context standing, unless it is meant to drop it; the cache is changed by
rendering only. -/
theorem stands_move (hk : h.context = some k) (hkeeps : m.Keeps) :
    ∃ cache, (move m h).2.context = some (k.withCache cache) ∧ (¬ m.Renders → cache = k.cache) := by
  cases m with
  | bootstrap force given =>
      obtain rfl : force = false := hkeeps
      refine ⟨k.cache, ?_, fun _ => rfl⟩
      rw [move, bootstrap_of_context hk]
      exact hk
  | init path config =>
      refine ⟨k.cache, ?_, fun _ => rfl⟩
      rw [move, install_of_context hk]
      exact hk
  | get =>
      refine ⟨k.cache, ?_, fun _ => rfl⟩
      rw [move_get_of_context hk]
      exact hk
  | reset => exact hkeeps.elim
  | render identifier data =>
      obtain ⟨cache, hcache⟩ := perform_context (Render.render identifier data) k h
      refine ⟨cache, ?_, fun hrenders => absurd trivial hrenders⟩
      rw [move_render_of_context identifier data hk]
      exact hcache
  | surroundings => exact ⟨k.cache, hk, fun _ => rfl⟩

/-- A run of moves leaves a context standing, unless one of them is meant to drop it. -/
theorem stands_run (hk : h.context = some k) (hkeeps : ∀ m ∈ moves, m.Keeps) :
    ∃ cache, (run moves h).context = some (k.withCache cache) ∧
      ((∀ m ∈ moves, ¬ m.Renders) → cache = k.cache) := by
  induction moves generalizing h k with
  | nil => exact ⟨k.cache, hk, fun _ => rfl⟩
  | cons m moves ih =>
      obtain ⟨hm, hmoves⟩ := List.forall_mem_cons.1 hkeeps
      obtain ⟨cache, hstep, hsame⟩ := stands_move hk hm
      obtain ⟨last, hrun, hlast⟩ := ih hstep hmoves
      refine ⟨last, hrun, fun hrenders => ?_⟩
      obtain ⟨hone, hrest⟩ := List.forall_mem_cons.1 hrenders
      exact (hlast hrest).trans (hsame hone)

/-! ## Coming and going -/

/-- The contexts that a move can install in a host without one. -/
inductive Installs (h : Host) : Move → Context → Prop where
  | init (path : File.Path) (config : Config) :
      Installs h (.init path config) (.ofConfig path config)
  | bootstrap {c : Config} (force : Bool) (given : Option File.Path) (hloads : h.Loads given c) :
      Installs h (.bootstrap force given) (.ofConfig (h.startPath given) c)
  /-- Rendering begins with a bootstrap, and then it may fail or raise. -/
  | render {c : Config} (identifier : Text) (data : Data)
      (cache : Render.Cache Render.Key Render.Item) (hloads : h.Loads none c) :
      Installs h (.render identifier data) ((Context.ofConfig (h.startPath none) c).withCache cache)

/-- What a move does for a host without a context. -/
structure Founds (h : Host) (m : Move) : Prop where
  /-- It installs nothing else than it should. -/
  sound : ∀ k, (move m h).2.context = some k → Installs h m k
  /-- It installs a context if it should. -/
  complete : (∃ k, Installs h m k) → (move m h).2.context ≠ none
  /-- When it raises it installs none, but for a rendering that raises after its bootstrap. -/
  raising : ∀ fault, (move m h).1 = .error fault →
    (move m h).2.context = none ∨ m.Renders ∧ ∃ failure, fault = .failure failure

theorem founds_of_none (hcontext : (move m h).2.context = none) (hno : ∀ k, ¬ Installs h m k) :
    Founds h m where
  sound k hk := by cases hcontext.symm.trans hk
  complete hex := absurd hex (not_exists.2 hno)
  raising _ _ := .inl hcontext

theorem founds_of_some (hcontext : (move m h).2.context = some k) (hk : Installs h m k)
    (hraising : ∀ fault, (move m h).1 = .error fault →
      m.Renders ∧ ∃ failure, fault = .failure failure) :
    Founds h m where
  sound k' hk' := Option.some.inj (hcontext.symm.trans hk') ▸ hk
  complete _ := by simp [hcontext]
  raising fault hfault := .inr (hraising fault hfault)

theorem founds_bootstrap (hnone : h.context = none) (force : Bool) (given : Option File.Path) :
    Founds h (.bootstrap force given) := by
  obtain ⟨c, hc, hresult, hcontext⟩ | ⟨hno, -, hcontext⟩ :=
    move_bootstrap_cases given (.inr hnone)
  · refine founds_of_some hcontext (.bootstrap force given hc) fun fault hfault => ?_
    cases hresult.symm.trans hfault
  · refine founds_of_none hcontext fun k hk => ?_
    cases hk with
    | bootstrap _ _ hloads => exact hno _ hloads

theorem founds_init (hnone : h.context = none) (path : File.Path) (config : Config) :
    Founds h (.init path config) := by
  have hinstall : h.install path config =
      (.ofConfig path config, { h with context := some (.ofConfig path config) }) := by
    rw [install, hnone]
  have hmove : move (.init path config) h = (.ok (.context (.ofConfig path config)),
      { h with context := some (.ofConfig path config) }) := by
    rw [move, hinstall]
    rfl
  refine founds_of_some (k := .ofConfig path config) (by rw [hmove]) (.init path config) ?_
  rw [hmove]
  intro fault hfault
  cases hfault

theorem failure_of_renderAnswer {result : Except Render.Failure Render.Result} {fault : Fault}
    (hfault : renderAnswer (.ok result) = .error fault) : ∃ failure, fault = .failure failure := by
  cases result with
  | ok result => cases hfault
  | error failure => exact ⟨failure, (Except.error.inj hfault).symm⟩

theorem founds_render (hnone : h.context = none) (identifier : Text) (data : Data) :
    Founds h (.render identifier data) := by
  obtain ⟨c, hc, hresult, -⟩ | ⟨hno, ⟨fault, hresult⟩, hcontext⟩ :=
    bootstrap_cases none (.inr hnone)
  · have hboot := Prod.ext (y := (_, (h.bootstrap false none).2)) hresult rfl
    have hmove : move (.render identifier data) h =
        ((h.bootstrap false none).2.perform (Render.render identifier data)
          (.ofConfig (h.startPath none) c)).map (renderAnswer ∘ .ok) id := by
      rw [move, render, hboot]
      rfl
    obtain ⟨cache, hcache⟩ := perform_context (Render.render identifier data)
      (.ofConfig (h.startPath none) c) (h.bootstrap false none).2
    refine founds_of_some (by rw [hmove]; exact hcache) (.render identifier data cache hc) ?_
    rw [hmove]
    exact fun fault hfault => ⟨trivial, failure_of_renderAnswer hfault⟩
  · have hboot := Prod.ext (y := (_, (h.bootstrap false none).2)) hresult rfl
    have hmove : move (.render identifier data) h =
        (.error (.start fault), (h.bootstrap false none).2) := by
      rw [move, render, hboot]
      rfl
    refine founds_of_none (by rw [hmove]; exact hcontext) fun k hk => ?_
    cases hk with
    | render _ _ _ hloads => exact hno _ hloads

/-- A host without a context gets one from a move that installs one, and from no other. -/
theorem founds (hnone : h.context = none) (m : Move) : Founds h m := by
  cases m with
  | bootstrap force given => exact founds_bootstrap hnone force given
  | init path config => exact founds_init hnone path config
  | get =>
      exact founds_of_none (by rw [move_get_of_no_context hnone, hnone]) fun k hk => nomatch hk
  | reset => exact founds_of_none rfl fun k hk => nomatch hk
  | render identifier data => exact founds_render hnone identifier data
  | surroundings => exact founds_of_none hnone fun k hk => nomatch hk

/-- How contexts come, stand and go.  A context that is there stands through every run of moves that
has no reset and no forced bootstrap, whichever of them raise; its cache is changed by its own
renders only, and it is what is asked for and rendered with.  Where there is none, a move installs
one as it should, and a move that raises does not, but for a rendering that raises after its
bootstrap.  A forced bootstrap installs what its file says, or it raises, and then there is no
context any more. -/
theorem context_stands_unless_forced (h : Host) :
    (∀ k moves, h.context = some k → (∀ m ∈ moves, m.Keeps) →
      let later := run moves h
      ∃ cache, later.context = some (k.withCache cache) ∧
        ((∀ m ∈ moves, ¬ m.Renders) → cache = k.cache) ∧
        move .get later = (.ok (.context (k.withCache cache)), later) ∧
        ∀ identifier data, move (.render identifier data) later =
          (later.perform (Render.render identifier data) (k.withCache cache)).map
            (renderAnswer ∘ .ok) id) ∧
    (h.context = none → ∀ m, Founds h m) ∧
    (∀ given,
      (∃ c, h.Loads given c ∧
        let k := Context.ofConfig (h.startPath given) c
        (move (.bootstrap true given) h).1 = .ok (.context k) ∧
          (move (.bootstrap true given) h).2.context = some k) ∨
      ((∀ c, ¬ h.Loads given c) ∧
        (∃ fault, (move (.bootstrap true given) h).1 = .error (.start fault)) ∧
          (move (.bootstrap true given) h).2.context = none)) := by
  refine ⟨fun k moves hk hkeeps => ?_, founds, fun given =>
    move_bootstrap_cases given (.inl rfl)⟩
  obtain ⟨cache, hlater, hcache⟩ := stands_run hk hkeeps
  exact ⟨cache, hlater, hcache, move_get_of_context hlater, fun identifier data =>
    move_render_of_context identifier data hlater⟩

/-- A host with a context. -/
def withContext (k : Context) (h : Host) : Host := { h with context := some k }

/-- After a good file, a bootstrap by force with a bad one raises and leaves no context to ask
for. -/
theorem lost_by_force {good bad : File.Path} {fault : Config.LoadFault}
    (hvariables : h.loadVariables.1 = .ok ()) (hready : h.console.ready = true)
    (hnone : h.context = none)
    (hgood : Config.load h.tree good = .ok c) (hbad : Config.load h.tree bad = .error fault) :
    let installed := h.withContext (.ofConfig good c)
    (move (.bootstrap false (some good)) h).2.context = installed.context ∧
      (∃ fault, (move (.bootstrap true (some bad)) installed).1 = .error (.start fault)) ∧
      (move (.bootstrap true (some bad)) installed).2.context = none ∧
      (move .get (move (.bootstrap true (some bad)) installed).2).1 = .error .missing := by
  intro installed
  refine ⟨?_, ?_⟩
  · obtain ⟨c', hc, -, hcontext⟩ | ⟨hno, -⟩ := move_bootstrap_cases (some good) (.inr hnone)
    · have hload := (loads_iff_of_ready hvariables hready).1 hc
      obtain rfl := Except.ok.inj (hgood.symm.trans hload)
      exact hcontext
    · have hloads : h.Loads (some good) c := (loads_iff_of_ready hvariables hready).2 hgood
      exact absurd hloads (hno c)
  · obtain ⟨c', hc, -⟩ | ⟨-, hraised, hlost⟩ :=
      move_bootstrap_cases (h := installed) (some bad) (.inl rfl)
    · have hload := (loads_iff_of_ready (h := installed) hvariables hready).1 hc
      cases hbad.symm.trans hload
    · exact ⟨hraised, hlost, congrArg Prod.fst (move_get_of_no_context hlost)⟩

/-- A host with a good and a bad configuration file, whose console is set up. -/
def twoFileHost : Host :=
  let tree : File.Tree := ⟨[],
    [([("good.yaml" : Text)], .file (Text.Utf8.encode "max_depth: 3\n")),
      ([("bad.yaml" : Text)], .file (Text.Utf8.encode "max_depth: -1\n"))]⟩
  { Host.start [] tree "" with console := { Logging.Console.initial with ready := true } }

/-- The path of the good file. -/
def goodPath : File.Path := ⟨.relative, ["good.yaml"]⟩

/-- The path of the bad file. -/
def badPath : File.Path := ⟨.relative, ["bad.yaml"]⟩

/-- What the good file says. -/
def goodConfig : Config := { Config.standard with maxDepth := 3 }

/-- A context is lost by a bootstrap that raises. -/
theorem context_lost_by_force :
    let installed := twoFileHost.withContext (.ofConfig goodPath goodConfig)
    (move (.bootstrap false (some goodPath)) twoFileHost).2.context = installed.context ∧
      (∃ fault, (move (.bootstrap true (some badPath)) installed).1 = .error (.start fault)) ∧
      (move (.bootstrap true (some badPath)) installed).2.context = none ∧
      (move .get (move (.bootstrap true (some badPath)) installed).2).1 = .error .missing := by
  have hfiles : Config.load twoFileHost.tree goodPath = .ok goodConfig ∧
      Config.load twoFileHost.tree badPath =
        .error (.invalid [⟨"max_depth", none, .tooSmall⟩]) := by
    decide +kernel
  have hready : twoFileHost.console.ready = true := rfl
  have hnone : twoFileHost.context = none := rfl
  exact lost_by_force rfl hready hnone hfiles.1 hfiles.2

end Host
end Stencil
