import Mathlib.Control.Monad.Basic
import Stencil.CommandLine.Run
import Stencil.Proofs.Config.Loading

/-!
# Configuring the host

A command configures the host anew from its configuration file.  When something is wrong with the
file, that is a fault of the call, with two exceptions.  A root that has a key which is no text
cannot be taken for fields at all; and reading a document can raise an exception of a kind that
nobody expects.

Main results:

- Theorems `configure_of_load` and `configure_of_load_error`: what comes of configuring, by what
  comes of loading the file.
- Theorem `configured_or_usage_fault`: but for the two exceptions, the host is configured or the
  call is at fault.
- Theorem `number_key_is_no_usage_fault`: a file with a number for a key is such an exception.
-/

namespace Stencil
namespace CommandLine

open Config (Defective)

variable {c : Config} {config : Option File.Path} {h : Host} {tree : File.Tree} {path : File.Path}
  {fault : Config.LoadFault}

/-- Configuring is installing the context of the file in a host without one. -/
theorem configure_of_installFile {result : Except StartFault Context} {after : Host}
    (hinstall : h.drop.installFile config = (result, after)) :
    configure config h = (result.mapError (Fault.ofStart config), after) := by
  unfold configure Host.bootstrap
  rw [if_pos rfl, hinstall]
  cases result <;> rfl

/-- A host whose variables cannot be loaded is left without a context. -/
theorem configure_of_loadVariables_error (hvariables : h.loadVariables.1 = .error fault) :
    configure config h = (.error (.ofStart config (.config fault)), h.loadVariables.2.drop) :=
  configure_of_installFile (Host.installFile_of_loadVariables_error (h := h.drop) hvariables config)

/-- A host whose console is set up gets a context with an empty cache. -/
theorem configure_of_load (hready : h.console.ready = true)
    (hvariables : h.loadVariables.1 = .ok ())
    (hload : Config.load h.tree (h.loadVariables.2.configPath config) = .ok c) :
    let context := Context.ofConfig (h.loadVariables.2.configPath config) c
    configure config h = (.ok context, { h.loadVariables.2 with context := some context }) := by
  have hlogging := Host.setUpLogging_of_ready none none (h := h.loadVariables.2.drop) hready
  have hinstall := Host.installFile_of_loadVariables (h := h.drop) hvariables config
  exact configure_of_installFile (hinstall.trans (Host.installLoaded_of_load hlogging rfl hload))

/-- A host whose configuration file cannot be loaded is left without a context. -/
theorem configure_of_load_error (hready : h.console.ready = true)
    (hvariables : h.loadVariables.1 = .ok ())
    (hload : Config.load h.tree (h.loadVariables.2.configPath config) = .error fault) :
    configure config h = (.error (.ofStart config (.config fault)), h.loadVariables.2.drop) := by
  have hlogging := Host.setUpLogging_of_ready none none (h := h.loadVariables.2.drop) hready
  have hinstall := Host.installFile_of_loadVariables (h := h.drop) hvariables config
  exact configure_of_installFile (hinstall.trans (Host.installLoaded_of_load_error hlogging hload))

/-- What is wrong with a file is a fault of the call, or it is one of the two exceptions. -/
theorem ofStart_of_defective (hdefective : Defective tree path fault)
    (config : Option File.Path) :
    (∃ detail, Fault.ofStart config (.config fault) = .badConfig config detail) ∨
      fault = .keyNotText ∨ ∃ e, fault = .raised e ∧ e.kind ≠ "ValueError".toList := by
  cases hdefective with
  | keyNotText => exact .inr (.inl rfl)
  | @raised text e =>
      by_cases hkind : e.kind = "ValueError".toList
      · exact .inl ⟨some e.message, by rw [Fault.ofStart, if_pos hkind]⟩
      · exact .inr (.inr ⟨e, rfl, hkind⟩)
  | _ => exact .inl ⟨_, rfl⟩

/-- Where the configuration file is absent or can be read, the host is configured or the call is at
fault, unless the root of the file has a key that is no text, or reading the file raises something
else than an error of values.  Then the command ends with that, and so it does when the path is too
long to be followed.  Where the file is may depend on variables that are loaded before; when loading
them raises something, that counts as if the file raised it. -/
theorem configured_or_usage_fault (config : Option File.Path) (h : Host)
    (hready : h.console.ready = true) :
    let loaded := h.loadVariables.2
    let path := loaded.configPath config
    (h.loadVariables.1 = .ok () →
      ((h.tree.holds path = .ok false ∨ ∃ bytes, h.tree.read path = .ok bytes) →
        ¬ Defective h.tree path .keyNotText →
        (∀ e, Defective h.tree path (.raised e) → e.kind = "ValueError".toList) →
        (∃ c, let context := Context.ofConfig path c
          configure config h = (.ok context, { loaded with context := some context })) ∨
        ∃ detail, configure config h = (.error (.badConfig config detail), loaded.drop)) ∧
      (Defective h.tree path .keyNotText →
        configure config h = (.error (.start (.config .keyNotText)), loaded.drop)) ∧
      (∀ e, Defective h.tree path (.raised e) → e.kind ≠ "ValueError".toList →
        configure config h = (.error (.start (.config (.raised e))), loaded.drop)) ∧
      ∀ fault, h.tree.holds path = .error fault →
        configure config h = (.error (.start (.config (.file fault))), loaded.drop)) ∧
    ∀ fault, h.loadVariables.1 = .error fault →
      configure config h = (.error (.ofStart config (.config fault)), loaded.drop) := by
  intro loaded path
  refine ⟨fun hvariables => ?_, fun fault => configure_of_loadVariables_error⟩
  have hfault : ∀ {fault}, Defective h.tree path fault →
      configure config h = (.error (.ofStart config (.config fault)), loaded.drop) := by
    intro fault hdefective
    obtain ⟨bytes, hread⟩ := hdefective.exists_read
    exact configure_of_load_error hready hvariables (Config.load_of_defective hread hdefective)
  refine ⟨fun hfile hkeys hraised => ?_, hfault, fun e hdefective hkind => ?_,
    fun fault hholds => ?_⟩
  · cases hload : Config.load h.tree path with
    | ok c => exact .inl ⟨c, configure_of_load hready hvariables hload⟩
    | error fault =>
        obtain habsent | ⟨bytes, hread⟩ := hfile
        · cases hload.symm.trans (Config.load_of_absent habsent)
        · have hdefective := (Config.load_eq_error_iff hread).1 hload
          obtain ⟨detail, hdetail⟩ | rfl | ⟨e, rfl, hkind⟩ :=
            ofStart_of_defective hdefective config
          · exact .inr ⟨detail, hdetail ▸ hfault hdefective⟩
          · exact absurd hdefective hkeys
          · exact absurd (hraised e hdefective) hkind
  · rw [hfault hdefective, Fault.ofStart, if_neg hkind]
  · exact configure_of_load_error hready hvariables (Config.load_of_holds_error hholds)

/-- A host with a configuration file, whose console is set up. -/
def configuredHost (document : Text) : Host :=
  let tree : File.Tree := ⟨[], [([("c.yaml" : Text)], .file (Text.Utf8.encode document))]⟩
  { Host.start [] tree "" with console := { Logging.Console.initial with ready := true } }

/-- The path of its configuration file. -/
def configuredPath : File.Path := ⟨.relative, ["c.yaml"]⟩

theorem loadVariables_configuredHost (document : Text) :
    (configuredHost document).loadVariables = (.ok (), configuredHost document) := rfl

/-- A depth that is too small is a fault of the call. -/
theorem configured_or_usage_fault_depth :
    let h := configuredHost "max_depth: -1\n"
    h.console.ready = true ∧
      (∃ bytes, h.tree.read (h.configPath (some configuredPath)) = .ok bytes) ∧
      ∃ detail, configure (some configuredPath) h =
        (.error (.badConfig (some configuredPath) detail), h.drop) := by
  have hready : (configuredHost "max_depth: -1\n").console.ready = true := rfl
  have hread : (configuredHost "max_depth: -1\n").tree.read configuredPath =
      .ok (Text.Utf8.encode "max_depth: -1\n") := by
    decide +kernel
  have hload : Config.load (configuredHost "max_depth: -1\n").tree configuredPath =
      .error (.invalid [⟨"max_depth", none, .tooSmall⟩]) := by
    decide +kernel
  have hloaded := loadVariables_configuredHost "max_depth: -1\n"
  -- The host is not looked into any more.
  generalize configuredHost "max_depth: -1\n" = h at hready hread hload hloaded
  have hvariables : h.loadVariables.1 = .ok () := congrArg Prod.fst hloaded
  have honly : ∀ {fault}, Defective h.tree configuredPath fault →
      fault = .invalid [⟨"max_depth", none, .tooSmall⟩] := by
    intro fault hdefective
    exact Except.error.inj ((Config.load_of_defective hread hdefective).symm.trans hload)
  obtain ⟨hclaim, -⟩ := configured_or_usage_fault (some configuredPath) h hready
  refine ⟨hready, ⟨_, hread⟩, ?_⟩
  obtain ⟨c, hc⟩ | hbad := (hclaim hvariables).1 (.inr ⟨_, hread⟩)
    (fun hkeys => nomatch honly hkeys) (fun e hraised => nomatch honly hraised)
  · have herror := congrArg Prod.fst
      (@configure_of_load_error (some configuredPath) h _ hready hvariables hload)
    cases (congrArg Prod.fst hc).symm.trans herror
  · rwa [hloaded] at hbad

/-- A configuration file with a number for a key is no fault of the call. -/
theorem number_key_is_no_usage_fault :
    let h := configuredHost "1: 2\n"
    h.console.ready = true ∧
      (∃ bytes, h.tree.read (h.configPath (some configuredPath)) = .ok bytes) ∧
      configure (some configuredPath) h = (.error (.start (.config .keyNotText)), h.drop) := by
  have hready : (configuredHost "1: 2\n").console.ready = true := rfl
  have hread : (configuredHost "1: 2\n").tree.read configuredPath =
      .ok (Text.Utf8.encode "1: 2\n") := by
    decide +kernel
  have hload : Config.load (configuredHost "1: 2\n").tree configuredPath = .error .keyNotText := by
    decide +kernel
  have hloaded := loadVariables_configuredHost "1: 2\n"
  generalize configuredHost "1: 2\n" = h at hready hread hload hloaded
  have herror := @configure_of_load_error (some configuredPath) h _ hready
    (congrArg Prod.fst hloaded) hload
  rw [hloaded] at herror
  exact ⟨hready, ⟨_, hread⟩, herror⟩

end CommandLine
end Stencil
