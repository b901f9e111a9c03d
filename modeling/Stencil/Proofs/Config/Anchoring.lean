import Stencil.Proofs.Config.Loading
import Stencil.Proofs.File.Resolution

/-!
# Where the paths of a configuration start

A configuration file says the same wherever it is loaded from.  The relative paths that it sets lead
on from its own directory, and nothing else depends on how its path is written or on the working
directory.

Main results:

- Theorem `validate_eq_ok_iff`: a configuration is read field by field.
- Definition `placed`: what a path of a file at a location means.
- Theorem `load_eq_of_node`: what loading a file depends on.
- Theorem `load_same_from_everywhere`: the configuration of a file, from everywhere.
-/

namespace Stencil
namespace Config

variable {tree : File.Tree} {path : File.Path} {bytes : List UInt8} {entries : Entries}
  {c : Config} {l : File.Location}

/-! ## Fields -/

/-- A configuration is read field by field. -/
theorem validate_eq_ok_iff :
    validate entries = .ok c ↔
      readDelimiters entries "syntax" = .ok c.delimiters ∧
      readField entries "base_path" standard.basePath readPath = .ok c.basePath ∧
      readField entries "extension" standard.extension readText = .ok c.extension ∧
      readField entries "max_depth" standard.maxDepth (readAtLeast 0) = .ok c.maxDepth ∧
      readField entries "error_log" standard.errorLog readPath = .ok c.errorLog ∧
      readField entries "crash_log" standard.crashLog readPath = .ok c.crashLog ∧
      readField entries "cache_size" standard.cacheSize readSize = .ok c.cacheSize := by
  unfold validate
  dsimp only
  constructor
  · intro h
    split at h
    · rename_i hdelimiters hbasePath hextension hmaxDepth herrorLog hcrashLog hcacheSize
      obtain rfl := Except.ok.inj h
      exact ⟨hdelimiters, hbasePath, hextension, hmaxDepth, herrorLog, hcrashLog, hcacheSize⟩
    · cases h
  · rintro ⟨hdelimiters, hbasePath, hextension, hmaxDepth, herrorLog, hcrashLog, hcacheSize⟩
    rw [hdelimiters, hbasePath, hextension, hmaxDepth, herrorLog, hcrashLog, hcacheSize]

/-- A field that is not set has its standard value. -/
theorem readField_of_unset {α : Type} {field : Text} {standard : α}
    {read : Value → Except Reason α} (h : entries.find? field = none) :
    readField entries field standard read = .ok standard := by
  rw [readField, h]

theorem readDelimiters_of_unset {field : Text} (h : entries.find? field = none) :
    readDelimiters entries field = .ok standard.delimiters := by
  rw [readDelimiters, h]

/-- The fields that are not set hold their standard values. -/
structure KeepsStandard (entries : Entries) (c : Config) : Prop where
  delimiters : entries.find? "syntax" = none → c.delimiters = standard.delimiters
  basePath : entries.find? "base_path" = none → c.basePath = standard.basePath
  extension : entries.find? "extension" = none → c.extension = standard.extension
  maxDepth : entries.find? "max_depth" = none → c.maxDepth = standard.maxDepth
  errorLog : entries.find? "error_log" = none → c.errorLog = standard.errorLog
  crashLog : entries.find? "crash_log" = none → c.crashLog = standard.crashLog
  cacheSize : entries.find? "cache_size" = none → c.cacheSize = standard.cacheSize

/-- A validated configuration has the standard paths wherever none is set. -/
theorem keepsStandard_of_validate (h : validate entries = .ok c) : KeepsStandard entries c := by
  obtain ⟨hdelimiters, hbasePath, hextension, hmaxDepth, herrorLog, hcrashLog, hcacheSize⟩ :=
    validate_eq_ok_iff.1 h
  constructor <;> intro hunset
  · exact Except.ok.inj (hdelimiters.symm.trans (readDelimiters_of_unset hunset))
  · exact Except.ok.inj (hbasePath.symm.trans (readField_of_unset hunset))
  · exact Except.ok.inj (hextension.symm.trans (readField_of_unset hunset))
  · exact Except.ok.inj (hmaxDepth.symm.trans (readField_of_unset hunset))
  · exact Except.ok.inj (herrorLog.symm.trans (readField_of_unset hunset))
  · exact Except.ok.inj (hcrashLog.symm.trans (readField_of_unset hunset))
  · exact Except.ok.inj (hcacheSize.symm.trans (readField_of_unset hunset))

/-! ## Paths of a file -/

/-- What a path means in a field of the file at a location: a relative one that the file sets leads
on from the directory of the file, and any other one is kept. -/
def placed (l : File.Location) (entries : Entries) (field : Text) (path : File.Path) :
    File.Path :=
  if (entries.find? field).isSome ∧ path.root = .relative then ⟨.slash, l.dropLast ++ path.names⟩
  else path

/-- Anchoring a path in the directory of the file is placing it there. -/
theorem anchored_eq_placed (field : Text) (path : File.Path) :
    anchored ⟨.slash, l.dropLast⟩ entries field path = placed l entries field path := by
  unfold anchored placed
  by_cases hrelative : path.root = .relative <;>
    simp [File.Path.isAbsolute, File.Path.join, hrelative]

/-- A standard path is not anchored. -/
theorem placed_of_unset {field : Text} (h : entries.find? field = none) :
    placed l entries field path = path := by
  simp [placed, h]

/-- The configuration of the file at a location, from its validated entries. -/
def place (l : File.Location) (entries : Entries) (c : Config) : Config :=
  { c with
    basePath := placed l entries "base_path" c.basePath
    errorLog := placed l entries "error_log" c.errorLog
    crashLog := placed l entries "crash_log" c.crashLog }

theorem anchor_eq_place (c : Config) :
    c.anchor ⟨.slash, l.dropLast⟩ entries = c.place l entries := by
  simp only [anchor, place, anchored_eq_placed]

/-- Placing leaves the paths that are not set. -/
theorem KeepsStandard.place (h : KeepsStandard entries c) :
    KeepsStandard entries (c.place l entries) where
  delimiters := h.delimiters
  basePath hunset := (placed_of_unset hunset).trans (h.basePath hunset)
  extension := h.extension
  maxDepth := h.maxDepth
  errorLog hunset := (placed_of_unset hunset).trans (h.errorLog hunset)
  crashLog hunset := (placed_of_unset hunset).trans (h.crashLog hunset)
  cacheSize := h.cacheSize

/-! ## Loading -/

/-- The entries of the mapping that bytes hold; an empty document has none. -/
def mappingOf (bytes : List UInt8) : Except LoadFault Entries := do
  let t ← (Text.Utf8.decode bytes).mapError .decoding
  rootEntries (← readYaml (Text.unixLines t))

/-- Loading a file depends on its bytes and its location only. -/
theorem load_eq_of_node (hhome : "..".toList ∉ tree.home) (hlocate : tree.locate path = .ok l)
    (hnode : tree.node? l = some (.file bytes)) :
    load tree path =
      mappingOf bytes >>= fun entries =>
        ofEntries entries >>= fun c => pure (c.place l entries) := by
  have hread : tree.read path = .ok bytes := File.Tree.read_eq_ok_iff.2 ⟨l, hlocate, hnode⟩
  have hbytes : (tree.read path).mapError LoadFault.file = .ok bytes :=
    Outcome.mapError_eq_ok_iff.2 hread
  have hdirectory : (path.resolve tree.home).parent = ⟨.slash, l.dropLast⟩ := by
    rw [File.Tree.resolve_of_locate hhome hlocate]
    rfl
  rw [load_of_read hread, hdirectory, loadText, Outcome.bind_of_ok hbytes]
  simp only [mappingOf, anchor_eq_place, bind_assoc, pure_bind]

/-- What is accepted has been validated, and has texts for keys. -/
theorem validate_of_ofEntries (h : ofEntries entries = .ok c) :
    (∀ e ∈ entries, isText e.1 = true) ∧ validate entries = .ok c := by
  by_cases htexts : ∀ e ∈ entries, isText e.1 = true
  · rw [ofEntries_of_isText htexts] at h
    exact ⟨htexts, Outcome.mapError_eq_ok_iff.1 h⟩
  · obtain ⟨e, he⟩ := not_forall.1 htexts
    obtain ⟨hmem, hkey⟩ := Classical.not_imp.1 he
    rw [ofEntries_of_not_isText hmem (by simpa using hkey)] at h
    cases h

/-- A file that loads gives the validated configuration of its mapping, in which the relative paths
that the file sets lead on from its directory; what it does not set is standard.  Every spelling of
its path, from every working directory, gives the same. -/
theorem load_same_from_everywhere (hhome : "..".toList ∉ tree.home)
    (hread : tree.read path = .ok bytes) (hload : load tree path = .ok c) :
    ∃ l entries validated,
      path.resolve tree.home = ⟨.slash, l⟩ ∧ tree.node? l = some (.file bytes) ∧
      mappingOf bytes = .ok entries ∧ validate entries = .ok validated ∧
      c = { validated with
        basePath := placed l entries "base_path" validated.basePath
        errorLog := placed l entries "error_log" validated.errorLog
        crashLog := placed l entries "crash_log" validated.crashLog } ∧
      KeepsStandard entries c ∧
      ∀ (home : File.Location) (spelling : File.Path) (found : List UInt8),
        "..".toList ∉ home → spelling.resolve home = path.resolve tree.home →
        (tree.withHome home).read spelling = .ok found →
          load (tree.withHome home) spelling = .ok c := by
  obtain ⟨l, hlocate, hnode⟩ := File.Tree.read_eq_ok_iff.1 hread
  have hresolve := File.Tree.resolve_of_locate hhome hlocate
  have hsame := load_eq_of_node hhome hlocate hnode
  rw [hload] at hsame
  obtain ⟨entries, hentries, hrest⟩ := Outcome.bind_eq_ok_iff.1 hsame.symm
  obtain ⟨validated, hfields, hplace⟩ := Outcome.bind_eq_ok_iff.1 hrest
  obtain rfl := Outcome.pure_eq_ok_iff.1 hplace
  obtain ⟨-, hvalidate⟩ := validate_of_ofEntries hfields
  refine ⟨l, entries, validated, hresolve, hnode, hentries, hvalidate, rfl,
    (keepsStandard_of_validate hvalidate).place,
    fun home spelling found hhome' hspelling hfound => ?_⟩
  obtain ⟨l', hlocate', hnode'⟩ := File.Tree.read_eq_ok_iff.1 hfound
  have hresolve' := File.Tree.resolve_of_locate hhome' hlocate'
  -- Both spellings lead to one location.
  have hplace : l' = l := by
    have hpaths := hresolve'.symm.trans (hspelling.trans hresolve)
    exact congrArg File.Path.names hpaths
  subst hplace
  rw [load_eq_of_node hhome' hlocate' hnode, ← hsame]

/-- A configuration file. -/
def nestedDocument : Text := "base_path: parts\ncrash_log: /var/crash.log\nmax_depth: 3\n"

/-- A directory with the file, and below it the working directory. -/
def nestedTree : File.Tree where
  home := ["w", "sub"]
  nodes := [(["w"], .directory), (["w", "sub"], .directory),
    (["w", "c.yaml"], .file (Text.Utf8.encode nestedDocument))]

/-- The configuration of the file. -/
def nestedConfig : Config :=
  { standard with
    basePath := ⟨.slash, ["w", "parts"]⟩
    maxDepth := 3
    crashLog := ⟨.slash, ["var", "crash.log"]⟩ }

/-- The file is loaded from below and, by a path with a detour, from its own directory. -/
theorem load_same_from_everywhere_spelled :
    let path : File.Path := .ofText "../c.yaml"
    let spelling : File.Path := .ofText "/w/./sub/../c.yaml"
    "..".toList ∉ nestedTree.home ∧
      nestedTree.read path = .ok (Text.Utf8.encode nestedDocument) ∧
      load nestedTree path = .ok nestedConfig ∧
      spelling.resolve ["w"] = path.resolve nestedTree.home ∧
      load (nestedTree.withHome ["w"]) spelling = .ok nestedConfig := by
  intro path spelling
  have hhome : "..".toList ∉ nestedTree.home := by decide
  have hread : nestedTree.read path = .ok (Text.Utf8.encode nestedDocument) := by decide +kernel
  have hload : load nestedTree path = .ok nestedConfig := by decide +kernel
  have hspelling : spelling.resolve ["w"] = path.resolve nestedTree.home := by decide
  have hfound : (nestedTree.withHome ["w"]).read spelling =
      .ok (Text.Utf8.encode nestedDocument) := by
    decide +kernel
  obtain ⟨_, _, _, -, -, -, -, -, -, hsame⟩ := load_same_from_everywhere hhome hread hload
  exact ⟨hhome, hread, hload, hspelling, hsame ["w"] spelling _ (by decide) hspelling hfound⟩

end Config
end Stencil
