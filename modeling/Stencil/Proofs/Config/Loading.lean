import Stencil.Config.Load
import Stencil.Proofs.Outcome

/-!
# What is wrong with a configuration file

A file that can be read is loaded, or one thing is wrong with it: its encoding, its form, a scalar
that stands for no value, its root, a key of the root, or the fields.

Main results:

- Definition `Defective`: what can be wrong with the file at a path.
- Theorem `load_eq_error_iff`: loading a file fails exactly with what is wrong with it.
-/

namespace Stencil
namespace Config

variable {tree : File.Tree} {path : File.Path} {bytes : List UInt8} {text : Text} {data : Data}
  {entries : Entries} {fault : LoadFault}

/-- The faults of the file at a path. -/
inductive Defective (tree : File.Tree) (path : File.Path) : LoadFault → Prop where
  /-- The bytes are not UTF-8. -/
  | decoding {bytes : List UInt8} {fault : Text.Utf8.Fault} (hread : tree.read path = .ok bytes)
      (h : Text.Utf8.decode bytes = .error fault) : Defective tree path (.decoding fault)
  | malformed {text : Text} (htext : loadText tree path = .ok text)
      (h : Yaml.read text = .error .malformed) : Defective tree path .malformed
  | raised {text : Text} {e : Raised} (htext : loadText tree path = .ok text)
      (h : Yaml.read text = .error (.raised e)) : Defective tree path (.raised e)
  /-- The root is something else than a mapping, and not nothing. -/
  | notAMapping {text : Text} {data : Data} (htext : loadText tree path = .ok text)
      (hdata : Yaml.read text = .ok data) (hroot : ∀ entries, data.revealed ≠ .mapping entries)
      (h : data.revealed.isVoid = false) : Defective tree path .notAMapping
  /-- The root is a mapping in which a key is no text. -/
  | keyNotText {text : Text} {data : Data} {entries : Entries} {e : Value × Value}
      (htext : loadText tree path = .ok text) (hdata : Yaml.read text = .ok data)
      (hroot : data.revealed = .mapping entries) (hmem : e ∈ entries) (h : isText e.1 = false) :
      Defective tree path .keyNotText
  | invalid {text : Text} {data : Data} {entries : Entries} {faults : List Fault}
      (htext : loadText tree path = .ok text) (hdata : Yaml.read text = .ok data)
      (hroot : rootEntries data = .ok entries) (htexts : ∀ e ∈ entries, isText e.1 = true)
      (h : validate entries = .error faults) : Defective tree path (.invalid faults)

/-! ## The steps of loading -/

/-- The kind of a fault does not matter where there is none. -/
theorem readYaml_eq_ok_iff : readYaml text = .ok data ↔ Yaml.read text = .ok data := by
  unfold readYaml
  split <;> rename_i hread <;> simp [hread]

/-- A document is malformed, or reading it raises an exception. -/
theorem readYaml_eq_error_iff :
    readYaml text = .error fault ↔
      (Yaml.read text = .error .malformed ∧ fault = .malformed) ∨
        ∃ e, Yaml.read text = .error (.raised e) ∧ fault = .raised e := by
  unfold readYaml
  split <;> rename_i hread <;> simp [hread, eq_comm]

/-- The entries of a mapping are taken with their collections. -/
theorem rootEntries_of_mapping (h : data.revealed = .mapping entries) :
    rootEntries data = .ok (entries.map fun (key, v) => (key, data.pool.reveal v)) := by
  rw [rootEntries, h]

/-- A root is refused when it is neither a mapping nor void. -/
theorem rootEntries_eq_error_iff :
    rootEntries data = .error fault ↔
      (∀ entries, data.revealed ≠ .mapping entries) ∧ data.revealed.isVoid = false ∧
        fault = .notAMapping := by
  unfold rootEntries
  split
  · rename_i hroot
    simp [hroot]
  · rename_i hroot
    have hother : ∀ entries, data.revealed ≠ .mapping entries := hroot
    split <;> rename_i hvoid <;> simp [hvoid, hother, eq_comm]

/-- The entries of a root have the keys of the mapping that it is; without a mapping there are
none. -/
theorem exists_of_rootEntries (h : rootEntries data = .ok entries) {e : Value × Value}
    (hmem : e ∈ entries) :
    ∃ found, data.revealed = .mapping found ∧ ∃ e' ∈ found, e'.1 = e.1 := by
  unfold rootEntries at h
  split at h
  · rename_i found hroot
    obtain rfl := Except.ok.inj h
    obtain ⟨e', he', rfl⟩ := List.mem_map.1 hmem
    exact ⟨found, hroot, e', he', rfl⟩
  · split at h
    · obtain rfl := Except.ok.inj h
      cases hmem
    · cases h

/-- A key that is no text is refused before anything is validated. -/
theorem ofEntries_of_not_isText {e : Value × Value} (hmem : e ∈ entries) (h : isText e.1 = false) :
    ofEntries entries = .error .keyNotText := by
  refine if_neg fun hall => ?_
  have htext : isText e.1 = true := List.all_eq_true.1 hall e hmem
  rw [h] at htext
  cases htext

theorem ofEntries_of_isText (h : ∀ e ∈ entries, isText e.1 = true) :
    ofEntries entries = (validate entries).mapError .invalid :=
  if_pos (List.all_eq_true.2 h)

/-- A file that can be read may hold no text. -/
theorem loadText_eq_error_iff (hread : tree.read path = .ok bytes) :
    loadText tree path = .error fault ↔
      ∃ e, Text.Utf8.decode bytes = .error e ∧ fault = .decoding e := by
  have hbytes : (tree.read path).mapError LoadFault.file = .ok bytes :=
    Outcome.mapError_eq_ok_iff.2 hread
  unfold loadText
  rw [Outcome.bind_of_ok hbytes, Outcome.bind_eq_error_iff, Outcome.mapError_eq_error_iff]
  constructor
  · rintro (⟨e, he, rfl⟩ | ⟨_, -, hpure⟩)
    · exact ⟨e, he, rfl⟩
    · exact absurd hpure Outcome.pure_ne_error
  · rintro ⟨e, he, rfl⟩
    exact .inl ⟨e, he, rfl⟩

/-! ## Loading -/

/-- A file that can be read is there. -/
theorem holds_of_read (h : tree.read path = .ok bytes) : tree.holds path = .ok true := by
  unfold File.Tree.read at h
  unfold File.Tree.holds File.Tree.test
  split at h
  · cases h
  · rename_i hlocate
    rw [hlocate]
    dsimp only
    split at h
    · cases h
    · cases h
    · rename_i hnode
      rw [hnode]
      rfl

/-- Where there is no file the standard configuration holds. -/
theorem load_of_absent (h : tree.holds path = .ok false) : load tree path = .ok standard := by
  unfold load
  rw [h]
  rfl

/-- A path that cannot be looked at raises the fault of the file system. -/
theorem load_of_holds_error {fault : File.Fault} (h : tree.holds path = .error fault) :
    load tree path = .error (.file fault) := by
  unfold load
  rw [h]
  rfl

/-- A file is loaded by its text, the data of the text, the entries of the root and the fields. -/
theorem load_of_read (h : tree.read path = .ok bytes) :
    load tree path =
      loadText tree path >>= fun text => readYaml text >>= fun data =>
        rootEntries data >>= fun entries => ofEntries entries >>= fun config =>
          pure (config.anchor (path.resolve tree.home).parent entries) := by
  unfold load
  rw [holds_of_read h]
  rfl

/-- A text comes from a file. -/
theorem exists_read_of_loadText (h : loadText tree path = .ok text) :
    ∃ bytes, tree.read path = .ok bytes := by
  obtain ⟨bytes, hread, -⟩ := Outcome.bind_eq_ok_iff.1 h
  exact ⟨bytes, Outcome.mapError_eq_ok_iff.1 hread⟩

/-- Only a file that can be read is defective. -/
theorem Defective.exists_read (h : Defective tree path fault) :
    ∃ bytes, tree.read path = .ok bytes := by
  cases h with
  | decoding hread => exact ⟨_, hread⟩
  | malformed htext => exact exists_read_of_loadText htext
  | raised htext => exact exists_read_of_loadText htext
  | notAMapping htext => exact exists_read_of_loadText htext
  | keyNotText htext => exact exists_read_of_loadText htext
  | invalid htext => exact exists_read_of_loadText htext

/-- The defect is what loading raises. -/
theorem load_of_defective (hread : tree.read path = .ok bytes) (h : Defective tree path fault) :
    load tree path = .error fault := by
  rw [load_of_read hread]
  cases h with
  | decoding hread' hdecode =>
      obtain rfl := Except.ok.inj (hread.symm.trans hread')
      exact Outcome.bind_of_error ((loadText_eq_error_iff hread).2 ⟨_, hdecode, rfl⟩)
  | malformed htext hdata =>
      rw [Outcome.bind_of_ok htext]
      exact Outcome.bind_of_error (readYaml_eq_error_iff.2 (.inl ⟨hdata, rfl⟩))
  | raised htext hdata =>
      rw [Outcome.bind_of_ok htext]
      exact Outcome.bind_of_error (readYaml_eq_error_iff.2 (.inr ⟨_, hdata, rfl⟩))
  | notAMapping htext hdata hroot hvoid =>
      rw [Outcome.bind_of_ok htext, Outcome.bind_of_ok (readYaml_eq_ok_iff.2 hdata)]
      exact Outcome.bind_of_error (rootEntries_eq_error_iff.2 ⟨hroot, hvoid, rfl⟩)
  | keyNotText htext hdata hroot hmem hkey =>
      rw [Outcome.bind_of_ok htext, Outcome.bind_of_ok (readYaml_eq_ok_iff.2 hdata),
        Outcome.bind_of_ok (rootEntries_of_mapping hroot)]
      exact Outcome.bind_of_error (ofEntries_of_not_isText (List.mem_map_of_mem hmem) hkey)
  | invalid htext hdata hroot htexts hfaults =>
      rw [Outcome.bind_of_ok htext, Outcome.bind_of_ok (readYaml_eq_ok_iff.2 hdata),
        Outcome.bind_of_ok hroot, ofEntries_of_isText htexts, hfaults]
      rfl

/-- Entries that are refused are a defect of their file. -/
theorem defective_of_ofEntries (htext : loadText tree path = .ok text)
    (hdata : Yaml.read text = .ok data) (hroot : rootEntries data = .ok entries)
    (h : ofEntries entries = .error fault) : Defective tree path fault := by
  by_cases hother : ∃ e ∈ entries, isText e.1 = false
  · obtain ⟨e, he, hkey⟩ := hother
    cases (ofEntries_of_not_isText he hkey).symm.trans h
    obtain ⟨found, hfound, e', he', hsame⟩ := exists_of_rootEntries hroot he
    exact .keyNotText htext hdata hfound he' (hsame ▸ hkey)
  · have htexts : ∀ e ∈ entries, isText e.1 = true := by simpa using hother
    rw [ofEntries_of_isText htexts] at h
    obtain ⟨faults, hfaults, rfl⟩ := Outcome.mapError_eq_error_iff.1 h
    exact .invalid htext hdata hroot htexts hfaults

/-- Loading a file fails exactly with what is wrong with it. -/
theorem load_eq_error_iff (hread : tree.read path = .ok bytes) :
    load tree path = .error fault ↔ Defective tree path fault := by
  refine ⟨fun herror => ?_, load_of_defective hread⟩
  rw [load_of_read hread] at herror
  obtain htext | ⟨text, htext, herror⟩ := Outcome.bind_eq_error_iff.1 herror
  · obtain ⟨e, hdecode, rfl⟩ := (loadText_eq_error_iff hread).1 htext
    exact .decoding hread hdecode
  obtain hyaml | ⟨data, hdata, herror⟩ := Outcome.bind_eq_error_iff.1 herror
  · obtain ⟨hdata, rfl⟩ | ⟨e, hdata, rfl⟩ := readYaml_eq_error_iff.1 hyaml
    · exact .malformed htext hdata
    · exact .raised htext hdata
  have hdata := readYaml_eq_ok_iff.1 hdata
  obtain hroot | ⟨entries, hroot, herror⟩ := Outcome.bind_eq_error_iff.1 herror
  · obtain ⟨hother, hvoid, rfl⟩ := rootEntries_eq_error_iff.1 hroot
    exact .notAMapping htext hdata hother hvoid
  obtain hfields | ⟨config, -, herror⟩ := Outcome.bind_eq_error_iff.1 herror
  · exact defective_of_ofEntries htext hdata hroot hfields
  · exact absurd herror Outcome.pure_ne_error

end Config
end Stencil
