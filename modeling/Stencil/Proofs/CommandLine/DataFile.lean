import Stencil.CommandLine.Data
import Stencil.Proofs.Yaml.Building

/-!
# Data files

A data file that can be read gives a mapping, or it is no document or has another root.  Only a YAML
file can do worse and raise an exception: it holds a scalar that has no value of its type, or a
number in its grammar is beyond all bounds.

Main results:

- Definition `Spoilt`, with Theorem `loadData_eq_error_iff`: why a data file gives no data.
- Theorem `data_or_usage_fault`: but for the exceptions of YAML, a data file gives a mapping or the
  call is at fault.
- Theorem `missing_day_is_no_usage_fault`: a day that is missing from the calendar is such an
  exception.
-/

namespace Stencil
namespace CommandLine

variable {tree : File.Tree} {path : File.Path} {bytes : List UInt8} {fault : DataFault}
  {data : Data} {e : Raised}

/-- Why the bytes of a data file are no data. -/
inductive Spoilt (path : File.Path) (bytes : List UInt8) : DataFault → Prop where
  /-- The file is no JSON. -/
  | json (hsuffix : isYaml path = false) (h : Json.read? bytes = none) :
      Spoilt path bytes (.malformed path)
  /-- The file is no YAML. -/
  | yaml (hsuffix : isYaml path = true) (h : Yaml.readEncoded bytes = .error .malformed) :
      Spoilt path bytes (.malformed path)
  /-- The root of a JSON file is no mapping. -/
  | jsonRoot {v : Value} (hsuffix : isYaml path = false) (h : Json.read? bytes = some v)
      (hroot : ∀ entries, (Data.ofTree v).revealed ≠ .mapping entries) :
      Spoilt path bytes (.notAMapping path)
  /-- The root of a YAML file is neither a mapping nor empty. -/
  | yamlRoot {data : Data} (hsuffix : isYaml path = true) (h : Yaml.readEncoded bytes = .ok data)
      (hroot : ∀ entries, data.revealed ≠ .mapping entries) (hvoid : data.revealed.isVoid = false) :
      Spoilt path bytes (.notAMapping path)
  /-- Reading a YAML file raises an exception. -/
  | raised {document : Text} {e : Raised} (hsuffix : isYaml path = true)
      (hdecode : Yaml.decode? bytes = some document)
      (h : Yaml.read document = .error (.raised e)) : Spoilt path bytes (.raised e)

/-- Reading a document raises only the exceptions that reading its text raises. -/
theorem readEncoded_eq_raised_iff :
    Yaml.readEncoded bytes = .error (.raised e) ↔
      ∃ document, Yaml.decode? bytes = some document ∧
        Yaml.read document = .error (.raised e) := by
  unfold Yaml.readEncoded
  cases Yaml.decode? bytes with
  | none => simp [Yaml.malformed]
  | some document => simp

/-- The data whose root is a mapping; any other root is a fault. -/
def checkRoot (path : File.Path) (data : Data) : Except DataFault Data :=
  match data.revealed with
  | .mapping _ => .ok data
  | _ => .error (.notAMapping path)

theorem checkRoot_eq_ok_iff {data' : Data} :
    checkRoot path data = .ok data' ↔
      data = data' ∧ ∃ entries, data.revealed = .mapping entries := by
  unfold checkRoot
  split
  · rename_i entries hroot
    simp [hroot]
  · rename_i hroot
    simpa using fun _ => hroot

theorem checkRoot_eq_error_iff :
    checkRoot path data = .error fault ↔
      fault = .notAMapping path ∧ ∀ entries, data.revealed ≠ .mapping entries := by
  unfold checkRoot
  split
  · rename_i entries hroot
    simp [hroot]
  · rename_i hroot
    simpa [eq_comm] using fun _ => hroot

/-- The data of a file whose bytes can be read. -/
theorem loadData_eq (hread : tree.read path = .ok bytes) :
    loadData tree path =
      (if isYaml path = true then readYaml path bytes else readJson path bytes) >>=
        checkRoot path := by
  unfold loadData
  rw [hread]
  cases isYaml path <;> rfl

/-- A spoilt file gives no data. -/
theorem loadData_of_spoilt (hread : tree.read path = .ok bytes) (h : Spoilt path bytes fault) :
    loadData tree path = .error fault := by
  rw [loadData_eq hread]
  cases h with
  | json hsuffix hjson =>
      rw [hsuffix, readJson, hjson]
      rfl
  | yaml hsuffix hyaml =>
      rw [hsuffix, readYaml, hyaml]
      rfl
  | jsonRoot hsuffix hjson hroot =>
      rw [hsuffix, readJson, hjson]
      exact checkRoot_eq_error_iff.2 ⟨rfl, hroot⟩
  | @yamlRoot data hsuffix hyaml hroot hvoid =>
      rw [hsuffix, readYaml, hyaml]
      change checkRoot path (if data.revealed.isVoid = true then _ else data) = _
      rw [hvoid]
      exact checkRoot_eq_error_iff.2 ⟨rfl, hroot⟩
  | raised hsuffix hdecode hraised =>
      rw [hsuffix, readYaml, readEncoded_eq_raised_iff.2 ⟨_, hdecode, hraised⟩]
      rfl

/-- A data file gives no data when, and only when, it is spoilt. -/
theorem loadData_eq_error_iff (hread : tree.read path = .ok bytes) :
    loadData tree path = .error fault ↔ Spoilt path bytes fault := by
  refine ⟨fun h => ?_, loadData_of_spoilt hread⟩
  rw [loadData_eq hread] at h
  cases hsuffix : isYaml path with
  | false =>
      rw [hsuffix, readJson] at h
      cases hjson : Json.read? bytes with
      | none =>
          rw [hjson] at h
          cases h
          exact .json hsuffix hjson
      | some v =>
          rw [hjson] at h
          obtain ⟨rfl, hroot⟩ := checkRoot_eq_error_iff.1 h
          exact .jsonRoot hsuffix hjson hroot
  | true =>
      rw [hsuffix, readYaml] at h
      cases hyaml : Yaml.readEncoded bytes with
      | ok data =>
          rw [hyaml] at h
          obtain ⟨rfl, hroot⟩ := checkRoot_eq_error_iff.1 h
          cases hvoid : data.revealed.isVoid with
          | true =>
              rw [hvoid] at hroot
              exact absurd rfl (hroot [])
          | false =>
              rw [hvoid] at hroot
              exact .yamlRoot hsuffix hyaml hroot hvoid
      | error reason =>
          rw [hyaml] at h
          cases reason with
          | malformed =>
              cases h
              exact .yaml hsuffix hyaml
          | raised e =>
              cases h
              obtain ⟨document, hdecode, hraised⟩ := readEncoded_eq_raised_iff.1 hyaml
              exact .raised hsuffix hdecode hraised

/-- The data of a file are a mapping. -/
theorem exists_entries_of_loadData (hread : tree.read path = .ok bytes)
    (h : loadData tree path = .ok data) : ∃ entries, data.revealed = .mapping entries := by
  rw [loadData_eq hread] at h
  obtain ⟨read, -, hroot⟩ := Outcome.bind_eq_ok_iff.1 h
  obtain ⟨rfl, hentries⟩ := checkRoot_eq_ok_iff.1 hroot
  exact hentries

/-- A data file that can be read gives a mapping, or the call is at fault, but for the exceptions
that a YAML document raises. -/
theorem data_or_usage_fault (hread : tree.read path = .ok bytes) :
    (∃ data entries, loadData tree path = .ok data ∧ data.revealed = .mapping entries) ∨
      (∃ fault ∈ [DataFault.malformed path, .notAMapping path],
        Spoilt path bytes fault ∧ loadData tree path = .error fault) ∨
      ∃ document e, isYaml path = true ∧ Yaml.decode? bytes = some document ∧
        Yaml.Unvalued document e ∧ loadData tree path = .error (.raised e) := by
  cases hload : loadData tree path with
  | ok data =>
      obtain ⟨entries, hentries⟩ := exists_entries_of_loadData hread hload
      exact .inl ⟨data, entries, rfl, hentries⟩
  | error fault =>
      have hspoilt := (loadData_eq_error_iff hread).1 hload
      refine .inr ?_
      cases hspoilt with
      | json hsuffix hjson => exact .inl ⟨_, by simp, .json hsuffix hjson, rfl⟩
      | yaml hsuffix hyaml => exact .inl ⟨_, by simp, .yaml hsuffix hyaml, rfl⟩
      | jsonRoot hsuffix hjson hroot => exact .inl ⟨_, by simp, .jsonRoot hsuffix hjson hroot, rfl⟩
      | yamlRoot hsuffix hyaml hroot hvoid =>
          exact .inl ⟨_, by simp, .yamlRoot hsuffix hyaml hroot hvoid, rfl⟩
      | @raised document e hsuffix hdecode hraised =>
          exact .inr ⟨document, e, hsuffix, hdecode, Yaml.unvalued_of_read hraised, rfl⟩

/-- A directory with one file. -/
def oneFile (name document : Text) : File.Tree :=
  ⟨[], [([name], .file (Text.Utf8.encode document))]⟩

/-- The path of a file in the directory. -/
def fileNamed (name : Text) : File.Path := ⟨.relative, [name]⟩

/-- Dates that exist and numbers in sixties give a mapping. -/
theorem data_or_usage_fault_sixties :
    let tree := oneFile "d.yaml" "d: 2024-02-29\nn: 190:20:30.15\n"
    let path := fileNamed "d.yaml"
    tree.read path = .ok (Text.Utf8.encode "d: 2024-02-29\nn: 190:20:30.15\n") ∧
      ∃ data entries, loadData tree path = .ok data ∧ data.revealed = .mapping entries := by
  intro tree path
  have hread : tree.read path = .ok (Text.Utf8.encode "d: 2024-02-29\nn: 190:20:30.15\n") := by
    decide +kernel
  have hok : (loadData tree path).isOk = true := by decide +kernel
  -- The file is not looked into any more.
  generalize tree = tree, path = path at hread hok
  refine ⟨hread, ?_⟩
  obtain hdata | ⟨fault, -, -, herror⟩ | ⟨document, e, -, -, -, herror⟩ := data_or_usage_fault hread
  · exact hdata
  · rw [herror] at hok
    cases hok
  · rw [herror] at hok
    cases hok

/-- A day that is missing from the calendar is no fault of the call. -/
theorem missing_day_is_no_usage_fault :
    let tree := oneFile "d.yaml" "d: 2024-02-30\n"
    let path := fileNamed "d.yaml"
    tree.read path = .ok (Text.Utf8.encode "d: 2024-02-30\n") ∧
      loadData tree path =
        .error (.raised ⟨"ValueError", "day is out of range for month"⟩) := by
  intro tree path
  have hread : tree.read path = .ok (Text.Utf8.encode "d: 2024-02-30\n") := by decide +kernel
  have hfault : (match loadData tree path with
      | .ok _ => none
      | .error fault => some fault) =
        some (.raised ⟨"ValueError", "day is out of range for month"⟩) := by
    decide +kernel
  generalize tree = tree, path = path at hread hfault
  refine ⟨hread, ?_⟩
  split at hfault
  · cases hfault
  · rename_i hload
    rw [hload, Option.some.inj hfault]

end CommandLine
end Stencil
