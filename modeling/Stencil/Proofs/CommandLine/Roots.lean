import Stencil.Proofs.CommandLine.DataFile
import Stencil.Proofs.Config.Anchoring
import Stencil.Proofs.Value.JsonData

/-!
# Roots of data files and configuration files

A file whose root is no mapping is refused, in JSON always.  In YAML an empty document counts for a
mapping without entries, and so does every other root that counts for nothing.

Main results:

- Inductive `Hollow` and theorem `isVoid_iff`: the values that count for nothing.
- Theorem `json_root_iff`: which roots of a JSON file are refused.
- Theorems `yaml_root_iff` and `config_root_iff`: which roots of a YAML file are refused.
- Theorem `only_mappings_or_void_roots`: the roots that are accepted.
- Theorem `empty_list_is_no_data`: a root that JSON refuses and YAML does not.
-/

namespace Stencil

/-- A value that is neither null nor a mapping and still counts for nothing. -/
inductive Value.Hollow : Value → Prop where
  | no : Hollow (.bool false)
  | zero : Hollow (.int 0)
  | pointZero {x : Number.Binary64} (h : x.isZero = true) : Hollow (.float x)
  | text : Hollow (.text [])
  | bytes : Hollow (.bytes [])
  | list : Hollow (.list [])
  | tuple : Hollow (.tuple [])
  | set : Hollow (.set [])

/-- Null, the empty mapping and the hollow values count for nothing, and no others. -/
theorem Value.isVoid_iff {v : Value} :
    v.isVoid = true ↔ v = .null ∨ v = .mapping [] ∨ v.Hollow := by
  constructor
  · intro h
    cases v with
    | null => exact .inl rfl
    | bool b =>
        obtain rfl : b = false := by simpa [isVoid] using h
        exact .inr (.inr .no)
    | int n =>
        obtain rfl : n = 0 := by simpa [isVoid] using h
        exact .inr (.inr .zero)
    | float x => exact .inr (.inr (.pointZero h))
    | text t =>
        obtain rfl : t = [] := by simpa [isVoid] using h
        exact .inr (.inr .text)
    | bytes b =>
        obtain rfl : b = [] := by simpa [isVoid] using h
        exact .inr (.inr .bytes)
    | list items =>
        obtain rfl : items = [] := by simpa [isVoid] using h
        exact .inr (.inr .list)
    | tuple items =>
        obtain rfl : items = [] := by simpa [isVoid] using h
        exact .inr (.inr .tuple)
    | mapping entries =>
        obtain rfl : entries = [] := by simpa [isVoid] using h
        exact .inr (.inl rfl)
    | set members =>
        obtain rfl : members = [] := by simpa [isVoid] using h
        exact .inr (.inr .set)
    | _ => cases h
  · rintro (rfl | rfl | h)
    · rfl
    · rfl
    · cases h with
      | pointZero h => exact h
      | _ => rfl

/-- A root that is neither a mapping nor null, nor counts for nothing. -/
theorem Value.isVoid_eq_false_iff {v : Value} (hmapping : ∀ entries, v ≠ .mapping entries) :
    v.isVoid = false ↔ v ≠ .null ∧ ¬ v.Hollow := by
  rw [← Bool.not_eq_true, isVoid_iff, not_or, not_or]
  exact ⟨fun h => ⟨h.1, h.2.2⟩, fun h => ⟨h.1, hmapping [], h.2⟩⟩

namespace CommandLine

variable {tree : File.Tree} {path : File.Path} {bytes : List UInt8} {data : Data} {v : Value}
  {text : Text}

/-! ## JSON -/

theorem revealed_ofTree_of_isJson (h : v.IsJson) : (Data.ofTree v).revealed = v := by
  cases h <;> rfl

/-- A JSON file is refused for its root if, and only if, this is no mapping. -/
theorem json_root_iff (hread : tree.read path = .ok bytes) (hsuffix : isYaml path = false)
    (hjson : Json.read? bytes = some v) :
    loadData tree path = .error (.notAMapping path) ↔ ∀ entries, v ≠ .mapping entries := by
  have hrevealed := revealed_ofTree_of_isJson (Value.isJson_of_read? hjson)
  rw [loadData_eq hread, hsuffix, if_neg (by simp), readJson, hjson]
  exact checkRoot_eq_error_iff.trans (by simp [hrevealed])

/-! ## YAML -/

/-- A YAML file is refused for its root if, and only if, this is no mapping and counts for
something. -/
theorem yaml_root_iff (hread : tree.read path = .ok bytes) (hsuffix : isYaml path = true)
    (hyaml : Yaml.readEncoded bytes = .ok data) :
    loadData tree path = .error (.notAMapping path) ↔
      (∀ entries, data.revealed ≠ .mapping entries) ∧ data.revealed.isVoid = false := by
  rw [loadData_eq hread, hsuffix, if_pos rfl, readYaml, hyaml]
  change checkRoot path (if data.revealed.isVoid = true then _ else data) = _ ↔ _
  cases hvoid : data.revealed.isVoid with
  | true => simpa using fun h => (checkRoot_eq_error_iff.1 h).2 [] rfl
  | false => exact checkRoot_eq_error_iff.trans (by simp)

/-- A root that counts for nothing gives an empty mapping. -/
theorem loadData_of_isVoid (hread : tree.read path = .ok bytes) (hsuffix : isYaml path = true)
    (hyaml : Yaml.readEncoded bytes = .ok data) (hvoid : data.revealed.isVoid = true) :
    loadData tree path = .ok (.ofTree (.mapping [])) := by
  rw [loadData_eq hread, hsuffix, if_pos rfl, readYaml, hyaml]
  change checkRoot path (if data.revealed.isVoid = true then _ else data) = _
  rw [if_pos hvoid]
  exact checkRoot_eq_ok_iff.2 ⟨rfl, [], rfl⟩

/-! ## Configuration files -/

/-- A configuration file is refused for its root if, and only if, this is no mapping and counts for
something. -/
theorem config_root_iff (htext : Config.loadText tree path = .ok text)
    (hyaml : Yaml.read text = .ok data) :
    Config.load tree path = .error .notAMapping ↔
      (∀ entries, data.revealed ≠ .mapping entries) ∧ data.revealed.isVoid = false := by
  obtain ⟨bytes, hread⟩ := Config.exists_read_of_loadText htext
  rw [Config.load_eq_error_iff hread]
  constructor
  · intro h
    cases h with
    | notAMapping htext' hdata hroot hvoid =>
        obtain rfl := Except.ok.inj (htext.symm.trans htext')
        obtain rfl := Except.ok.inj (hyaml.symm.trans hdata)
        exact ⟨hroot, hvoid⟩
  · rintro ⟨hroot, hvoid⟩
    exact .notAMapping htext hyaml hroot hvoid

/-- A root that counts for nothing gives the standard configuration. -/
theorem load_of_isVoid (htext : Config.loadText tree path = .ok text)
    (hyaml : Yaml.read text = .ok data) (hvoid : data.revealed.isVoid = true) :
    Config.load tree path = .ok .standard := by
  obtain ⟨bytes, hread⟩ := Config.exists_read_of_loadText htext
  have hentries : Config.rootEntries data = .ok [] := by
    unfold Config.rootEntries
    split
    · rename_i entries hroot
      obtain rfl : entries = [] := by simpa [hroot, Value.isVoid] using hvoid
      rfl
    · rw [if_pos hvoid]
  rw [Config.load_of_read hread, Outcome.bind_of_ok htext,
    Outcome.bind_of_ok (Config.readYaml_eq_ok_iff.2 hyaml), Outcome.bind_of_ok hentries]
  rfl

/-! ## Accepted roots -/

/-- The root of a file that can be read is refused as it should be, in both formats and by both
loaders: a mapping and an empty document never, and everything else always, but for the hollow roots
of YAML, which count for a mapping without entries. -/
theorem only_mappings_or_void_roots (tree : File.Tree) (path : File.Path) :
    (∀ bytes, tree.read path = .ok bytes →
      (∀ v, isYaml path = false → Json.read? bytes = some v →
        (loadData tree path = .error (.notAMapping path) ↔ ∀ entries, v ≠ .mapping entries)) ∧
      ∀ data, isYaml path = true → Yaml.readEncoded bytes = .ok data →
        (loadData tree path = .error (.notAMapping path) ↔
          (∀ entries, data.revealed ≠ .mapping entries) ∧ data.revealed ≠ .null ∧
            ¬ data.revealed.Hollow) ∧
        (data.revealed = .null ∨ data.revealed.Hollow →
          loadData tree path = .ok (.ofTree (.mapping [])))) ∧
    ∀ text data, Config.loadText tree path = .ok text → Yaml.read text = .ok data →
      (Config.load tree path = .error .notAMapping ↔
        (∀ entries, data.revealed ≠ .mapping entries) ∧ data.revealed ≠ .null ∧
          ¬ data.revealed.Hollow) ∧
      (data.revealed = .null ∨ data.revealed.Hollow →
        Config.load tree path = .ok .standard) := by
  have hrefused : ∀ data : Data,
      ((∀ entries, data.revealed ≠ .mapping entries) ∧ data.revealed.isVoid = false ↔
        (∀ entries, data.revealed ≠ .mapping entries) ∧ data.revealed ≠ .null ∧
          ¬ data.revealed.Hollow) :=
    fun data => and_congr_right Value.isVoid_eq_false_iff
  have hvoid : ∀ data : Data, data.revealed = .null ∨ data.revealed.Hollow →
      data.revealed.isVoid = true :=
    fun data h => Value.isVoid_iff.2 (h.imp_right .inr)
  refine ⟨fun bytes hread => ⟨fun v hsuffix hjson => json_root_iff hread hsuffix hjson,
    fun data hsuffix hyaml => ⟨?_, fun h => ?_⟩⟩, fun text data htext hyaml => ⟨?_, fun h => ?_⟩⟩
  · exact (yaml_root_iff hread hsuffix hyaml).trans (hrefused data)
  · exact loadData_of_isVoid hread hsuffix hyaml (hvoid data h)
  · exact (config_root_iff htext hyaml).trans (hrefused data)
  · exact load_of_isVoid htext hyaml (hvoid data h)

/-- Whether a value is a list, and an empty one or not. -/
def isList (empty : Bool) : Value → Bool
  | .list items => items.isEmpty == empty
  | _ => false

theorem of_isList {empty : Bool} (h : isList empty v = true) :
    (∀ entries, v ≠ .mapping entries) ∧ v ≠ .null ∧ v.isVoid = empty := by
  cases v with
  | list items => exact ⟨fun _ => by simp, by simp, by simpa [isList, Value.isVoid] using h⟩
  | _ => cases h

theorem of_isList_full (h : isList false v = true) :
    (∀ entries, v ≠ .mapping entries) ∧ v ≠ .null ∧ ¬ v.Hollow := by
  obtain ⟨hmapping, -, hvoid⟩ := of_isList h
  exact ⟨hmapping, (Value.isVoid_eq_false_iff hmapping).1 hvoid⟩

/-- A list with an item is refused everywhere. -/
theorem only_mappings_or_void_roots_item :
    let document : Text := "[1]"
    loadData (oneFile "d.json" document) (fileNamed "d.json") =
        .error (.notAMapping (fileNamed "d.json")) ∧
      loadData (oneFile "d.yaml" document) (fileNamed "d.yaml") =
        .error (.notAMapping (fileNamed "d.yaml")) ∧
      Config.load (oneFile "d.yaml" document) (fileNamed "d.yaml") = .error .notAMapping := by
  intro document
  have hreads : (oneFile "d.json" document).read (fileNamed "d.json") =
        .ok (Text.Utf8.encode document) ∧
      (oneFile "d.yaml" document).read (fileNamed "d.yaml") = .ok (Text.Utf8.encode document) ∧
      Config.loadText (oneFile "d.yaml" document) (fileNamed "d.yaml") = .ok document := by
    decide +kernel
  have hroots : (Json.read? (Text.Utf8.encode document)).any (isList false) = true ∧
      (Yaml.readEncoded (Text.Utf8.encode document)).toOption.any
        (fun data => isList false data.revealed) = true ∧
      (Yaml.read document).toOption.any (fun data => isList false data.revealed) = true := by
    decide +kernel
  obtain ⟨v, hjson, hv⟩ := (Option.any_eq_true _ _).1 hroots.1
  obtain ⟨data, hyaml, hdata⟩ := Outcome.any_toOption_iff.1 hroots.2.1
  obtain ⟨data', hyaml', hdata'⟩ := Outcome.any_toOption_iff.1 hroots.2.2
  refine ⟨?_, ?_, ?_⟩
  · exact (((only_mappings_or_void_roots _ _).1 _ hreads.1).1 v rfl hjson).2 (of_isList_full hv).1
  · exact (((only_mappings_or_void_roots _ _).1 _ hreads.2.1).2 data rfl hyaml).1.2
      (of_isList_full hdata)
  · exact ((only_mappings_or_void_roots _ _).2 document data' hreads.2.2 hyaml').1.2
      (of_isList_full hdata')

/-- An empty list is refused as JSON, but as YAML it counts for an empty mapping. -/
theorem empty_list_is_no_data :
    let document : Text := "[]"
    loadData (oneFile "d.json" document) (fileNamed "d.json") =
        .error (.notAMapping (fileNamed "d.json")) ∧
      (∃ data, Yaml.readEncoded (Text.Utf8.encode document) = .ok data ∧
        (∀ entries, data.revealed ≠ .mapping entries) ∧ data.revealed ≠ .null) ∧
      loadData (oneFile "d.yaml" document) (fileNamed "d.yaml") = .ok (.ofTree (.mapping [])) ∧
      Config.load (oneFile "d.yaml" document) (fileNamed "d.yaml") = .ok .standard := by
  intro document
  have hreads : (oneFile "d.json" document).read (fileNamed "d.json") =
        .ok (Text.Utf8.encode document) ∧
      (oneFile "d.yaml" document).read (fileNamed "d.yaml") = .ok (Text.Utf8.encode document) ∧
      Config.loadText (oneFile "d.yaml" document) (fileNamed "d.yaml") = .ok document := by
    decide +kernel
  have hroots : (Json.read? (Text.Utf8.encode document)).any (isList true) = true ∧
      (Yaml.readEncoded (Text.Utf8.encode document)).toOption.any
        (fun data => isList true data.revealed) = true ∧
      (Yaml.read document).toOption.any (fun data => isList true data.revealed) = true := by
    decide +kernel
  obtain ⟨v, hjson, hv⟩ := (Option.any_eq_true _ _).1 hroots.1
  obtain ⟨data, hyaml, hdata⟩ := Outcome.any_toOption_iff.1 hroots.2.1
  obtain ⟨data', hyaml', hdata'⟩ := Outcome.any_toOption_iff.1 hroots.2.2
  obtain ⟨hmapping, hnull, hvoid⟩ := of_isList hdata
  refine ⟨?_, ⟨data, hyaml, hmapping, hnull⟩, ?_, ?_⟩
  · exact (json_root_iff hreads.1 rfl hjson).2 (of_isList hv).1
  · exact loadData_of_isVoid hreads.2.1 rfl hyaml hvoid
  · exact load_of_isVoid hreads.2.2 hyaml' (of_isList hdata').2.2

end CommandLine
end Stencil
