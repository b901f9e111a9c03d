import Stencil.File.Tree

/-!
# What files gain

Making directories and writing at the end of a file take nothing away from a file tree:
directories stay, paths lead where they led, and every file keeps its bytes and at most
gains some at its end.

Main results:

- Structure `Gains`: a file tree and a later one in which files have gained bytes.
- Theorem `Gains.locate_eq_ok`: a path that leads somewhere goes on leading there.
- Theorem `gains_makeDirectories`: making directories adds nothing to any file.
- Theorem `gains_append`: writing at the end of a file adds the bytes there and nothing
  elsewhere.
-/

namespace Stencil
namespace File
namespace Tree

variable {t t' t'' : Tree} {l k : Location} {gain gain' : Location → List UInt8}

/-! ## Nodes -/

/-- Other places keep their nodes. -/
theorem lookup_putNode_of_ne (n : Node) (nodes : List (Location × Node)) (h : k ≠ l) :
    (putNode l n nodes).lookup k = nodes.lookup k := by
  induction nodes with
  | nil => simp [putNode, List.lookup_cons, beq_eq_false_iff_ne.2 h]
  | cons e rest ih =>
      obtain ⟨place, m⟩ := e
      by_cases hplace : place = l
      · simp [putNode, hplace, List.lookup_cons, beq_eq_false_iff_ne.2 h]
      · simp [putNode, hplace, List.lookup_cons, ih]

/-- Elsewhere everything stands as it stood. -/
theorem node?_put_of_ne (t : Tree) (n : Node) (h : k ≠ l) : (t.put l n).node? k = t.node? k := by
  simp [node?, put, lookup_putNode_of_ne n t.nodes h]

/-- The bytes of the file at a location; there are none where no file is. -/
def contents (t : Tree) (l : Location) : List UInt8 :=
  match t.node? l with
  | some (.file bytes) => bytes
  | _ => []

theorem contents_of_node? {bytes : List UInt8} (h : t.node? l = some (.file bytes)) :
    t.contents l = bytes := by
  simp [contents, h]

theorem contents_of_ne (t : Tree) (n : Node) (h : k ≠ l) :
    (t.put l n).contents k = t.contents k := by
  simp [contents, node?_put_of_ne t n h]

/-! ## Gains -/

/-- A later tree in which all directories are still there and files have gained bytes. -/
structure Gains (t t' : Tree) (gain : Location → List UInt8) : Prop where
  home : t'.home = t.home
  directory : ∀ l, t.node? l = some .directory → t'.node? l = some .directory
  contents : ∀ l, t'.contents l = t.contents l ++ gain l

theorem gains_refl (t : Tree) : Gains t t fun _ => [] :=
  ⟨rfl, fun _ h => h, fun l => (List.append_nil (t.contents l)).symm⟩

/-- What is gained twice is gained one after the other. -/
theorem Gains.trans (h : Gains t t' gain) (h' : Gains t' t'' gain') :
    Gains t t'' fun l => gain l ++ gain' l where
  home := h'.home.trans h.home
  directory l hl := h'.directory l (h.directory l hl)
  contents l := by rw [h'.contents, h.contents, List.append_assoc]

/-- Ways through directories stay open. -/
theorem Gains.walk_eq_ok (h : Gains t t' gain) {names : List Text} {place : Location}
    (hwalk : t.walk place names = .ok l) : t'.walk place names = .ok l := by
  induction names generalizing place with
  | nil => exact hwalk
  | cons name rest ih =>
      rw [walk] at hwalk ⊢
      -- Only a directory can be entered, and it is still there.
      cases hnode : t.node? place with
      | none => simp [enter, hnode, Except.bind] at hwalk
      | some node =>
          cases node with
          | file bytes => simp [enter, hnode, Except.bind] at hwalk
          | directory =>
              have henter : t'.enter place name = t.enter place name := by
                unfold enter
                rw [hnode, h.directory place hnode]
              rw [henter]
              cases hnext : t.enter place name with
              | error cause =>
                  rw [hnext] at hwalk
                  cases hwalk
              | ok next =>
                  rw [hnext] at hwalk
                  exact ih hwalk

/-- A path that leads somewhere goes on leading there. -/
theorem Gains.locate_eq_ok (h : Gains t t' gain) {p : Path} (hlocate : t.locate p = .ok l) :
    t'.locate p = .ok l := by
  unfold locate at hlocate ⊢
  rw [h.home]
  split at hlocate
  · cases hlocate
  · rename_i hzero
    rw [if_neg hzero]
    split at hlocate
    · cases hlocate
    · rename_i hlength
      rw [if_neg hlength]
      exact h.walk_eq_ok hlocate

/-! ## Directories -/

theorem ne_root_of_node?_eq_none (h : t.node? l = none) : l ≠ [] := by
  rintro rfl
  simp at h

/-- A new directory takes nothing from any file. -/
theorem gains_makeDirectory {p : Path} (h : t.makeDirectory p = .ok t') :
    Gains t t' fun _ => [] := by
  unfold makeDirectory at h
  split at h
  · cases h
  · rename_i place _
    split at h
    · cases h
    · rename_i hnone
      cases h
      have hroot := ne_root_of_node?_eq_none hnone
      refine ⟨rfl, fun l hl => ?_, fun l => ?_⟩
      · by_cases hplace : l = place
        · rw [hplace, hnone] at hl
          cases hl
        · rw [node?_put_of_ne t _ hplace, hl]
      · by_cases hplace : l = place
        · simp [contents, hplace, node?_put_same t _ hroot, hnone]
        · rw [contents_of_ne t _ hplace, List.append_nil]

theorem forgive_snd (t : Tree) (fault : Fault) : (t.forgive fault).2 = t := by
  unfold forgive
  split <;> rfl

/-- Nor do several of them, even when making them stops half way. -/
theorem gains_makeDirectoriesFrom (t : Tree) (root : Root) (names : List Text) :
    Gains t (t.makeDirectoriesFrom root names).2 fun _ => [] := by
  induction names generalizing t with
  | nil =>
      unfold makeDirectoriesFrom
      split
      · rename_i made hmade
        exact gains_makeDirectory hmade
      · rw [forgive_snd]
        exact gains_refl t
  | cons name above ih =>
      unfold makeDirectoriesFrom
      dsimp only
      split
      · rename_i made hmade
        exact gains_makeDirectory hmade
      · have habove := ih t
        split
        · rename_i made hmade
          rwa [hmade] at habove
        · rename_i made hmade
          rw [hmade] at habove
          split
          · rename_i whole hlast
            exact habove.trans (gains_makeDirectory hlast)
          · exact habove
          · rw [forgive_snd]
            exact habove
      · rw [forgive_snd]
        exact gains_refl t

theorem gains_makeDirectories (t : Tree) (p : Path) :
    Gains t (t.makeDirectories p).2 fun _ => [] :=
  gains_makeDirectoriesFrom t p.root p.names.reverse

/-! ## Files -/

/-- A file that is extended gains the new bytes, and no other file does. -/
theorem gains_put_file (t : Tree) (bytes : List UInt8) (h : t.node? l ≠ some .directory) :
    Gains t (t.put l (.file (t.contents l ++ bytes))) fun k => if k = l then bytes else [] := by
  have hroot : l ≠ [] := by
    rintro rfl
    exact h rfl
  refine ⟨rfl, fun k hk => ?_, fun k => ?_⟩
  · have hplace : k ≠ l := by
      rintro rfl
      exact h hk
    rw [node?_put_of_ne t _ hplace, hk]
  · by_cases hplace : k = l
    · rw [if_pos hplace, hplace, contents_of_node? (node?_put_same t _ hroot)]
    · rw [if_neg hplace, contents_of_ne t _ hplace, List.append_nil]

/-- Writing at the end of a file adds the bytes there and nothing elsewhere. -/
theorem gains_append {p : Path} {bytes : List UInt8} (h : t.append p bytes = .ok t') :
    ∃ l, t.locate p = .ok l ∧ Gains t t' fun k => if k = l then bytes else [] := by
  unfold append update at h
  split at h
  · cases h
  · rename_i l hlocate
    refine ⟨l, hlocate, ?_⟩
    have hput : t.node? l ≠ some .directory ∧
        t' = t.put l (.file (t.contents l ++ bytes)) := by
      unfold contents
      cases hnode : t.node? l with
      | none =>
          rw [hnode] at h
          exact ⟨by simp, (Except.ok.inj h).symm⟩
      | some node =>
          rw [hnode] at h
          cases node with
          | directory => cases h
          | file old => exact ⟨by simp, (Except.ok.inj h).symm⟩
    rw [hput.2]
    exact gains_put_file t bytes hput.1

end Tree
end File
end Stencil
