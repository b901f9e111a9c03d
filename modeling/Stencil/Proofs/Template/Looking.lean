import Stencil.Proofs.Template.Stages

/-!
# Rendering by looking

A compiled template sees its data only through what it finds at the end of its paths: nothing, a
value that has a text, or an exception.

Main results:

- Definition `Data.look`: what a template finds at the end of a path.
- Theorem `apply_eq_renderWith`: a compiled template is a function of what it finds.
- Theorem `lookups_of_compile`: the lookups of a compiled program are its expressions, cut
  at the dots.
-/

namespace Stencil

/-- What a template finds at the end of a path: nothing, or a value that has a text or raises
an exception when it is shown.  An exception that is raised on the way is a failure. -/
def Data.look (data : Data) (path : List Text) : Except Raised (Option (Except Raised Text)) :=
  (data.root.resolve data.pool path).map fun
    | .null => none
    | v => some (v.display data.pool)

namespace Template

open Text Outcome

variable {look look' : List Text → Except Raised (Option (Except Raised Text))}

/-! ## Rendering by looking -/

/-- The text of one part, for what is found at the end of its path. -/
def Part.renderWith (look : List Text → Except Raised (Option (Except Raised Text))) :
    Part → Except Raised Text
  | .text t => .ok t
  | .path parts => do
    match ← look parts with
    | none => return []
    | some shown => shown

/-- The texts of parts, one after the other, for what is found at the end of their paths. -/
def renderPartsWith (look : List Text → Except Raised (Option (Except Raised Text))) :
    List Part → Except Raised Text
  | [] => .ok []
  | p :: ps => do
    let t ← p.renderWith look
    let rest ← renderPartsWith look ps
    return t ++ rest

/-- A part of a template sees the data only by looking paths up. -/
theorem render_eq_renderWith (data : Data) (p : Part) : p.render data = p.renderWith data.look := by
  cases p with
  | text t => rfl
  | path parts =>
      rw [Part.render, Part.renderWith, Data.look]
      cases data.root.resolve data.pool parts with
      | error raised => rfl
      | ok v => cases v <;> rfl

theorem renderParts_eq_renderPartsWith (data : Data) (ps : List Part) :
    renderParts data ps = renderPartsWith data.look ps := by
  induction ps with
  | nil => rfl
  | cons p ps ih => rw [renderParts, renderPartsWith, render_eq_renderWith, ih]

/-- Only the paths of the parts are looked at. -/
theorem renderPartsWith_congr {ps : List Part}
    (h : ∀ path, .path path ∈ ps → look path = look' path) :
    renderPartsWith look ps = renderPartsWith look' ps := by
  induction ps with
  | nil => rfl
  | cons p ps ih =>
      have hfirst : p.renderWith look = p.renderWith look' := by
        cases p with
        | text t => rfl
        | path path => rw [Part.renderWith, Part.renderWith, h path List.mem_cons_self]
      rw [renderPartsWith, renderPartsWith, hfirst,
        ih fun path hpath => h path (List.mem_cons_of_mem _ hpath)]

/-- Null is nothing to be displayed. -/
theorem look_of_resolve_null {data : Data} {path : List Text}
    (h : data.root.resolve data.pool path = .ok .null) : data.look path = .ok none := by
  rw [Data.look, h]
  rfl

/-- A value that is found is displayed. -/
theorem look_of_resolve {data : Data} {path : List Text} {v : Value}
    (h : data.root.resolve data.pool path = .ok v) (hv : v ≠ .null) :
    data.look path = .ok (some (v.display data.pool)) := by
  rw [Data.look, h]
  cases v with
  | null => exact absurd rfl hv
  | _ => rfl

theorem look_of_root_eq_null {data : Data} (h : data.root = .null) (path : List Text) :
    data.look path = .ok none := by
  rw [Data.look, h, Value.resolve_null]
  rfl

/-- There is nothing to find in an empty mapping. -/
theorem look_empty {path : List Text} (hpath : path ≠ []) :
    (Data.ofTree (.mapping [])).look path = .ok none := by
  obtain ⟨part, rest, rfl⟩ := List.exists_cons_of_ne_nil hpath
  simp [Data.look, Data.ofTree, Value.resolve, Value.step, Pool.reveal, Entries.find?, Except.map]

/-- Data that are null count as empty. -/
theorem apply_of_root_eq_null {data : Data} (c : Compiled) (h : data.root = .null) :
    c.apply data = renderParts (.ofTree (.mapping [])) c.parts := by
  rw [Compiled.apply, h]

/-- Data that are there are looked at, whatever the paths are. -/
theorem apply_of_root_ne_null {data : Data} (c : Compiled) (h : data.root ≠ .null) :
    c.apply data = renderPartsWith data.look c.parts := by
  unfold Compiled.apply
  split
  · rename_i hroot
    exact absurd hroot h
  · exact renderParts_eq_renderPartsWith data c.parts

/-- A compiled template is a function of what it finds at the end of its paths, also where
there are no data. -/
theorem apply_eq_renderWith {c : Compiled} (hpaths : ∀ path, .path path ∈ c.parts → path ≠ [])
    (data : Data) : c.apply data = renderPartsWith data.look c.parts := by
  by_cases hroot : data.root = .null
  · rw [apply_of_root_eq_null c hroot, renderParts_eq_renderPartsWith]
    refine renderPartsWith_congr fun path hpath => ?_
    rw [look_of_root_eq_null hroot, look_empty (hpaths path hpath)]
  · exact apply_of_root_ne_null c hroot

/-! ## Lookups of a compiled program -/

/-- The path of a part, if it is a lookup. -/
def Part.path? : Part → Option (List Text)
  | .text _ => none
  | .path parts => some parts

/-- The paths of the lookups of a compiled template, in order and with repetitions. -/
def Compiled.lookups (c : Compiled) : List (List Text) := c.parts.filterMap Part.path?

/-- The same paths, written with dots. -/
def Compiled.dotted (c : Compiled) : List Text := c.lookups.map (join ['.'])

/-- The paths that a template looks up are those of its parts. -/
theorem Compiled.mem_lookups {c : Compiled} {path : List Text} :
    path ∈ c.lookups ↔ .path path ∈ c.parts := by
  rw [lookups, List.mem_filterMap]
  constructor
  · rintro ⟨p, hp, hpath⟩
    cases p with
    | text t => cases hpath
    | path parts => exact Option.some.inj hpath ▸ hp
  · exact fun h => ⟨_, h, rfl⟩

/-- The lookups of a compiled program are its expressions, which are dotted paths, cut at
the dots. -/
theorem lookups_of_compile {p : Program} {identifier : Text} {c : Compiled}
    (h : compile p identifier = .ok c) :
    c.lookups = p.lookups.map (split '.') ∧ ∀ path ∈ p.lookups, isPath path = true := by
  obtain ⟨parts, hparts, rfl⟩ := map_eq_ok_iff.1 h
  obtain ⟨segments⟩ := p
  unfold Compiled.lookups Program.lookups
  dsimp only at hparts ⊢
  clear h
  induction segments generalizing parts with
  | nil =>
      obtain rfl := Except.ok.inj hparts
      exact ⟨rfl, by simp⟩
  | cons s ss ih =>
      rw [compileSegments] at hparts
      obtain ⟨part, hpart, hparts⟩ := bind_eq_ok_iff.1 hparts
      obtain ⟨rest, hrest, hparts⟩ := bind_eq_ok_iff.1 hparts
      obtain rfl := Except.ok.inj hparts
      obtain ⟨hlookups, hpaths⟩ := ih rest hrest
      cases s with
      | text t =>
          obtain rfl := Except.ok.inj hpart
          exact ⟨hlookups, hpaths⟩
      | lookup expression =>
          rw [compileSegment] at hpart
          split at hpart
          · rename_i hpath
            obtain rfl := Except.ok.inj hpart
            refine ⟨?_, List.forall_mem_cons.2 ⟨hpath, hpaths⟩⟩
            exact congrArg (split '.' expression :: ·) hlookups
          · cases hpart

/-- They are written like the expressions of its program. -/
theorem dotted_of_compile {p : Program} {identifier : Text} {c : Compiled}
    (h : compile p identifier = .ok c) : c.dotted = p.lookups := by
  rw [Compiled.dotted, (lookups_of_compile h).1, List.map_map]
  exact (List.map_congr_left fun path _ => join_split '.' path).trans (List.map_id _)

end Template
end Stencil
