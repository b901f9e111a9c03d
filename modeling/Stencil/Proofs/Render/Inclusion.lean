import Mathlib.Data.ENat.Lattice
import Mathlib.Order.CompletePartialOrder
import Stencil.Proofs.Render.Plain
import Stencil.Proofs.Template.Stages

/-!
# Inclusion of components

A text includes the components that it marks and those that their files include.  The
height of a text says how deep inclusion goes, and is infinite where a component comes
back inside itself.  What a text stands for in the end is its full expansion.

Main results:

- Definition `height`, with Theorem `height_eq`: no component is height zero; otherwise
  the height is one more than the largest height among the files of the components.
- Theorem `height_eq_top`: a text that includes a file inside itself has infinite height.
- Relation `Expands`, with Theorem `Expands.unique`: the full expansion of a template.
- Theorem `exists_expand_iff`: when plain expansion to a depth has a result.
- Theorem `expands_of_expand`: that result is the full expansion.
-/

namespace Stencil
namespace Render

open Stencil.Render.Action Outcome Template

variable {c : Config} {tree : File.Tree} {text : Text}

/-! ## What a text includes -/

/-- A component of a text, or a component of the file of another component. -/
inductive Includes (c : Config) (tree : File.Tree) : Text → Text → Prop where
  | here {text name : Text} (hname : name ∈ components c.delimiters text) :
      Includes c tree text name
  | inside {text name inner below : Text} (hname : name ∈ components c.delimiters text)
      (hread : readTree tree (c.componentPath name) = .ok inner)
      (hbelow : Includes c tree inner below) : Includes c tree text below

theorem not_includes_of_components_eq_nil (h : components c.delimiters text = []) (name : Text) :
    ¬ Includes c tree text name := by
  intro hincludes
  cases hincludes with
  | here hname => simp [h] at hname
  | inside hname => simp [h] at hname

/-- Whether the file of a component exists and holds a text. -/
def Readable (c : Config) (tree : File.Tree) (name : Text) : Prop :=
  ∃ inner, readTree tree (c.componentPath name) = .ok inner

/-- The file of a component holds a text with a property. -/
theorem exists_readTree_iff {name : Text} {p : Text → Prop} :
    (∃ inner, readTree tree (c.componentPath name) = .ok inner ∧ p inner) ↔
      Readable c tree name ∧
        ∀ inner, readTree tree (c.componentPath name) = .ok inner → p inner := by
  constructor
  · rintro ⟨inner, hread, hp⟩
    refine ⟨⟨inner, hread⟩, fun inner' hread' => ?_⟩
    rw [hread] at hread'
    exact Except.ok.inj hread' ▸ hp
  · rintro ⟨⟨inner, hread⟩, hp⟩
    exact ⟨inner, hread, hp inner hread⟩

/-- All components that a text includes are there exactly when those that it marks are,
and all that their files include. -/
theorem forall_includes_iff {p : Text → Prop} :
    (∀ name, Includes c tree text name → p name) ↔
      ∀ name ∈ components c.delimiters text, p name ∧
        ∀ inner, readTree tree (c.componentPath name) = .ok inner →
          ∀ below, Includes c tree inner below → p below := by
  constructor
  · intro h name hname
    exact ⟨h name (.here hname), fun inner hread below hbelow =>
      h below (.inside hname hread hbelow)⟩
  · intro h name hincludes
    cases hincludes with
    | here hname => exact (h name hname).1
    | inside hname hread hbelow => exact (h _ hname).2 _ hread name hbelow

/-! ## Height -/

/-- A way down through components: each one is marked in the file of the one before. -/
inductive Descent (c : Config) (tree : File.Tree) : Text → List Text → Prop where
  | nil (text : Text) : Descent c tree text []
  | last {text name : Text} (hname : name ∈ components c.delimiters text) :
      Descent c tree text [name]
  | cons {text name inner : Text} {names : List Text}
      (hname : name ∈ components c.delimiters text)
      (hread : readTree tree (c.componentPath name) = .ok inner)
      (hbelow : Descent c tree inner names) : Descent c tree text (name :: names)

/-- How deep components go in a text: the length of the longest way down. -/
noncomputable def height (c : Config) (tree : File.Tree) (text : Text) : ℕ∞ :=
  ⨆ (names) (_ : Descent c tree text names), (names.length : ℕ∞)

/-- The height of the file of a component; a file that cannot be read has height zero. -/
noncomputable def fileHeight (c : Config) (tree : File.Tree) (name : Text) : ℕ∞ :=
  match readTree tree (c.componentPath name) with
  | .ok inner => height c tree inner
  | .error _ => 0

theorem height_le_iff {n : ℕ∞} :
    height c tree text ≤ n ↔ ∀ names, Descent c tree text names → (names.length : ℕ∞) ≤ n :=
  iSup₂_le_iff

theorem length_le_height {names : List Text} (h : Descent c tree text names) :
    (names.length : ℕ∞) ≤ height c tree text :=
  height_le_iff.1 le_rfl names h

/-- One step down costs one. -/
theorem one_add_fileHeight_le (tree : File.Tree) {name : Text}
    (hname : name ∈ components c.delimiters text) :
    1 + fileHeight c tree name ≤ height c tree text := by
  unfold fileHeight
  cases hread : readTree tree (c.componentPath name) with
  | error f =>
      have hlast : Descent c tree text [name] := .last hname
      simpa using length_le_height hlast
  | ok inner =>
      unfold height
      rw [ENat.add_biSup' ⟨[], .nil inner⟩]
      refine iSup₂_le fun names hnames => ?_
      have := length_le_height (.cons hname hread hnames)
      rw [List.length_cons, Nat.cast_add, Nat.cast_one, add_comm] at this
      exact this

theorem height_eq_zero (h : components c.delimiters text = []) : height c tree text = 0 := by
  refine le_antisymm (height_le_iff.2 fun names hnames => ?_) (zero_le)
  cases hnames with
  | nil => exact le_rfl
  | last hname => simp [h] at hname
  | cons hname => simp [h] at hname

/-- The height of a text without components is zero; otherwise it is one more than the
largest height among the files of its components. -/
theorem height_eq (c : Config) (tree : File.Tree) (text : Text) :
    height c tree text =
      if components c.delimiters text = [] then 0
      else 1 + ⨆ name ∈ components c.delimiters text, fileHeight c tree name := by
  split
  · rename_i h
    exact height_eq_zero h
  · rename_i h
    refine le_antisymm (height_le_iff.2 fun names hnames => ?_) ?_
    · cases hnames with
      | nil => exact zero_le
      | last hname => simp
      | cons hname hread hbelow =>
          rename_i name inner names
          have hfile : (names.length : ℕ∞) ≤ fileHeight c tree name := by
            unfold fileHeight
            rw [hread]
            exact length_le_height hbelow
          rw [List.length_cons, Nat.cast_add, Nat.cast_one, add_comm]
          exact add_le_add_right (hfile.trans (le_iSup₂_of_le name hname le_rfl)) 1
    · obtain ⟨name, hname⟩ := List.exists_mem_of_ne_nil _ h
      rw [ENat.add_biSup' ⟨name, hname⟩]
      exact iSup₂_le fun name hname => one_add_fileHeight_le tree hname

theorem height_le_zero_iff : height c tree text ≤ 0 ↔ components c.delimiters text = [] := by
  rw [height_eq]
  split <;> simp_all

theorem height_le_succ_iff {n : Nat} :
    height c tree text ≤ (n + 1 : Nat) ↔
      ∀ name ∈ components c.delimiters text, ∀ inner,
        readTree tree (c.componentPath name) = .ok inner → height c tree inner ≤ n := by
  rw [height_eq]
  split
  · rename_i hnone
    simp [hnone]
  · rw [Nat.cast_add, Nat.cast_one, add_comm (n : ℕ∞),
      ENat.add_le_add_iff_left ENat.one_ne_top, iSup₂_le_iff]
    refine forall₂_congr fun name hname => ?_
    unfold fileHeight
    cases hread : readTree tree (c.componentPath name) <;> simp

/-- What is included lies lower. -/
theorem one_add_height_le {name inner : Text} (h : Includes c tree text name)
    (hread : readTree tree (c.componentPath name) = .ok inner) :
    1 + height c tree inner ≤ height c tree text := by
  induction h with
  | here hname =>
      have hstep := one_add_fileHeight_le tree hname
      unfold fileHeight at hstep
      rwa [hread] at hstep
  | inside hname hmiddle _ ih =>
      have hstep := one_add_fileHeight_le tree hname
      unfold fileHeight at hstep
      rw [hmiddle] at hstep
      exact (ih hread).trans (le_add_self.trans hstep)

/-- A file that includes itself has infinite height, and so has a text that includes it. -/
theorem height_eq_top {name inner : Text} (h : Includes c tree text name)
    (hread : readTree tree (c.componentPath name) = .ok inner)
    (hself : Includes c tree inner name) : height c tree text = ⊤ := by
  have hinner : height c tree inner = ⊤ := by
    by_contra hfinite
    have hzero : 1 + height c tree inner ≤ 0 + height c tree inner := by
      rw [zero_add]
      exact one_add_height_le hself hread
    exact absurd ((ENat.add_le_add_iff_right hfinite).1 hzero) (by simp)
  have hle := one_add_height_le h hread
  rwa [hinner, add_top, top_le_iff] at hle

/-! ## Full expansion -/

/-- The full expansion of a list of tokens: every component marker stands for the full
expansion of its file, and everything else for itself. -/
inductive Expands (c : Config) (tree : File.Tree) : List Token → Text → Prop where
  | nil : Expands c tree [] []
  | component {name raw inner out rest : Text} {tokens : List Token}
      (hread : readTree tree (c.componentPath name) = .ok inner)
      (hinner : Expands c tree (scan c.delimiters inner) out)
      (hrest : Expands c tree tokens rest) :
      Expands c tree (.component name raw :: tokens) (out ++ rest)
  | other {token : Token} {rest : Text} {tokens : List Token}
      (htoken : token.isComponent = false) (hrest : Expands c tree tokens rest) :
      Expands c tree (token :: tokens) (token.source ++ rest)

/-- There is only one full expansion. -/
theorem Expands.unique {tokens : List Token} {out other : Text} (h : Expands c tree tokens out)
    (h' : Expands c tree tokens other) : out = other := by
  induction h generalizing other with
  | nil =>
      cases h'
      rfl
  | component hread _ _ ihInner ihRest =>
      cases h' with
      | component hread' hinner' hrest' =>
          rw [hread] at hread'
          obtain rfl := Except.ok.inj hread'
          rw [ihInner hinner', ihRest hrest']
      | other htoken => cases htoken
  | other htoken _ ih =>
      cases h' with
      | component => cases htoken
      | other _ hrest' => rw [ih hrest']

/-- Tokens in a row are expanded one list after the other. -/
theorem Expands.append {xs ys : List Token} {x y : Text} (hx : Expands c tree xs x)
    (hy : Expands c tree ys y) : Expands c tree (xs ++ ys) (x ++ y) := by
  induction hx with
  | nil => exact hy
  | component hread hinner _ _ ih =>
      rw [List.cons_append, List.append_assoc]
      exact .component hread hinner ih
  | other htoken _ ih =>
      rw [List.cons_append, List.append_assoc]
      exact .other htoken ih

/-! ## Plain expansion to a depth -/

namespace Plain

variable {expand : Text → Except Failure Text} {tokens : List Token}

/-- Tokens have an expansion when all their components have one. -/
theorem exists_expandTokens_iff :
    (∃ out, expandTokens expand tokens = .ok out) ↔
      ∀ name ∈ componentNames tokens, ∃ out, expand name = .ok out := by
  induction tokens with
  | nil => simp [expandTokens]
  | cons token tokens ih =>
      have hcons : (∃ out, expandTokens expand (token :: tokens) = .ok out) ↔
          (∃ text, expandToken expand token = .ok text) ∧
            ∃ out, expandTokens expand tokens = .ok out := by
        simp only [expandTokens, bind_eq_ok_iff, pure_eq_ok_iff]
        constructor
        · rintro ⟨_, text, hfirst, out, hrest, -⟩
          exact ⟨⟨text, hfirst⟩, out, hrest⟩
        · rintro ⟨⟨text, hfirst⟩, out, hrest⟩
          exact ⟨_, text, hfirst, out, hrest, rfl⟩
      rw [hcons, ih]
      cases token <;> simp [expandToken]

/-- Expansion to a depth is full expansion where it has a result. -/
theorem expands_of_expandTokens {out : Text} (h : expandTokens expand tokens = .ok out)
    (hexpand : ∀ name out, expand name = .ok out →
      ∃ inner, readTree tree (c.componentPath name) = .ok inner ∧
        Expands c tree (scan c.delimiters inner) out) : Expands c tree tokens out := by
  induction tokens generalizing out with
  | nil =>
      obtain rfl := Except.ok.inj h
      exact .nil
  | cons token tokens ih =>
      rw [expandTokens] at h
      obtain ⟨text, htext, h⟩ := bind_eq_ok_iff.1 h
      obtain ⟨rest, hrest, h⟩ := bind_eq_ok_iff.1 h
      obtain rfl := Except.ok.inj h
      cases token with
      | component name raw =>
          obtain ⟨inner, hread, hinner⟩ := hexpand name text htext
          exact .component hread hinner (ih hrest)
      | literal t =>
          obtain rfl := Except.ok.inj htext
          exact .other rfl (ih hrest)
      | placeholder expression raw =>
          obtain rfl := Except.ok.inj htext
          exact .other rfl (ih hrest)

/-- A component has an expansion when its file can be read and has one. -/
theorem expandComponent_eq_ok_iff {inside : Text → Text → Except Failure Text}
    {identifier name out : Text} :
    expandComponent c tree (some inside) identifier name = .ok out ↔
      ∃ inner, readTree tree (c.componentPath name) = .ok inner ∧
        inside (c.componentPath name).text inner = .ok out := by
  unfold expandComponent
  dsimp only
  rw [bind_eq_ok_iff]
  constructor
  · rintro ⟨found, -, h⟩
    cases found with
    | true => exact bind_eq_ok_iff.1 h
    | false => cases h
  · rintro ⟨inner, hread, h⟩
    exact ⟨true, isFile_of_readTree hread, bind_eq_ok_iff.2 ⟨inner, hread, h⟩⟩

/-- Expansion to a depth has a result when all that is included can be read and goes no
deeper. -/
theorem exists_expand_iff {n : Nat} {identifier text : Text} :
    (∃ out, Plain.expand c tree n identifier text = .ok out) ↔
      (∀ name, Includes c tree text name → Readable c tree name) ∧ height c tree text ≤ n := by
  induction n generalizing identifier text with
  | zero =>
      rw [Plain.expand, exists_expandTokens_iff, Nat.cast_zero, height_le_zero_iff,
        forall_includes_iff, ← components]
      constructor
      · intro h
        have hnone : components c.delimiters text = [] := by
          refine List.eq_nil_iff_forall_not_mem.2 fun name hname => ?_
          obtain ⟨out, hout⟩ := h name hname
          cases hout
        simp [hnone]
      · rintro ⟨-, hnone⟩
        simp [hnone]
  | succ n ih =>
      have hcomponent : ∀ name,
          (∃ out, expandComponent c tree (some (Plain.expand c tree n)) identifier name = .ok out) ↔
            Readable c tree name ∧ ∀ inner, readTree tree (c.componentPath name) = .ok inner →
              (∀ below, Includes c tree inner below → Readable c tree below) ∧
                height c tree inner ≤ n := by
        intro name
        rw [← exists_readTree_iff]
        simp only [expandComponent_eq_ok_iff]
        constructor
        · rintro ⟨out, inner, hread, hout⟩
          exact ⟨inner, hread, ih.1 ⟨out, hout⟩⟩
        · rintro ⟨inner, hread, hbelow⟩
          obtain ⟨out, hout⟩ := ih.2 hbelow
          exact ⟨out, inner, hread, hout⟩
      rw [Plain.expand, exists_expandTokens_iff, height_le_succ_iff, forall_includes_iff,
        ← components]
      simp only [hcomponent]
      constructor
      · intro h
        refine ⟨fun name hname => ⟨(h name hname).1, fun inner hread => ?_⟩,
          fun name hname inner hread => ?_⟩
        · exact ((h name hname).2 inner hread).1
        · exact ((h name hname).2 inner hread).2
      · rintro ⟨hreadable, hheight⟩ name hname
        refine ⟨(hreadable name hname).1, fun inner hread => ⟨?_, hheight name hname inner hread⟩⟩
        exact (hreadable name hname).2 inner hread

/-- The result of expansion to a depth is the full expansion. -/
theorem expands_of_expand {n : Nat} {identifier text out : Text}
    (h : Plain.expand c tree n identifier text = .ok out) :
    Expands c tree (scan c.delimiters text) out := by
  induction n generalizing identifier text out with
  | zero =>
      refine expands_of_expandTokens h fun name out hout => ?_
      cases hout
  | succ n ih =>
      refine expands_of_expandTokens h fun name out hout => ?_
      obtain ⟨inner, hread, hout⟩ := expandComponent_eq_ok_iff.1 hout
      exact ⟨inner, hread, ih hout⟩

end Plain
end Render
end Stencil
