import Stencil.Proofs.Yaml.Nodes
import Stencil.Yaml.Document

/-!
# Building the data of a document

Building the data of a document raises an exception only at a node whose text has no value of its
type.  In a document without tags such a node is a plain scalar, and its exception is one of those
that plain scalars raise.

Main results:

- Definition `Unbuildable`: the nodes without a value.
- Theorem `Makes.bind`: a step of building raises exceptions at such nodes only.
- Definition `Unvalued`, with Theorem `confined_readText`: why reading a document raises an
  exception.
-/

namespace Stencil
namespace Yaml

variable {document : Text} {g g' g'' : Graph} {number : Nat} {e : Raised}

/-! ## Graphs with merged mappings -/

/-- Two contents are the same text, or both sequences, or both mappings. -/
def Content.Like : Content → Content → Prop
  | .scalar t, .scalar t' => t = t'
  | .sequence _, .sequence _ => True
  | .mapping _, .mapping _ => True
  | _, _ => False

/-- A content is like itself. -/
theorem Content.Like.refl (content : Content) : content.Like content := by
  cases content <;> simp [Like]

/-- Likeness of contents carries over. -/
theorem Content.Like.trans {a b c : Content} (h : a.Like b) (h' : b.Like c) : a.Like c := by
  cases a <;> cases b <;> cases c <;> simp_all [Like]

namespace Graph

/-- A graph comes from another one by merging mappings: texts stay, and so do the types but for that
of the key that stands for its mapping, which becomes a text. -/
def Merged (g g' : Graph) : Prop :=
  ∀ number, (g.node number).content.Like (g'.node number).content ∧
    ((g'.node number).kind = (g.node number).kind ∨
      (g.node number).kind = .standIn ∧ (g'.node number).kind = .text)

/-- A node is a mapping. -/
def IsMapping (g : Graph) (number : Nat) : Prop :=
  ∃ entries, (g.node number).content = .mapping entries

/-- A graph without changes is merged. -/
theorem Merged.refl (g : Graph) : g.Merged g := fun _ => ⟨.refl _, .inl rfl⟩

/-- Merging goes on from what was merged. -/
theorem Merged.trans (h : g.Merged g') (h' : g'.Merged g'') : g.Merged g'' := by
  intro number
  obtain ⟨hcontent, hkind⟩ := h number
  obtain ⟨hcontent', hkind'⟩ := h' number
  refine ⟨hcontent.trans hcontent', ?_⟩
  rcases hkind with hkind | ⟨hstand, htext⟩
  · rw [hkind] at hkind'
    exact hkind'
  · rcases hkind' with hkind' | ⟨hstand', -⟩
    · exact .inr ⟨hstand, hkind'.trans htext⟩
    · cases htext.symm.trans hstand'

/-- Texts and mappings were the same before. -/
theorem Merged.content_eq (h : g.Merged g') {t : Text}
    (ht : (g'.node number).content = .scalar t) : (g.node number).content = .scalar t := by
  have hlike := (h number).1
  rw [ht] at hlike
  cases hcontent : (g.node number).content with
  | scalar u =>
      rw [hcontent] at hlike
      rw [show u = t from hlike]
  | sequence items =>
      rw [hcontent] at hlike
      exact hlike.elim
  | mapping entries =>
      rw [hcontent] at hlike
      exact hlike.elim

/-- Merging makes no mapping and unmakes none. -/
theorem Merged.isMapping_iff (h : g.Merged g') : g'.IsMapping number ↔ g.IsMapping number := by
  have hlike := (h number).1
  unfold IsMapping
  cases hcontent : (g.node number).content <;> cases hcontent' : (g'.node number).content <;>
    simp_all [Content.Like]

/-- The entries of a mapping may be replaced. -/
theorem merged_fill {entries : List (Nat × Nat)} (h : g.IsMapping number) :
    g.Merged (g.fill number (.mapping entries)) := by
  intro other
  rw [node_fill]
  split
  · rename_i heq
    obtain ⟨before, hbefore⟩ := h
    rw [heq.1, hbefore]
    exact ⟨trivial, .inl rfl⟩
  · exact ⟨.refl _, .inl rfl⟩

/-- Retyping changes the kind of one node only. -/
theorem node_retype (g : Graph) (number : Nat) (kind : Kind) (other : Nat) :
    (g.retype number kind).node other =
      if other = number ∧ number < g.size then { g.node number with kind := kind }
      else g.node other :=
  node_setIfInBounds _ _ _ _

/-- A stand-in for the usual value may become a text. -/
theorem merged_retype (h : (g.node number).kind = .standIn) :
    g.Merged (g.retype number .text) := by
  intro other
  rw [node_retype]
  split
  · rename_i heq
    rw [heq.1]
    exact ⟨.refl _, .inr ⟨h, rfl⟩⟩
  · exact ⟨.refl _, .inl rfl⟩

end Graph

/-! ## Nodes without a value -/

/-- The nodes of a graph without a value, each with the exception that it raises. -/
inductive Unbuildable (g : Graph) : Raised → Prop where
  /-- A text has no value of its type; a mapping may take its text from another node. -/
  | scalar {number source : Nat} {t : Text} {e : Raised}
      (hsource : (g.node source).content = .scalar t) (h : source = number ∨ g.IsMapping number)
      (hread : readScalar (g.node number).kind t = .error (.raised e)) : Unbuildable g e
  /-- A mapping stands for a date. -/
  | date {number : Nat} (hmapping : g.IsMapping number)
      (hkind : (g.node number).kind = .timestamp) :
      Unbuildable g ⟨"TypeError", "expected string or bytes-like object, got 'list'"⟩
  /-- A mapping that is to be a scalar stands for itself. -/
  | endless {number : Nat} (hmapping : g.IsMapping number)
      (hkind : emptyCollection? (g.node number).kind = none) :
      Unbuildable g ⟨"RecursionError", "maximum recursion depth exceeded"⟩

/-- When nodes have the types that they show, only plain scalars are without a value. -/
theorem Unbuildable.exists_plain (h : Unbuildable g e) (hg : ∀ number, (g.node number).IsNatural) :
    ∃ number t, g.node number = ⟨plainKind t, .scalar t⟩ ∧ Valueless t e := by
  have hmapping : ∀ {number : Nat}, g.IsMapping number → (g.node number).kind = .mapping := by
    rintro number ⟨entries, hentries⟩
    have hnatural := hg number
    rw [Node.IsNatural, hentries] at hnatural
    exact hnatural
  cases h with
  | @scalar number source t _ hsource hplace hread =>
      rcases hplace with rfl | hplace
      · have hnatural := hg source
        rw [Node.IsNatural, hsource] at hnatural
        rcases hnatural with htext | ⟨hplain, hend⟩
        · rw [htext] at hread
          cases hread
        · rw [hplain] at hread
          refine ⟨source, t, ?_, (readScalar_plainKind_eq_error_iff hend).1 hread⟩
          rw [← hplain, ← hsource]
      · rw [hmapping hplace] at hread
        cases hread
  | date h hkind => cases (hmapping h).symm.trans hkind
  | endless h hkind =>
      rw [hmapping h] at hkind
      cases hkind

/-! ## Steps of building -/

/-- A step of building merges mappings at most, raises exceptions at nodes without a value only, and
has a result that satisfies a condition. -/
def Makes {α : Type} (g : Graph) (m : Build α) (result : α → Prop) : Prop :=
  ∀ b : Builder, g.Merged b.nodes →
    Confined (Unbuildable g) (fun r => g.Merged r.2.nodes ∧ result r.1) (m.run b)

section Steps

variable {α β : Type} {m : Build α} {f : α → Build β} {result : α → Prop} {result' : β → Prop}

/-- A step of building, and then another one that knows what the first one gave. -/
theorem Makes.bind (hm : Makes g m result) (hf : ∀ a, result a → Makes g (f a) result') :
    Makes g (m >>= f) result' := by
  intro b hb
  exact (hm b hb).bind fun ⟨a, after⟩ ⟨hafter, ha⟩ => hf a ha after hafter

theorem makes_pure {a : α} (ha : result a) : Makes g (pure a) result := fun _ hb => ⟨hb, ha⟩

theorem makes_fail : Makes g (Build.fail : Build α) result := fun _ _ => trivial

/-- The graph that is found is the one at the start, merged. -/
theorem makes_get : Makes g (get : Build Builder) fun b => g.Merged b.nodes :=
  fun _ hb => ⟨hb, hb⟩

theorem makes_set {b : Builder} (hb : g.Merged b.nodes) :
    Makes g (set b : Build PUnit) fun _ => True :=
  fun _ _ => ⟨hb, trivial⟩

/-- What is built besides the nodes does not matter. -/
theorem makes_modify {change : Builder → Builder} (h : ∀ b, (change b).nodes = b.nodes) :
    Makes g (modify change : Build PUnit) fun _ => True :=
  fun b hb => ⟨(h b).symm ▸ hb, trivial⟩

/-- The graph may be merged further. -/
theorem makes_modifyNodes {change : Graph → Graph} (h : ∀ g', g.Merged g' → g'.Merged (change g')) :
    Makes g (Build.modifyNodes change) fun _ => True :=
  fun b hb => ⟨hb.trans (h b.nodes hb), trivial⟩

/-- Only a mapping has the content of a mapping. -/
theorem makes_node (number : Nat) :
    Makes g (Build.node number) fun node => ∀ entries, node.content = .mapping entries →
      g.IsMapping number :=
  makes_get.bind fun _ hb => makes_pure fun entries h => hb.isMapping_iff.1 ⟨entries, h⟩

/-- Building goes through a list. -/
theorem makes_mapM {xs : List α} (h : ∀ x ∈ xs, Makes g (f x) fun _ => True) :
    Makes g (xs.mapM f) fun _ => True := by
  induction xs with
  | nil => exact makes_pure trivial
  | cons x xs ih =>
      obtain ⟨hx, hxs⟩ := List.forall_mem_cons.1 h
      rw [List.mapM_cons]
      exact hx.bind fun _ _ => (ih hxs).bind fun _ _ => makes_pure trivial

/-- Building goes through a list and keeps something in the meantime. -/
theorem makes_foldlM {step : β → α → Build β} {xs : List α} {start : β}
    (h : ∀ made x, Makes g (step made x) fun _ => True) :
    Makes g (xs.foldlM step start) fun _ => True := by
  induction xs generalizing start with
  | nil => exact makes_pure trivial
  | cons x xs ih =>
      rw [List.foldlM_cons]
      exact (h start x).bind fun made _ => ih

end Steps

/-! ## Merging mappings -/

/-- All steps of merging merge mappings only, with the given fuel. -/
structure Merges (g : Graph) (fuel : Nat) : Prop where
  flatten : ∀ number, g.IsMapping number → Makes g (flatten fuel number) fun _ => True
  takeMerged : ∀ number, g.IsMapping number → Makes g (takeMerged fuel number) fun _ => True
  mergedEntries : ∀ number, Makes g (mergedEntries fuel number) fun _ => True
  flatEntries : ∀ number, g.IsMapping number → Makes g (flatEntries fuel number) fun _ => True

/-- The keys that stand for their mapping become texts. -/
theorem merged_foldl_retype (entries : List (Nat × Nat)) (g : Graph) :
    g.Merged (entries.foldl (fun g (key, _) =>
      if (g.node key).kind = .standIn then g.retype key .text else g) g) := by
  induction entries generalizing g with
  | nil => exact .refl _
  | cons entry entries ih =>
      obtain ⟨key, value⟩ := entry
      rw [List.foldl_cons]
      refine Graph.Merged.trans ?_ (ih _)
      dsimp only
      split
      · rename_i hkind
        exact Graph.merged_retype hkind
      · exact .refl _

section Merging

variable {fuel : Nat} (ih : Merges g fuel)

include ih

/-- A mapping that is flattened has the merged entries before its own.  Here and below, flattening
goes deeper with less fuel. -/
theorem makes_flatten (h : g.IsMapping number) :
    Makes g (flatten (fuel + 1) number) fun _ => True := by
  unfold flatten
  refine (ih.takeMerged number h).bind fun merged _ => makes_modifyNodes fun g' hg' => ?_
  have hretype := merged_foldl_retype (g'.entries number) g'
  exact hretype.trans (Graph.merged_fill ((hg'.trans hretype).isMapping_iff.2 h))

theorem makes_takeMerged (h : g.IsMapping number) :
    Makes g (takeMerged (fuel + 1) number) fun _ => True := by
  unfold takeMerged
  refine makes_get.bind fun b _ => ?_
  dsimp only
  split
  · exact makes_pure trivial
  · refine (makes_modifyNodes fun g' hg' => ?_).bind fun _ _ => ?_
    · exact Graph.merged_fill (hg'.isMapping_iff.2 h)
    · refine (ih.mergedEntries _).bind fun _ _ => ?_
      exact (ih.takeMerged number h).bind fun _ _ => makes_pure trivial

theorem makes_mergedEntries : Makes g (mergedEntries (fuel + 1) number) fun _ => True := by
  unfold mergedEntries
  refine (makes_node number).bind fun node hnode => ?_
  split
  · exact makes_fail
  · rename_i entries hcontent
    exact ih.flatEntries number (hnode entries hcontent)
  · rename_i items hcontent
    refine (makes_mapM fun item _ => ?_).bind fun _ _ => makes_pure trivial
    refine (makes_node item).bind fun node hnode => ?_
    split
    · rename_i entries hcontent
      exact ih.flatEntries item (hnode entries hcontent)
    · exact makes_fail

theorem makes_flatEntries (h : g.IsMapping number) :
    Makes g (flatEntries (fuel + 1) number) fun _ => True := by
  unfold flatEntries
  exact (ih.flatten number h).bind fun _ _ => makes_get.bind fun _ _ => makes_pure trivial

end Merging

/-- Flattening and merging keep to the mappings that there are, however deep they go. -/
theorem merges (g : Graph) (fuel : Nat) : Merges g fuel := by
  induction fuel with
  | zero =>
      refine ⟨fun _ _ => ?_, fun _ _ => ?_, fun _ => ?_, fun _ _ => ?_⟩
      · unfold flatten
        exact makes_fail
      · unfold takeMerged
        exact makes_fail
      · unfold mergedEntries
        exact makes_fail
      · unfold flatEntries
        exact makes_fail
  | succ fuel ih =>
      exact {
        flatten := fun _ => makes_flatten ih
        takeMerged := fun _ => makes_takeMerged ih
        mergedEntries := fun _ => makes_mergedEntries ih
        flatEntries := fun _ => makes_flatEntries ih }

/-- Merging begins with fuel for all the entries of the graph. -/
theorem makes_mergeEntries (h : g.IsMapping number) :
    Makes g (mergeEntries number) fun _ => True :=
  makes_get.bind fun b _ => (merges g (4 * b.nodes.entryCount + 8)).flatEntries number h

/-! ## Scalars -/

/-- The text of a node is that of a scalar: its own, or that of another one for a mapping. -/
theorem confined_scalarText (g : Graph) (fuel number : Nat) :
    Confined
      (fun e => Fault.raised e = endless ∧ (0 < fuel → g.IsMapping number))
      (fun t => ∃ source, (g.node source).content = .scalar t ∧
        (source = number ∨ g.IsMapping number))
      (scalarText g fuel number) := by
  induction fuel generalizing number with
  | zero => exact ⟨rfl, fun h => absurd h (Nat.lt_irrefl 0)⟩
  | succ fuel ih =>
      unfold scalarText
      split
      · rename_i t hcontent
        exact ⟨number, hcontent, .inl rfl⟩
      · exact confined_malformed
      · rename_i entries hcontent
        have hmapping : g.IsMapping number := ⟨entries, hcontent⟩
        split
        · rename_i key value hfind
          refine (ih value).mono (fun e h => ⟨h.1, fun _ => hmapping⟩) fun t h => ?_
          obtain ⟨source, hsource, -⟩ := h
          exact ⟨source, hsource, .inr hmapping⟩
        · exact confined_malformed

/-- A scalar raises an exception only for its kind and its text. -/
theorem confined_makeScalar (hg : g.Merged g')
    (hkind : emptyCollection? (g'.node number).kind = none) :
    Confined (Unbuildable g) (fun _ => True) (makeScalar g' number) := by
  obtain ⟨-, hkinds⟩ := hg number
  have hnone : emptyCollection? (g.node number).kind = none := by
    rcases hkinds with heq | ⟨hstand, -⟩
    · rw [← heq]
      exact hkind
    · rw [hstand]
      rfl
  have htext : Confined (Unbuildable g) (fun t => ∃ source,
      (g.node source).content = .scalar t ∧ (source = number ∨ g.IsMapping number))
      (scalarText g' (g'.size + 1) number) := by
    refine (confined_scalarText g' (g'.size + 1) number).mono ?_ ?_
    · rintro e ⟨he, hmapping⟩
      cases he
      exact .endless (hg.isMapping_iff.1 (hmapping (Nat.succ_pos _))) hnone
    · rintro t ⟨source, hsource, hplace⟩
      exact ⟨source, hg.content_eq hsource, hplace.imp_right hg.isMapping_iff.1⟩
  refine htext.bind fun t ⟨source, hsource, hplace⟩ => ?_
  dsimp only
  split
  · rename_i entries htimestamp hcontent
    rcases hkinds with heq | ⟨-, htext⟩
    · exact .date (hg.isMapping_iff.1 ⟨entries, hcontent⟩) (heq.symm.trans htimestamp)
    · cases htimestamp.symm.trans htext
  · have hvalue : Confined (Unbuildable g) (fun _ => True)
        (readScalar (g'.node number).kind t) := by
      cases hread : readScalar (g'.node number).kind t with
      | ok v => trivial
      | error fault =>
          cases fault with
          | malformed => trivial
          | raised e =>
              rcases hkinds with heq | ⟨-, htext⟩
              · rw [heq] at hread
                exact .scalar hsource hplace hread
              · rw [htext] at hread
                cases hread
    exact hvalue.bind fun _ _ => trivial

/-! ## Values -/

/-- A computation outside the graph is taken over with its exceptions. -/
theorem makes_lift {α : Type} {x : Except Fault α} {result : α → Prop}
    (hx : Confined (Unbuildable g) result x) : Makes g (liftM x : Build α) result := by
  intro b hb
  exact hx.bind fun a ha => ⟨hb, ha⟩

theorem makes_makeValue (number : Nat) : Makes g (makeValue number) fun _ => True := by
  refine makes_get.bind fun b hb => ?_
  split
  · rename_i hkind
    exact makes_lift (confined_makeScalar hb hkind)
  · refine Makes.bind (makes_set ?_) fun _ _ => makes_pure trivial
    exact hb

/-- A value is made when it is first needed, and then known by its number. -/
theorem makes_make (number : Nat) : Makes g (make number) fun _ => True := by
  refine makes_get.bind fun b _ => ?_
  split
  · exact makes_pure trivial
  · refine (makes_makeValue number).bind fun made _ => ?_
    refine Makes.bind (makes_modify ?_) fun _ _ => makes_pure trivial
    exact fun _ => rfl

theorem makes_makePart (number : Nat) : Makes g (makePart number) fun _ => True :=
  (makes_make number).bind fun _ _ => makes_pure trivial

/-- A key must be hashable, or the document is no YAML. -/
theorem makes_makeKey (number : Nat) : Makes g (makeKey number) fun _ => True := by
  refine (makes_make number).bind fun key _ => ?_
  split
  · exact makes_pure trivial
  · exact makes_fail

/-! ## Collections -/

theorem makes_makeEntries (number : Nat) : Makes g (makeEntries number) fun _ => True := by
  refine (makes_node number).bind fun node hnode => ?_
  split
  · rename_i entries hcontent
    refine (makes_mergeEntries (hnode entries hcontent)).bind fun entries _ => ?_
    refine (makes_foldlM fun made entry => ?_).bind fun _ _ => makes_pure trivial
    refine (makes_makeKey entry.1).bind fun key _ => ?_
    exact (makes_makePart entry.2).bind fun _ _ => makes_pure trivial
  · exact makes_fail

theorem makes_makeItems (number : Nat) : Makes g (makeItems number) fun _ => True := by
  refine (makes_node number).bind fun node _ => ?_
  split
  · exact makes_mapM fun item _ => makes_makePart item
  · exact makes_fail

theorem makes_makePair (number : Nat) : Makes g (makePair number) fun _ => True := by
  refine (makes_node number).bind fun node _ => ?_
  split
  · refine (makes_makePart _).bind fun key _ => ?_
    exact (makes_makePart _).bind fun _ _ => makes_pure trivial
  · exact makes_fail

theorem makes_makePairs (number : Nat) : Makes g (makePairs number) fun _ => True := by
  refine (makes_node number).bind fun node _ => ?_
  split
  · exact makes_mapM fun item _ => makes_makePair item
  · exact makes_fail

/-- A collection is made of the values of its parts. -/
theorem makes_makeCollection (number : Nat) : Makes g (makeCollection number) fun _ => True := by
  refine (makes_node number).bind fun node _ => ?_
  split
  · exact (makes_makeItems number).bind fun _ _ => makes_pure trivial
  · exact (makes_makeEntries number).bind fun _ _ => makes_pure trivial
  · exact (makes_makeEntries number).bind fun _ _ => makes_pure trivial
  · exact (makes_makePairs number).bind fun _ _ => makes_pure trivial

/-- Collections that were announced are filled one after the other. -/
theorem makes_fillFrom (fuel index : Nat) : Makes g (fillFrom fuel index) fun _ => True := by
  induction fuel generalizing index with
  | zero => exact makes_fail
  | succ fuel ih =>
      refine makes_get.bind fun b _ => ?_
      split
      · exact makes_pure trivial
      · refine (makes_makeCollection _).bind fun _ _ => ?_
        refine Makes.bind (makes_modify ?_) fun _ _ => ih _
        exact fun _ => rfl

/-- The value of a document is that of its root, with all that it refers to. -/
theorem makes_makeRoot (root : Nat) : Makes g (makeRoot root) fun _ => True := by
  refine (makes_makePart root).bind fun value _ => makes_get.bind fun b _ => ?_
  exact (makes_fillFrom _ 0).bind fun _ _ => makes_pure trivial

/-! ## Documents -/

/-- Why reading a document raises an exception. -/
inductive Unvalued (document : Text) : Raised → Prop where
  /-- The document cannot be scanned. -/
  | unscannable {e : Raised} (h : Unscannable document e) : Unvalued document e
  /-- A plain scalar has no value of the type that its form shows. -/
  | plain {nodes : Graph} {root number : Nat} {t : Text} {e : Raised}
      (hparse : parse document = .ok (nodes, some root))
      (hnode : nodes.node number = ⟨plainKind t, .scalar t⟩) (h : Valueless t e) :
      Unvalued document e
  /-- In a document with tags, a node has no value of its type. -/
  | tagged {nodes : Graph} {root : Nat} {e : Raised} (htag : '!' ∈ document)
      (hparse : parse document = .ok (nodes, some root)) (h : Unbuildable nodes e) :
      Unvalued document e

/-- A document raises an exception for the reasons that scanning and building have. -/
theorem confined_readText (document : Text) :
    Confined (Unvalued document) (fun _ => True) (readText document) := by
  have hparse := confined_parse document
  unfold readText
  cases hnodes : parse document with
  | error fault =>
      rw [hnodes] at hparse
      cases fault with
      | malformed => trivial
      | raised e => exact .unscannable hparse
  | ok r =>
      rw [hnodes] at hparse
      obtain ⟨nodes, root⟩ := r
      cases root with
      | none => trivial
      | some root =>
          have hunbuilt : ∀ e, Unbuildable nodes e → Unvalued document e := by
            intro e h
            by_cases htag : '!' ∈ document
            · exact .tagged htag hnodes h
            · obtain ⟨number, t, hnode, hvalueless⟩ := h.exists_plain (hparse htag)
              exact .plain hnodes hnode hvalueless
          have hmake := makes_makeRoot (g := nodes) root
            ⟨nodes, Array.replicate nodes.size none, #[], #[]⟩ (.refl nodes)
          exact (hmake.mono hunbuilt fun _ h => h).bind fun _ _ => trivial

/-- Reading a document raises an exception for the given reasons only. -/
theorem unvalued_of_read (h : read document = .error (.raised e)) : Unvalued document e := by
  unfold read at h
  split at h
  · have hread := confined_readText document
    rw [h] at hread
    exact hread
  · cases h

end Yaml
end Stencil
