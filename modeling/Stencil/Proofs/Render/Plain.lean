import Stencil.Proofs.Outcome
import Stencil.Render.Renderer

/-!
# Rendering without a session

What the stages of rendering come to when nothing is kept, logged or recorded: functions
of the configuration and the file tree alone.  They are the yardstick for what sessions
do with a cache.

Main results:

- Definitions `Plain.source`, `Plain.expand` and `Plain.prepare`: loading, expansion and
  all stages before the data come in.
- Theorem `source_eq_readTree`: the text of a file that exists is what the tree holds.
-/

namespace Stencil
namespace Render
namespace Plain

open Stencil.Render.Action

/-! ## Files -/

/-- Whether a path leads to a file. -/
def isFile (tree : File.Tree) (path : File.Path) : Except Failure Bool :=
  (tree.isFile path).mapError .file

/-- The text of a template, which must exist. -/
def source (tree : File.Tree) (identifier : Text) : Except Failure Text := do
  if ← isFile tree (.ofText identifier) then readTree tree (.ofText identifier)
  else .error (.template (.templateNotFound identifier))

/-- What can be read is a file. -/
theorem isFile_of_readTree {tree : File.Tree} {path : File.Path} {text : Text}
    (h : readTree tree path = .ok text) : isFile tree path = .ok true := by
  unfold readTree File.Tree.read at h
  unfold isFile File.Tree.isFile File.Tree.test
  cases hlocate : tree.locate path with
  | error cause =>
      rw [hlocate] at h
      cases h
  | ok l =>
      rw [hlocate] at h
      dsimp only at h ⊢
      cases hnode : tree.node? l with
      | none =>
          rw [hnode] at h
          cases h
      | some node =>
          rw [hnode] at h
          cases node with
          | directory => cases h
          | file bytes => rfl

/-- The text of a file that exists is what the tree holds. -/
theorem source_eq_readTree {tree : File.Tree} {identifier : Text}
    (h : isFile tree (.ofText identifier) = .ok true) :
    source tree identifier = readTree tree (.ofText identifier) := by
  unfold source
  rw [h]
  rfl

theorem isFile_of_source {tree : File.Tree} {identifier text : Text}
    (h : source tree identifier = .ok text) : isFile tree (.ofText identifier) = .ok true := by
  obtain ⟨found, hfound, htext⟩ := Outcome.bind_eq_ok_iff.1 h
  cases found with
  | true => exact hfound
  | false => cases htext

/-- A failure to read a file is one of the file system or one of decoding. -/
theorem readTree_eq_error {tree : File.Tree} {path : File.Path} {f : Failure}
    (h : readTree tree path = .error f) :
    (∃ fault, f = .file fault) ∨ ∃ fault, f = .decoding fault := by
  unfold readTree decode at h
  split at h
  · split at h
    · cases h
    · exact Or.inr ⟨_, (Except.error.inj h).symm⟩
  · exact Or.inl ⟨_, (Except.error.inj h).symm⟩

/-! ## Expansion -/

/-- The text that a component marker in the template `identifier` stands for. -/
def expandComponent (c : Config) (tree : File.Tree)
    (inside : Option (Text → Text → Except Failure Text)) (identifier name : Text) :
    Except Failure Text :=
  let path := c.componentPath name
  match inside with
  | none => .error (.template (.recursionTooDeep identifier))
  | some expand => do
    if ← isFile tree path then expand path.text (← readTree tree path)
    else .error (.template (.componentNotFound path.text identifier))

/-- The text of a token, where components are expanded. -/
def expandToken (expand : Text → Except Failure Text) : Template.Token → Except Failure Text
  | .component name _ => expand name
  | token => .ok token.source

/-- The texts of tokens, one after the other, where components are expanded. -/
def expandTokens (expand : Text → Except Failure Text) :
    List Template.Token → Except Failure Text
  | [] => .ok []
  | token :: tokens => do
    let text ← expandToken expand token
    return text ++ (← expandTokens expand tokens)

/-- The text of a template in which markers may stand in so many more components. -/
def expand (c : Config) (tree : File.Tree) :
    (remaining : Nat) → (identifier text : Text) → Except Failure Text
  | 0, identifier, text =>
    expandTokens (expandComponent c tree none identifier) (Template.scan c.delimiters text)
  | remaining + 1, identifier, text =>
    expandTokens (expandComponent c tree (some (expand c tree remaining)) identifier)
      (Template.scan c.delimiters text)

/-! ## Programs -/

/-- The program of a text. -/
def interpolate (c : Config) (identifier text : Text) : Except Failure Template.Program :=
  (Template.interpolate c.delimiters identifier text).mapError .template

/-- The compiled template of a program. -/
def compile (program : Template.Program) (identifier : Text) :
    Except Failure Template.Compiled :=
  (Template.compile program identifier).mapError .template

/-- All stages before the template is applied to data. -/
def prepare (c : Config) (tree : File.Tree) (identifier : Text) :
    Except Failure (Template.Program × Template.Compiled) := do
  let text ← source tree identifier
  let text ← expand c tree (remainingDepth c 0) identifier text
  let program ← interpolate c identifier text
  return (program, ← compile program identifier)

end Plain
end Render
end Stencil
