import Mathlib.Data.List.Infix
import Stencil.Proofs.Number.Reading
import Stencil.Yaml.Token.Scan

/-!
# Exceptions of the grammar

Scanning a document comes to tokens, or finds that the document is no YAML.  An exception is raised
for two reasons only: a numbered escape stands for no character, or the number of a version has too
many digits.

Main results:

- Definition `Confined`, with Theorem `Confined.bind`: what a computation can come to.
- Definition `Unscannable`: why scanning a document raises an exception.
-/

namespace Stencil
namespace Yaml

/-! ## What computations come to -/

section Confined

variable {α β : Type} {raised raised' : Raised → Prop} {result : α → Prop} {result' : β → Prop}
  {x : Except Fault α}

/-- A computation has a result that satisfies a condition, or raises an exception that satisfies
another one, or finds that the document is no YAML. -/
def Confined (raised : Raised → Prop) (result : α → Prop) : Except Fault α → Prop
  | .ok a => result a
  | .error .malformed => True
  | .error (.raised e) => raised e

@[simp]
theorem confined_ok {a : α} : Confined raised result (.ok a) ↔ result a := Iff.rfl

@[simp]
theorem confined_pure {a : α} : Confined raised result (pure a) ↔ result a := Iff.rfl

@[simp]
theorem confined_malformed : Confined raised result malformed := trivial

theorem confined_ok_bind {a : α} {f : α → Except Fault β} :
    Confined raised result' (.ok a >>= f) ↔ Confined raised result' (f a) := Iff.rfl

/-- The conditions of a confined computation may be weakened. -/
theorem Confined.mono {result' : α → Prop} (h : Confined raised result x)
    (hraised : ∀ e, raised e → raised' e) (hresult : ∀ a, result a → result' a) :
    Confined raised' result' x := by
  match x, h with
  | .ok a, h => exact hresult a h
  | .error .malformed, _ => trivial
  | .error (.raised e), h => exact hraised e h

/-- A choice is confined when both of its branches are. -/
theorem Confined.ite {p : Prop} [Decidable p] {y : Except Fault α}
    (hx : p → Confined raised result x) (hy : ¬ p → Confined raised result y) :
    Confined raised result (if p then x else y) := by
  split
  · exact hx ‹_›
  · exact hy ‹_›

/-- A sequence is confined when its first part is, and its second one after every result. -/
theorem Confined.bind {f : α → Except Fault β} (hx : Confined raised result x)
    (hf : ∀ a, result a → Confined raised result' (f a)) : Confined raised result' (x >>= f) := by
  match x, hx with
  | .ok a, h => exact hf a h
  | .error .malformed, _ => trivial
  | .error (.raised _), h => exact h

end Confined

/-! ## Cursors in a document -/

namespace Cursor

variable {document : Text} {c : Cursor}

/-- The cursor stands in a document. -/
def In (document : Text) (c : Cursor) : Prop := c.rest <:+ document

@[simp]
theorem next_rest (c : Cursor) : c.next.rest = c.rest.tail := by
  unfold next
  split
  · rename_i h
    rw [h]
    rfl
  · rename_i h
    rw [h]
    split
    · rfl
    · split <;> rfl

@[simp]
theorem skip_rest (n : Nat) (c : Cursor) : (c.skip n).rest = c.rest.drop n := by
  induction n generalizing c with
  | zero => rfl
  | succ n ih => rw [skip, ih, next_rest, List.drop_tail]

/-- A cursor in a document stays there when it goes on. -/
theorem In.next (h : c.In document) : c.next.In document := by
  unfold In at *
  rw [next_rest]
  exact (List.tail_suffix _).trans h

theorem In.skip (h : c.In document) (n : Nat) : (c.skip n).In document := by
  unfold In at *
  rw [skip_rest]
  exact (List.drop_suffix _ _).trans h

theorem In.takeWhile (h : c.In document) (p : Char → Bool) : (c.takeWhile p).2.In document :=
  h.skip _

theorem In.skipWhile (h : c.In document) (p : Char → Bool) : (c.skipWhile p).In document :=
  h.skip _

/-- Line breaks of two characters are taken whole, which leaves the cursor in its document. -/
theorem In.takeBreak (h : c.In document) : c.takeBreak.2.In document := by
  unfold Cursor.takeBreak
  split
  · exact h.skip 2
  · split
    · exact h.next
    · split
      · exact h.next
      · exact h
  · exact h

/-- Before the end, the cursor stands before a character. -/
theorem rest_eq_cons (h : c.head ≠ endMark) : c.rest = c.head :: c.next.rest := by
  rw [next_rest]
  unfold head at *
  cases hrest : c.rest with
  | nil => exact absurd (by rw [hrest]; rfl) h
  | cons d rest => rfl

end Cursor

/-! ## Exceptions -/

/-- Why scanning a document raises an exception. -/
inductive Unscannable (document : Text) : Raised → Prop where
  /-- A numbered escape stands for no character. -/
  | character {mark : Char} {digits : Text} {values : List Nat}
      (hmark : escapeWidth? mark = some values.length)
      (hescape : '\\' :: mark :: digits <:+: document)
      (hvalues : digits.mapM hexDigit? = some values)
      (hbeyond : 0x110000 ≤ Number.ofDigits 16 values) :
      Unscannable document (noCharacter (Number.ofDigits 16 values))
  /-- The number of a version has too many digits. -/
  | version {digits : Text} (hdigits : ∀ c ∈ digits, Number.isAsciiDigit c = true)
      (hversion : digits <:+: document) (hlong : Number.digitLimit < digits.length) :
      Unscannable document (.ofInteger (.tooLongToRead digits.length))

variable {document : Text} {c : Cursor} {α β : Type}

/-- A step of scanning leaves the cursor in the document. -/
abbrev Scans (document : Text) (x : Except Fault (α × Cursor)) : Prop :=
  Confined (Unscannable document) (fun r => r.2.In document) x

/-! ## Names -/

/-- The digits of an escape are read within the document. -/
theorem scans_hex (width : Nat) (hc : c.In document) : Scans document (scanHex width c) := by
  unfold scanHex
  split
  · split
    · exact hc.skip _
    · exact confined_malformed
  · exact confined_malformed

theorem scans_name (hc : c.In document) : Scans document (scanName c) := by
  unfold scanName
  dsimp only
  split
  · exact confined_malformed
  · exact hc.takeWhile _

theorem scans_anchorName (hc : c.In document) : Scans document (scanAnchorName c) := by
  refine (scans_name hc.next).bind fun ⟨name, c⟩ hc => ?_
  dsimp only
  split
  · exact hc
  · exact confined_malformed

/-- Escaped bytes of an address give a text or no YAML, but no exception. -/
theorem scans_bytes (fuel : Nat) (hc : c.In document) : Scans document (scanBytes fuel c) := by
  induction fuel generalizing c with
  | zero => exact confined_malformed
  | succ fuel ih =>
      unfold scanBytes
      split
      · refine (scans_hex 2 hc.next).bind fun ⟨n, c⟩ hc => ?_
        exact (ih hc).bind fun ⟨bytes, c⟩ hc => hc
      · exact hc

/-- Every part of an address is scanned within the document. -/
theorem scans_addressFrom (fuel : Nat) (hc : c.In document) :
    Scans document (scanAddressFrom fuel c) := by
  induction fuel generalizing c with
  | zero => exact confined_malformed
  | succ fuel ih =>
      unfold scanAddressFrom
      split
      · refine (scans_bytes _ hc).bind fun ⟨bytes, c⟩ hc => ?_
        dsimp only
        split
        · exact confined_malformed
        · exact (ih hc).bind fun ⟨rest, c⟩ hc => hc
      · split
        · exact (ih (hc.takeWhile _)).bind fun ⟨rest, c⟩ hc => hc
        · exact hc

theorem scans_address (hc : c.In document) : Scans document (scanAddress c) := by
  unfold scanAddress
  split
  · exact scans_addressFrom _ hc
  · exact confined_malformed

theorem scans_handle (hc : c.In document) : Scans document (scanHandle c) := by
  unfold scanHandle
  split
  · exact confined_malformed
  · split
    · exact hc.next
    · dsimp only
      split
      · exact (hc.next.takeWhile _).next
      · exact confined_malformed

/-! ## Directives -/

theorem Cursor.In.skipSpaces (hc : c.In document) : (skipSpaces c).In document := hc.skipWhile _

theorem Cursor.In.skipLine (hc : c.In document) : (skipLine c).In document := hc.skipWhile _

/-- After a directive there may only be a comment. -/
theorem confined_leaveLine (hc : c.In document) :
    Confined (Unscannable document) (·.In document) (leaveLine c) := by
  unfold leaveLine
  dsimp only
  split
  · split
    · exact hc.skipSpaces.skipLine.takeBreak
    · exact confined_malformed
  · split
    · exact hc.skipSpaces.takeBreak
    · exact confined_malformed

/-- A version number that is too long raises an exception, and stands in the document. -/
theorem scans_number (hc : c.In document) : Scans document (scanNumber c) := by
  unfold scanNumber
  dsimp only
  split
  · exact confined_malformed
  · rename_i hne
    have hdigits : ∀ d ∈ (c.takeWhile Number.isAsciiDigit).1, Number.isAsciiDigit d = true :=
      fun d hd => List.mem_takeWhile_imp hd
    have hread := Number.readNatural_of_isDecimal (t := (c.takeWhile Number.isAsciiDigit).1)
      (by simpa using hne) fun d hd =>
      Number.isDecimal_of_isAsciiDigit (hdigits d hd)
    rw [hread]
    split
    · rename_i hsome
      split at hsome
      · cases hsome
      · exact hc.takeWhile _
    · rename_i hnone
      split at hnone
      · rename_i hlong
        cases hnone
        exact .version hdigits ((List.takeWhile_prefix _).isInfix.trans hc.isInfix) hlong
      · cases hnone

/-- What a token says about the document in which it stands. -/
def Token.StandsIn (document : Text) : Token → Prop
  | .tag _ _ => '!' ∈ document
  | .scalar text true => text.getLast? ≠ some '\n'
  | _ => True

/-- A step of scanning gives a token of the document and leaves the cursor in it. -/
abbrev ScansToken (document : Text) (x : Except Fault (Token × Cursor)) : Prop :=
  Confined (Unscannable document) (fun r => r.1.StandsIn document ∧ r.2.In document) x

theorem scans_version (hc : c.In document) : ScansToken document (scanVersion c) := by
  refine (scans_number hc.skipSpaces).bind fun ⟨major, c⟩ hc => ?_
  dsimp only
  split
  · exact confined_malformed
  · refine (scans_number hc.next).bind fun ⟨_, c⟩ hc => ?_
    dsimp only
    split
    · exact ⟨trivial, hc⟩
    · exact confined_malformed

theorem scans_tagHandle (hc : c.In document) : ScansToken document (scanTagHandle c) := by
  refine (scans_handle hc.skipSpaces).bind fun ⟨handle, c⟩ hc => ?_
  dsimp only
  split
  · exact confined_malformed
  · refine (scans_address hc.skipSpaces).bind fun ⟨target, c⟩ hc => ?_
    dsimp only
    split
    · exact ⟨trivial, hc⟩
    · exact confined_malformed

/-- A directive has a version, a tag handle, or nothing that counts. -/
theorem scans_directive (hc : c.In document) : ScansToken document (scanDirective c) := by
  refine (scans_name hc.next).bind fun ⟨name, c⟩ hc => ?_
  dsimp only
  split
  · exact confined_malformed
  · have hleave : ∀ {token : Token} {c : Cursor}, token.StandsIn document → c.In document →
        ScansToken document (leaveLine c >>= fun after => pure (token, after)) := by
      intro token c htoken hc
      exact (confined_leaveLine hc).bind fun after hafter => ⟨htoken, hafter⟩
    split
    · exact (scans_version hc).bind fun ⟨token, c⟩ ⟨htoken, hc⟩ => hleave htoken hc
    · split
      · exact (scans_tagHandle hc).bind fun ⟨token, c⟩ ⟨htoken, hc⟩ => hleave htoken hc
      · exact hleave trivial hc.skipLine

/-- A tag begins with the exclamation mark that the document has. -/
theorem scans_tag (htag : '!' ∈ document) (hc : c.In document) :
    ScansToken document (scanTag c) := by
  have hend : ∀ {handle : Option Text} {suffix : Text} {c : Cursor}, c.In document →
      ScansToken document
        (if isEndOrSpace c.head then .ok (.tag handle suffix, c) else malformed) := by
    intro handle suffix c hc
    split
    · exact ⟨htag, hc⟩
    · exact confined_malformed
  unfold scanTag
  split
  · refine (scans_address (hc.skip 2)).bind fun ⟨suffix, c⟩ hc => ?_
    dsimp only
    split
    · exact hend hc.next
    · exact confined_malformed
  · split
    · exact hend hc.next
    · split
      · refine (scans_handle hc).bind fun ⟨handle, c⟩ hc => ?_
        exact (scans_address hc).bind fun ⟨suffix, c⟩ hc => hend hc
      · exact (scans_address hc.next).bind fun ⟨suffix, c⟩ hc => hend hc

/-! ## Quoted scalars -/

theorem scans_quotedBreaks (fuel : Nat) (hc : c.In document) :
    Scans document (scanQuotedBreaks fuel c) := by
  induction fuel generalizing c with
  | zero => exact confined_malformed
  | succ fuel ih =>
      unfold scanQuotedBreaks
      split
      · exact confined_malformed
      · dsimp only
        split
        · exact (ih (hc.skipWhile _).takeBreak).bind fun ⟨rest, c⟩ hc => hc
        · exact hc.skipWhile _

/-- Blanks and line breaks in a quoted scalar are folded. -/
theorem scans_quotedBlanks (hc : c.In document) : Scans document (scanQuotedBlanks c) := by
  unfold scanQuotedBlanks
  dsimp only
  split
  · exact confined_malformed
  · split
    · exact (scans_quotedBreaks _ (hc.takeWhile _).takeBreak).bind fun ⟨rest, c⟩ hc => hc
    · exact hc.takeWhile _

/-- An escape raises an exception when it says the number of no character. -/
theorem scans_escape (hc : '\\' :: c.rest <:+ document) : Scans document (scanEscape c) := by
  have hin : c.In document := (List.suffix_cons _ _).trans hc
  unfold scanEscape
  split
  · exact hin.next
  · rename_i width hnone hwidth
    have hhead : c.head ≠ endMark := by
      intro heq
      rw [heq] at hwidth
      cases hwidth
    have hrest := c.rest_eq_cons hhead
    unfold scanHex
    split
    · rename_i digits hdigits
      split
      · rename_i hlength
        refine confined_ok_bind.2 ?_
        dsimp only
        split
        · exact hin.next.skip width
        · rename_i hbeyond
          have hstart : '\\' :: c.head :: c.next.rest.take width <+: '\\' :: c.rest := by
            rw [hrest, List.prefix_cons_inj, List.prefix_cons_inj]
            exact List.take_prefix _ _
          exact .character (hlength ▸ hwidth) (hstart.isInfix.trans hc.isInfix) hdigits
            (Nat.not_lt.1 hbeyond)
      · exact confined_malformed
    · exact confined_malformed
  · split
    · exact scans_quotedBreaks _ hin.takeBreak
    · exact confined_malformed

/-- A quoted scalar may hold an escape that raises an exception, which stands in the document. -/
theorem scans_quoted (quote : Char) (fuel : Nat) (hc : c.In document) :
    Scans document (scanQuoted quote fuel c) := by
  induction fuel generalizing c with
  | zero => exact confined_malformed
  | succ fuel ih =>
      unfold scanQuoted
      dsimp only
      split
      · exact (ih (hc.takeWhile _)).bind fun ⟨rest, c⟩ hc => hc
      · split
        · exact (ih (hc.skip 2)).bind fun ⟨rest, c⟩ hc => hc
        · split
          · exact hc.next
          · split
            · rename_i hescape
              have hhead : c.head = '\\' := by simp at hescape; exact hescape.2
              have hmark : '\\' :: c.next.rest <:+ document := by
                rw [← hhead, ← Cursor.rest_eq_cons (by rw [hhead]; decide)]
                exact hc
              refine (scans_escape hmark).bind fun ⟨t, c⟩ hc => ?_
              exact (ih hc).bind fun ⟨rest, c⟩ hc => hc
            · split
              · refine (scans_quotedBlanks hc).bind fun ⟨t, c⟩ hc => ?_
                exact (ih hc).bind fun ⟨rest, c⟩ hc => hc
              · exact (ih hc.next).bind fun ⟨rest, c⟩ hc => hc

theorem scans_quotedScalar (hc : c.In document) : ScansToken document (scanQuotedScalar c) :=
  (scans_quoted _ _ hc.next).bind fun ⟨_, _⟩ hc => ⟨trivial, hc⟩

end Yaml
end Stencil
