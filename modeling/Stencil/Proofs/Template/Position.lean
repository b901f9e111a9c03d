import Mathlib.Data.List.Nodup
import Stencil.Proofs.Template.Acceptance
import Stencil.Proofs.Value.Addressing

/-!
# Positions in a data tree

A position in a tree of mappings and lists is a sequence of steps, each to the value under a key
or to the item at an index.  Written as the keys and the decimal indices with points between
them, it is a path, and a template that looks it up shows the value at the position.

A part of a path does not say whether it is a key or an index: that depends on the value it is
looked up in.  So digits name a key in a mapping, and a number that is printed leads back to the
item of its index in a list.

Main results:

- Definitions `IsTree`, `Step` and `At`: data trees, steps and the value at a position.
- Theorem `index?_toDigits`: a printed number spells its index.
- Theorem `resolve_position`: following the written steps leads to the value at the position.
- Theorem `every_position_addressable`: a template shows the value at any position.
-/

namespace Stencil
namespace Value

open Text Template

variable {v w : Value} {pool : Pool} {c : Char} {n : Nat}

/-! ## Printed numbers -/

theorem decimalValue?_of_isDigit (h : c.isDigit = true) :
    decimalValue? c = some (c.toNat - '0'.toNat) := by
  have hrange : 48 ≤ c.toNat ∧ c.toNat ≤ 57 := by
    simpa [Char.isDigit, UInt32.le_iff_toNat_le] using h
  have hvalue : (c.toNat - 48) % 10 = c.toNat - 48 := by omega
  simp [decimalValue?, decimalDigits, hrange, hvalue]

theorem isDecimal_of_isDigit (h : c.isDigit = true) : isDecimal c = true := by
  have hrange : 48 ≤ c.toNat ∧ c.toNat ≤ 57 := by
    simpa [Char.isDigit, UInt32.le_iff_toNat_le] using h
  simp [isDecimal, decimalDigits, Ranges.holds, hrange]

/-- Digits that are read one after the other, behind a number that was read before them. -/
theorem foldl_decimalValue? {digits : Text} (h : ∀ c ∈ digits, c.isDigit = true) (before : Nat) :
    (digits.filterMap decimalValue?).foldl (fun n d => n * 10 + d) before =
      Nat.ofDigitChars 10 digits before := by
  induction digits generalizing before with
  | nil => rfl
  | cons c digits ih =>
      rcases List.forall_mem_cons.1 h with ⟨hc, hrest⟩
      rw [List.filterMap_cons_some (decimalValue?_of_isDigit hc), List.foldl_cons, ih hrest,
        Nat.ofDigitChars_cons, Nat.mul_comm]

theorem isDigit_toDigits (n : Nat) : ∀ c ∈ Nat.toDigits 10 n, c.isDigit = true :=
  fun _ hc => Nat.isDigit_of_mem_toDigits (by decide) (by decide) hc

/-- A number that is printed spells its index, unless it is too long to be read again. -/
theorem index?_toDigits (h : (Nat.toDigits 10 n).length ≤ Number.digitLimit) :
    index? (Nat.toDigits 10 n) = some n := by
  have hdecimal : (Nat.toDigits 10 n).all isDecimal = true := by
    rw [List.all_eq_true]
    intro c hc
    exact isDecimal_of_isDigit (isDigit_toDigits n c hc)
  have hvalue : Number.ofDigits 10 ((Nat.toDigits 10 n).filterMap decimalValue?) = n := by
    rw [Number.ofDigits, foldl_decimalValue? (isDigit_toDigits n),
      Nat.ofDigitChars_toDigits (by decide) (by decide)]
  rw [index?, if_pos ⟨Nat.toDigits_ne_nil, hdecimal, h⟩, hvalue]

/-- The indices of lists can all be read again. -/
theorem length_toDigits_le (h : n < 2 ^ 63) :
    (Nat.toDigits 10 n).length ≤ Number.digitLimit := by
  have hbound : n < 10 ^ 19 := by omega
  have hlength : (Nat.toDigits 10 n).length ≤ 19 :=
    (Nat.length_toDigits_le_iff (by decide) (by decide)).2 hbound
  have hlimit : Number.digitLimit = 4300 := rfl
  omega

theorem isWord_toDigits (n : Nat) : IsWord (Nat.toDigits 10 n) := by
  refine ⟨Nat.toDigits_ne_nil, ?_⟩
  intro c hc
  simp [isWord, Char.isAlphanum, isDigit_toDigits n c hc]

/-! ## Data trees -/

/-- A tree of mappings with texts for keys, no two of them the same, of lists that are shorter
than two to the 63rd, and of any other values as leaves.  A collection may stand in several
places and be kept in the pool. -/
inductive IsTree (pool : Pool) : Value → Prop where
  | leaf {v : Value} (hlist : ∀ items, v ≠ .list items) (hmapping : ∀ entries, v ≠ .mapping entries)
      (hshared : ∀ number, v ≠ .shared number) : IsTree pool v
  | list {items : List Value} (hlength : items.length < 2 ^ 63)
      (hitems : ∀ v ∈ items, IsTree pool v) : IsTree pool (.list items)
  | mapping {entries : Entries} (hkeys : ∀ e ∈ entries, ∃ name, e.1 = .text name)
      (hdistinct : (entries.map Prod.fst).Nodup) (hvalues : ∀ e ∈ entries, IsTree pool e.2) :
      IsTree pool (.mapping entries)
  | shared {number : Nat} {v : Value} (hv : pool[number]? = some v) (htree : IsTree pool v) :
      IsTree pool (.shared number)

/-- A step to the value under a key or to the item at an index. -/
inductive Step where
  | key (name : Text)
  | index (n : Nat)
deriving DecidableEq, Repr

/-- How a step is written: a key as it is, an index in decimal. -/
def Step.text : Step → Text
  | key name => name
  | index n => Nat.toDigits 10 n

/-- The value at a position: the steps lead from entry to entry and from item to item.  Only keys
that are words can be written. -/
inductive At (pool : Pool) : Value → List Step → Value → Prop where
  | here (v : Value) : At pool v [] v
  | key {v w target : Value} {entries : Entries} {name : Text} {steps : List Step}
      (hv : pool.reveal v = .mapping entries) (hname : IsWord name)
      (hentry : (.text name, w) ∈ entries) (hrest : At pool w steps target) :
      At pool v (.key name :: steps) target
  | index {v w target : Value} {items : List Value} {n : Nat} {steps : List Step}
      (hv : pool.reveal v = .list items) (hitem : items[n]? = some w)
      (hrest : At pool w steps target) : At pool v (.index n :: steps) target

/-- How a position is written. -/
def written (position : List Step) : Text := join ['.'] (position.map Step.text)

theorem isTree_reveal (h : v.IsTree pool) : (pool.reveal v).IsTree pool := by
  cases h with
  | leaf hlist hmapping hshared =>
      cases v with
      | shared number => exact absurd rfl (hshared number)
      | _ => exact .leaf hlist hmapping hshared
  | list hlength hitems => exact .list hlength hitems
  | mapping hkeys hdistinct hvalues => exact .mapping hkeys hdistinct hvalues
  | shared hv htree =>
      rw [Pool.reveal, Array.getD_eq_getD_getElem?, hv, Option.getD_some]
      exact htree

/-! ## One step -/

/-- Under a key that stands once, looking it up finds its value. -/
theorem find?_of_mem {entries : Entries} {name : Text}
    (hdistinct : (entries.map Prod.fst).Nodup) (h : (.text name, w) ∈ entries) :
    Entries.find? name entries = some w := by
  induction entries with
  | nil => cases h
  | cons e entries ih =>
      rw [List.map_cons, List.nodup_cons] at hdistinct
      rcases List.mem_cons.1 h with rfl | hrest
      · simp [Entries.find?, isText]
      · have hother : e.1.isText name = false := by
          rw [← Bool.not_eq_true]
          intro hsame
          rcases e with ⟨key, value⟩
          cases key <;> simp [isText] at hsame
          subst hsame
          exact hdistinct.1 (List.mem_map.2 ⟨_, hrest, rfl⟩)
        rw [Entries.find?, if_neg (by simp [hother])]
        exact ih hdistinct.2 hrest

theorem step_key {entries : Entries} {name : Text} (htree : v.IsTree pool)
    (hv : pool.reveal v = .mapping entries) (hentry : (.text name, w) ∈ entries) :
    v.step pool name = .ok (some w) ∧ w.IsTree pool := by
  have hrevealed := isTree_reveal htree
  rw [hv] at hrevealed
  cases hrevealed with
  | leaf hlist hmapping hshared => exact absurd rfl (hmapping entries)
  | mapping hkeys hdistinct hvalues =>
      refine ⟨?_, hvalues _ hentry⟩
      rw [step, hv]
      exact congrArg Except.ok (find?_of_mem hdistinct hentry)

theorem step_index {items : List Value} (htree : v.IsTree pool)
    (hv : pool.reveal v = .list items) (hitem : items[n]? = some w) :
    v.step pool (Nat.toDigits 10 n) = .ok (some w) ∧ w.IsTree pool := by
  have hrevealed := isTree_reveal htree
  rw [hv] at hrevealed
  cases hrevealed with
  | leaf hlist hmapping hshared => exact absurd rfl (hlist items)
  | list hlength hitems =>
      rcases List.getElem?_eq_some_iff.1 hitem with ⟨hn, -⟩
      -- The list is short enough for its indices to be read again.
      have hindex : index? (Nat.toDigits 10 n) = some n :=
        index?_toDigits (length_toDigits_le (by omega))
      rcases isDigit_of_index? hindex with ⟨hne, hdigits⟩
      refine ⟨?_, hitems w (List.mem_of_getElem? hitem)⟩
      rw [step, hv]
      change element items (Nat.toDigits 10 n) = .ok (some w)
      rw [element_of_digits items hne hdigits, readNatural_eq_ok_iff.2 hindex, ← hitem]

/-! ## Paths -/

/-- No step starts from null. -/
theorem ne_null_of_reveal {collection : Value} (hv : pool.reveal v = collection)
    (hnull : collection ≠ .null) : v ≠ .null := by
  rintro rfl
  exact hnull hv.symm

/-- Following the written steps leads to the value at the position. -/
theorem resolve_position {position : List Step} (hat : v.At pool position w)
    (htree : v.IsTree pool) : v.resolve pool (position.map Step.text) = .ok w := by
  -- Along the position: what a step leads to is a tree again.
  induction hat with
  | here v => exact resolve_nil v pool
  | key hv hname hentry hrest ih =>
      rcases step_key htree hv hentry with ⟨hstep, hbelow⟩
      rw [List.map_cons, Step.text, resolve_cons (ne_null_of_reveal hv (by simp)), hstep]
      exact ih hbelow
  | index hv hitem hrest ih =>
      rcases step_index htree hv hitem with ⟨hstep, hbelow⟩
      rw [List.map_cons, Step.text, resolve_cons (ne_null_of_reveal hv (by simp)), hstep]
      exact ih hbelow

/-- The steps to a position are written as words. -/
theorem isWord_of_at {position : List Step} (hat : v.At pool position w) :
    ∀ word ∈ position.map Step.text, IsWord word := by
  induction hat with
  | here v => simp
  | key hv hname hentry hrest ih => exact List.forall_mem_cons.2 ⟨hname, ih⟩
  | @index v w target items n steps hv hitem hrest ih =>
      exact List.forall_mem_cons.2 ⟨isWord_toDigits n, ih⟩

/-- A written position splits into its steps again. -/
theorem split_written {position : List Step} (hne : position ≠ []) (hat : v.At pool position w) :
    split '.' (written position) = position.map Step.text := by
  refine split_join (by simpa using hne) ?_
  intro word hword
  exact (isWord_of_at hat word hword).point_not_mem

theorem worded_written {position : List Step} (hne : position ≠ []) (hat : v.At pool position w) :
    Worded (written position) := by
  rw [Worded, split_written hne hat]
  exact ⟨by simpa using hne, isWord_of_at hat⟩

end Value

namespace Template

open Text Value

variable {data : Data} {w : Value} {path : List Text} {expression : Text}

theorem compile_lookup (hworded : Worded expression) (identifier : Text) :
    compile ⟨[.lookup expression]⟩ identifier = .ok ⟨[.path (split '.' expression)]⟩ := by
  rw [compile, compileSegments, compileSegment_lookup hworded]
  rfl

/-- A template of one lookup shows the value that its path leads to. -/
theorem apply_path (hne : path ≠ []) (h : data.root.resolve data.pool path = .ok w) :
    (w = .null → (⟨[.path path]⟩ : Compiled).apply data = .ok []) ∧
      (w ≠ .null → (⟨[.path path]⟩ : Compiled).apply data = w.display data.pool) := by
  have hpaths : ∀ other, Part.path other ∈ [Part.path path] → other ≠ [] := by
    intro other hmem
    obtain rfl : other = path := by simpa using hmem
    exact hne
  have happly : (⟨[.path path]⟩ : Compiled).apply data =
      renderPartsWith data.look [.path path] := apply_eq_renderWith hpaths data
  rw [happly, renderPartsWith, Part.renderWith]
  constructor
  · rintro rfl
    rw [look_of_resolve_null h]
    rfl
  · intro hw
    rw [look_of_resolve h hw]
    change (w.display data.pool >>= fun t => .ok (t ++ [])) = w.display data.pool
    cases w.display data.pool with
    | error raised => rfl
    | ok t => exact congrArg Except.ok (List.append_nil t)

/-- Every position in a data tree but the root can be written as a path, and a template that
looks the path up shows the value at the position: nothing when it is null, and otherwise its
text, or the exception that is raised when it is shown. -/
theorem every_position_addressable {position : List Step} (htree : data.root.IsTree data.pool)
    (hne : position ≠ []) (hat : data.root.At data.pool position w) (identifier : Text) :
    ∃ c, compile ⟨[.lookup (written position)]⟩ identifier = .ok c ∧
      (w = .null → c.apply data = .ok []) ∧ (w ≠ .null → c.apply data = w.display data.pool) := by
  refine ⟨_, compile_lookup (worded_written hne hat) identifier, ?_⟩
  rw [split_written hne hat]
  exact apply_path (by simpa using hne) (resolve_position hat htree)

/-- A mapping under a digit, with a list below it that holds null and another mapping. -/
def numberedTree : Value :=
  .mapping [(.text "0", .list [.null, .int 7, .mapping [(.text "_id", .text "é")]])]

theorem isTree_numberedTree (pool : Pool) : numberedTree.IsTree pool := by
  have hinner : (Value.mapping [(.text "_id", .text "é")]).IsTree pool := by
    refine .mapping (by simp) (by simp) ?_
    simpa using .leaf (by simp) (by simp) (by simp)
  have hitems : (Value.list [.null, .int 7, .mapping [(.text "_id", .text "é")]]).IsTree pool := by
    refine .list (by decide) ?_
    simp only [List.mem_cons, List.not_mem_nil, or_false, forall_eq_or_imp, forall_eq]
    exact ⟨.leaf (by simp) (by simp) (by simp), .leaf (by simp) (by simp) (by simp), hinner⟩
  refine .mapping (by simp) (by simp) ?_
  simpa using hitems

/-- Digits that are a key, digits that are an index, and a key that begins with a low line. -/
theorem every_position_addressable_numbered :
    ∃ c, compile ⟨[.lookup "0.2._id"]⟩ "page" = .ok c ∧
      c.apply (.ofTree numberedTree) = .ok "é" := by
  have hat : (Data.ofTree numberedTree).root.At (Data.ofTree numberedTree).pool
      [.key "0", .index 2, .key "_id"] (.text "é") := by
    refine .key rfl (by decide +kernel) List.mem_cons_self ?_
    refine .index rfl rfl ?_
    exact .key rfl (by decide +kernel) List.mem_cons_self (.here _)
  have hwritten : written [.key "0", .index 2, .key "_id"] = "0.2._id" := by decide +kernel
  obtain ⟨c, hc, -, happly⟩ :=
    every_position_addressable (isTree_numberedTree _) (List.cons_ne_nil _ _) hat "page"
  rw [hwritten] at hc
  exact ⟨c, hc, happly (by simp)⟩

end Template
end Stencil
