import Stencil.Proofs.Json.Numeral
import Stencil.Proofs.Outcome
import Stencil.Proofs.Text.Bytes
import Stencil.Proofs.Text.Splitting

/-!
# Reading back what is written as JSON

A text is legible as a value when it is read as that value, whatever follows it, and holds no
control characters.  Strings are legible, whatever characters they stand for, and so are arrays and
objects of legible parts.  Whatever is written is legible as something: a text as that text, other
values perhaps as the value that stands for them in JSON.

Main results:

- Structure `Legible`: the texts of values that can be read back.
- Theorem `legible_string`: a string is legible as the text that it stands for.
- Theorems `Legible.array` and `Legible.object`: containers of legible parts are legible.
- Theorem `exists_legible_of_write`: what is written is legible.
- Theorem `Legible.read?`: a legible text is a JSON document.
-/

namespace Stencil
namespace Json

open Number

variable {c : Char} {t u rest : Text} {v : Value} {depth fuel n : Nat}

/-- A text without line feeds and other control characters. -/
def IsPlain (t : Text) : Prop := ∀ c ∈ t, 0x20 ≤ c.toNat

instance (t : Text) : Decidable (IsPlain t) :=
  List.decidableBAll (fun c : Char => 0x20 ≤ c.toNat) t

theorem isPlain_nil : IsPlain [] := List.forall_mem_nil _

theorem IsPlain.append (h : IsPlain t) (h' : IsPlain u) : IsPlain (t ++ u) := by
  intro c hc
  exact (List.mem_append.1 hc).elim (h c) (h' c)

theorem IsPlain.cons (hc : 0x20 ≤ c.toNat) (h : IsPlain t) : IsPlain (c :: t) :=
  List.forall_mem_cons.2 ⟨hc, h⟩

/-- A text that is read as a value that has so many containers inside one another: it has no control
characters, and what it begins with is neither a blank nor the end of an array. -/
structure Legible (depth : Nat) (t : Text) (v : Value) : Prop where
  plain : IsPlain t
  head : ∃ c u, t = c :: u ∧ c ≠ ' ' ∧ c ≠ ']'
  -- Every container takes one unit of fuel, and it has two brackets of its own.
  read : ∀ {fuel limit : Nat} {rest : Text}, depth ≤ limit → t.length ≤ fuel → AtEnd rest →
    readValue? fuel limit (t ++ rest) = some (v, rest)

/-- No blank is dropped before a character that is none. -/
theorem skipBlanks_cons (hc : 0x20 ≤ c.toNat) (hspace : c ≠ ' ') :
    skipBlanks (c :: rest) = c :: rest := by
  have hother : c ≠ '\n' ∧ c ≠ '\r' ∧ c ≠ '\t' := by
    refine ⟨?_, ?_, ?_⟩ <;>
      · rintro rfl
        exact absurd hc (by decide)
  simp [skipBlanks, hspace, hother]

/-! ## Strings -/

/-- A character is written with a one-letter escape, with its number, or as it is. -/
theorem escaped_cases (c : Char) :
    (∃ mark, mark ≠ 'u' ∧ 0x20 ≤ mark.toNat ∧ shortEscape? mark = some c ∧
      escaped c = ['\\', mark]) ∨
    (c.toNat < 0x20 ∧ escaped c = "\\u" ++ Text.hexDigits 4 c.toNat) ∨
    (c ≠ '"' ∧ c ≠ '\\' ∧ 0x20 ≤ c.toNat ∧ escaped c = [c]) := by
  have hmarks : ∀ c ∈ ['"', '\\', '\n', '\r', '\t', '\x08', '\x0c'],
      ∃ mark ∈ ['"', '\\', 'n', 'r', 't', 'b', 'f'], mark ≠ 'u' ∧ 0x20 ≤ mark.toNat ∧
        shortEscape? mark = some c ∧ escaped c = ['\\', mark] := by
    simp [shortEscape?, escaped]
  by_cases hmark : c ∈ ['"', '\\', '\n', '\r', '\t', '\x08', '\x0c']
  · obtain ⟨mark, -, h⟩ := hmarks c hmark
    exact .inl ⟨mark, h⟩
  · simp only [List.mem_cons, List.not_mem_nil, or_false, not_or] at hmark
    by_cases hcontrol : c.toNat < 0x20
    · exact .inr (.inl ⟨hcontrol, by simp [escaped, hmark, hcontrol]⟩)
    · exact .inr (.inr ⟨hmark.1, hmark.2.1, by omega, by simp [escaped, hmark, hcontrol]⟩)

theorem isPlain_escaped (c : Char) : IsPlain (escaped c) := by
  obtain ⟨mark, -, hplain, -, hc⟩ | ⟨hcontrol, hc⟩ | ⟨-, -, hplain, hc⟩ := escaped_cases c
  · rw [hc]
    exact .cons (by decide) (.cons hplain isPlain_nil)
  · have hdigits : ∀ n < 0x20, IsPlain (Text.hexDigits 4 n) := by decide
    rw [hc]
    exact .append (by decide) (hdigits _ hcontrol)
  · rw [hc]
    exact .cons hplain isPlain_nil

theorem isPlain_string (t : Text) : IsPlain (string t) := by
  refine .cons (by decide) (.append ?_ (by decide))
  intro c hc
  obtain ⟨d, -, hd⟩ := List.mem_flatMap.1 hc
  exact isPlain_escaped d c hd

/-- Four digits are read as they are, whatever follows them. -/
theorem readUnit?_append (h : readUnit? t = some (n, [])) (rest : Text) :
    readUnit? (t ++ rest) = some (n, rest) := by
  unfold readUnit? at h
  split at h
  · obtain ⟨digits, hdigits, h⟩ := Option.bind_eq_some_iff.1 h
    cases h
    exact Option.bind_eq_some_iff.2 ⟨digits, hdigits, rfl⟩
  · cases h

/-- The number of a control character is read. -/
theorem readNumbered?_hexDigits (h : n < 0x20) (rest : Text) :
    readNumbered? (Text.hexDigits 4 n ++ rest) = some (Char.ofNat n, rest) := by
  have hunit : ∀ n < 0x20, readUnit? (Text.hexDigits 4 n) = some (n, []) := by decide
  have hsmall : (n < 0xD800 || 0xDFFF < n) = true := by
    simp
    omega
  unfold readNumbered?
  rw [readUnit?_append (hunit n h)]
  simp only [Option.bind_eq_bind, Option.bind_some, hsmall, if_true]
  rfl

/-- A character of a string is read as it was written. -/
theorem readString?_escaped (fuel : Nat) (c : Char) (rest : Text) :
    readString? (fuel + 1) (escaped c ++ rest) =
      (readString? fuel rest).map fun (t, rest) => (c :: t, rest) := by
  have hmap : (do
      let (t, rest) ← readString? fuel rest
      return (c :: t, rest)) = (readString? fuel rest).map fun (t, rest) => (c :: t, rest) := by
    cases readString? fuel rest <;> rfl
  rw [← hmap]
  obtain ⟨mark, hmark, -, hshort, hc⟩ | ⟨hcontrol, hc⟩ | ⟨hquote, hslash, hplain, hc⟩ :=
    escaped_cases c
  · rw [hc, List.cons_append, List.cons_append, readString?, hshort]
    · rfl
    · exact hmark
  · rw [hc]
    change readString? (fuel + 1) ('\\' :: 'u' :: (Text.hexDigits 4 c.toNat ++ rest)) = _
    rw [readString?, readNumbered?_hexDigits hcontrol, Char.ofNat_toNat]
    rfl
  · rw [hc, List.cons_append, readString?]
    · simp [hslash, hplain]
    · exact hquote
    · exact fun _ heq => absurd heq hslash
    · exact fun _ _ heq => absurd heq hslash

/-- A string is read as the text that it stands for. -/
theorem readString?_flatMap_escaped (t rest : Text) (h : t.length < fuel) :
    readString? fuel (t.flatMap escaped ++ '"' :: rest) = some (t, rest) := by
  induction t generalizing fuel with
  | nil =>
      obtain ⟨fuel, rfl⟩ := Nat.exists_eq_succ_of_ne_zero (Nat.ne_zero_of_lt h)
      rfl
  | cons c t ih =>
      obtain ⟨fuel, rfl⟩ := Nat.exists_eq_succ_of_ne_zero (Nat.ne_zero_of_lt h)
      rw [List.flatMap_cons, List.append_assoc, Nat.succ_eq_add_one, readString?_escaped,
        ih (Nat.lt_of_succ_lt_succ h)]
      rfl

/-- The string of a text is at least as long as the text. -/
theorem length_le_flatMap_escaped (t : Text) : t.length ≤ (t.flatMap escaped).length := by
  have hpos : ∀ n ∈ t.map fun c => (escaped c).length, 1 ≤ n := by
    intro n hn
    obtain ⟨c, -, rfl⟩ := List.mem_map.1 hn
    obtain ⟨mark, -, -, -, hc⟩ | ⟨-, hc⟩ | ⟨-, -, -, hc⟩ := escaped_cases c <;> simp [hc]
  simpa [List.length_flatMap] using List.length_le_sum_of_one_le _ hpos

/-- The fuel of a string is enough for it. -/
theorem readString?_string (t rest : Text) :
    readString? ((t.flatMap escaped ++ '"' :: rest).length + 1) (t.flatMap escaped ++ '"' :: rest) =
      some (t, rest) := by
  have hle := length_le_flatMap_escaped t
  apply readString?_flatMap_escaped
  rw [List.length_append]
  omega

/-! ## Scalars -/

theorem Legible.of_cons (hplain : IsPlain (c :: t)) (hspace : c ≠ ' ') (hclosing : c ≠ ']')
    (hread : ∀ {fuel limit : Nat} {rest : Text}, depth ≤ limit → t.length ≤ fuel → AtEnd rest →
      readValue? (fuel + 1) limit (c :: (t ++ rest)) = some (v, rest)) :
    Legible depth (c :: t) v where
  plain := hplain
  head := ⟨c, t, rfl, hspace, hclosing⟩
  read := by
    intro fuel limit rest hlimit hfuel hrest
    obtain ⟨fuel, rfl⟩ := Nat.exists_eq_add_of_lt hfuel
    exact hread hlimit (by omega) hrest

theorem legible_null : Legible depth "null" .null :=
  .of_cons (by decide) (by decide) (by decide) fun _ _ _ => rfl

theorem legible_bool (b : Bool) : Legible depth (if b then "true" else "false") (.bool b) := by
  cases b
  · exact .of_cons (by decide) (by decide) (by decide) fun _ _ _ => rfl
  · exact .of_cons (by decide) (by decide) (by decide) fun _ _ _ => rfl

/-- A string is legible as the text that it stands for. -/
theorem legible_string (t : Text) : Legible depth (string t) (.text t) := by
  refine .of_cons (isPlain_string t) (by decide) (by decide) ?_
  intro fuel limit rest _ _ _
  rw [List.append_eq, List.append_assoc, List.singleton_append, readValue?,
    skipBlanks_cons (by decide) (by decide)]
  simp only [readString?_string, Option.map_some]

/-- The characters that a number can begin with. -/
def StartsNumber (c : Char) : Prop := c = '-' ∨ isAsciiDigit c = true

theorem StartsNumber.not_mem (hc : StartsNumber c) :
    0x20 ≤ c.toNat ∧ c ∉ [' ', ']', 'n', 't', 'f', '"', '[', '\x7b'] := by
  obtain rfl | hdigit := hc
  · decide
  · have hnone : ∀ d ∈ [' ', ']', 'n', 't', 'f', '"', '[', '\x7b'], isAsciiDigit d = false := by
      simp [isAsciiDigit]
    refine ⟨(show 0x20 ≤ '0'.toNat by decide).trans (isAsciiDigit_iff.1 hdigit).1, fun hmem => ?_⟩
    exact Bool.false_ne_true ((hnone c hmem).symm.trans hdigit)

/-- A number is read where a value begins like one. -/
theorem readValue?_number (hc : StartsNumber c) (limit : Nat) :
    readValue? (fuel + 1) limit (c :: t) = readNumber? (c :: t) := by
  obtain ⟨hplain, hother⟩ := hc.not_mem
  have hspace : c ≠ ' ' := by
    rintro rfl
    exact hother List.mem_cons_self
  rw [readValue?, skipBlanks_cons hplain hspace]
  split
  case h_7 => rfl
  all_goals
    rename_i heq
    rw [(List.cons.inj heq).1] at hother
    exact absurd (by decide) hother

theorem Numeral.Formed.exists_cons {n : Numeral} (h : n.Formed) :
    ∃ c u, n.text = c :: u ∧ StartsNumber c := by
  obtain ⟨negative, whole, fraction, exponent⟩ := n
  cases negative with
  | true => exact ⟨'-', _, rfl, .inl rfl⟩
  | false =>
      obtain ⟨c, u, hwhole, hc⟩ := h.whole.exists_cons
      dsimp only at hwhole
      subst hwhole
      exact ⟨c, _, rfl, .inr hc⟩

theorem AreDigits.isPlain (h : AreDigits t) : IsPlain t := fun c hc =>
  (StartsNumber.not_mem (.inr (h c hc))).1

theorem Numeral.Formed.isPlain {n : Numeral} (h : n.Formed) : IsPlain n.text := by
  refine .append ?_ (.append h.whole.areDigits.isPlain (.append ?_ ?_))
  · split <;> decide
  · unfold fractionText
    split
    · decide
    · exact .cons (by decide) h.fraction.isPlain
  · cases hexponent : n.exponent with
    | none => exact isPlain_nil
    | some e =>
        obtain ⟨negative, digits⟩ := e
        have hdigits : IsPlain digits := (h.exponent _ hexponent).2.isPlain
        exact .cons (by decide) (.cons (by cases negative <;> decide) hdigits)

/-- A number is legible. -/
theorem Numeral.Proper.legible {n : Numeral} (h : n.Proper) : Legible depth n.text n.value := by
  obtain ⟨c, u, htext, hc⟩ := h.exists_cons
  have hplain := h.isPlain
  have hother := hc.not_mem.2
  rw [htext] at hplain ⊢
  simp only [List.mem_cons, not_or] at hother
  refine .of_cons hplain hother.1 hother.2.1 fun _ _ hrest => ?_
  rw [readValue?_number hc, ← List.cons_append, ← htext, readNumber?_text h hrest]

/-! ## Containers -/

variable {ts names : List Text} {vs : List Value} {limit : Nat}

theorem atEnd_cons (hc : c ∈ [',', ']', '\x7d']) : AtEnd (c :: rest) := by
  rintro _ ⟨⟩
  exact hc

theorem isPlain_join (h : ∀ t ∈ ts, IsPlain t) : IsPlain (Text.join [','] ts) := by
  intro c hc
  by_cases hcomma : c = ','
  · rw [hcomma]
    decide
  · obtain ⟨t, ht, hct⟩ := (Text.mem_join hcomma).1 hc
    exact h t ht c hct

/-- The texts of values have no control characters. -/
theorem isPlain_of_legible (h : List.Forall₂ (Legible depth) ts vs) : ∀ t ∈ ts, IsPlain t := by
  have hboth : List.Forall₂ (fun t v => IsPlain t ∧ Legible depth t v) ts vs :=
    h.imp fun _ _ htv => ⟨htv.plain, htv⟩
  exact ((List.forall₂_and_left _ _).1 hboth).1

/-- The first of joined parts is where they begin. -/
theorem exists_join_cons (t : Text) (ts : List Text) :
    ∃ u, Text.join [','] (t :: ts) = t ++ u := by
  cases ts with
  | nil => exact ⟨[], by rw [Text.join_singleton, List.append_nil]⟩
  | cons u ts => exact ⟨_, Text.join_cons_cons ',' t u ts⟩

/-- The items of an array are read one after the other. -/
theorem readItems?_join (h : List.Forall₂ (Legible depth) ts vs) (hne : ts ≠ [])
    (hlimit : depth ≤ limit) (hfuel : (Text.join [','] ts).length < fuel) :
    readItems? fuel limit (Text.join [','] ts ++ ']' :: rest) = some (vs, rest) := by
  -- Every item takes one unit of fuel, and its comma makes up for it.
  induction h generalizing fuel with
  | nil => exact absurd rfl hne
  | @cons t v ts vs ht hts ih =>
      obtain ⟨fuel, rfl⟩ := Nat.exists_eq_succ_of_ne_zero (Nat.ne_zero_of_lt hfuel)
      cases hts with
      | nil =>
          rw [Text.join_singleton] at hfuel ⊢
          rw [Nat.succ_eq_add_one, readItems?,
            ht.read hlimit (Nat.le_of_lt_succ hfuel) (atEnd_cons (by decide))]
          rfl
      | @cons u w us ws hu hus =>
          rw [Text.join_cons_cons, List.length_append, List.length_cons] at hfuel
          have hothers := ih (List.cons_ne_nil u us) (show _ < fuel by omega)
          rw [Text.join_cons_cons, List.append_assoc, List.cons_append, Nat.succ_eq_add_one,
            readItems?, ht.read hlimit (by omega) (atEnd_cons (by decide))]
          change (readItems? fuel limit _).bind _ = _
          rw [hothers]
          rfl

/-- An array that begins with no closing bracket has items. -/
theorem readValue?_array (hc : 0x20 ≤ c.toNat) (hspace : c ≠ ' ') (hclosing : c ≠ ']') :
    readValue? (fuel + 1) (limit + 1) ('[' :: c :: t) =
      (readItems? fuel limit (c :: t)).map fun (vs, rest) => (.list vs, rest) := by
  rw [readValue?, skipBlanks_cons (by decide) (by decide)]
  simp [skipBlanks_cons hc hspace, hclosing]

/-- An array of legible items is legible. -/
theorem Legible.array (h : List.Forall₂ (Legible depth) ts vs) :
    Legible (depth + 1) (array ts) (.list vs) := by
  refine .of_cons (t := Text.join [','] ts ++ [']'])
    (.cons (by decide) ((isPlain_join (isPlain_of_legible h)).append (by decide)))
    (by decide) (by decide) ?_
  intro fuel limit rest hlimit hfuel hrest
  obtain ⟨k, rfl⟩ := Nat.exists_eq_add_of_lt hlimit
  rw [List.append_assoc, List.singleton_append]
  rw [List.length_append, List.length_singleton] at hfuel
  cases h with
  | nil => rfl
  | @cons t v ts vs ht hts =>
      have hitems : readItems? fuel (depth + k) (Text.join [','] (t :: ts) ++ ']' :: rest) =
          some (v :: vs, rest) :=
        readItems?_join (.cons ht hts) (List.cons_ne_nil _ _) (Nat.le_add_right _ _) hfuel
      obtain ⟨c, u, rfl, hspace, hclosing⟩ := ht.head
      obtain ⟨others, hjoin⟩ := exists_join_cons (c :: u) ts
      have hplain : 0x20 ≤ c.toNat := ht.plain c List.mem_cons_self
      rw [hjoin] at hitems ⊢
      simp only [List.cons_append] at hitems ⊢
      rw [readValue?_array hplain hspace hclosing, hitems]
      rfl

/-- The members with such names and values. -/
def namedValues (names : List Text) (vs : List Value) : Entries :=
  List.zipWith (fun name v => (.text name, v)) names vs

/-- A member is read when its value is. -/
theorem readMembers?_member (name : Text)
    (hread : readValue? fuel limit (t ++ rest) = some (v, rest)) :
    readMembers? (fuel + 1) limit (member name t ++ rest) = match skipBlanks rest with
      | ',' :: rest => do
        let (ms, rest) ← readMembers? fuel limit rest
        return ((.text name, v) :: ms, rest)
      | '\x7d' :: rest => return ([(.text name, v)], rest)
      | _ => none := by
  have hmember : member name t ++ rest =
      '"' :: (name.flatMap escaped ++ '"' :: ':' :: (t ++ rest)) := by
    simp [member, string]
  rw [hmember, readMembers?, skipBlanks_cons (by decide) (by decide)]
  change (readString? _ _).bind _ = _
  rw [readString?_string]
  change (readValue? fuel limit (t ++ rest)).bind _ = _
  rw [hread]
  rfl

/-- The members of an object are read one after the other. -/
theorem readMembers?_join (h : List.Forall₂ (Legible depth) ts vs)
    (hlength : names.length = ts.length) (hne : ts ≠ []) (hlimit : depth ≤ limit)
    (hfuel : (Text.join [','] (List.zipWith member names ts)).length < fuel) :
    readMembers? fuel limit (Text.join [','] (List.zipWith member names ts) ++ '\x7d' :: rest) =
      some (namedValues names vs, rest) := by
  induction h generalizing fuel names with
  | nil => exact absurd rfl hne
  | @cons t v ts vs ht hts ih =>
      obtain ⟨fuel, rfl⟩ := Nat.exists_eq_succ_of_ne_zero (Nat.ne_zero_of_lt hfuel)
      obtain ⟨name, names, rfl⟩ := List.exists_cons_of_length_eq_add_one hlength
      have hmember : t.length < (member name t).length := by
        simp only [member, string, List.length_append, List.length_cons]
        omega
      cases hts with
      | nil =>
          obtain rfl : names = [] := by simpa using hlength
          rw [List.zipWith_cons_cons, List.zipWith_nil_left, Text.join_singleton] at hfuel ⊢
          rw [Nat.succ_eq_add_one, readMembers?_member name
            (ht.read hlimit (by omega) (atEnd_cons (by decide)))]
          rfl
      | @cons u w us ws hu hus =>
          obtain ⟨other, names, rfl⟩ := List.exists_cons_of_length_eq_add_one
            (Nat.succ.inj hlength)
          rw [List.zipWith_cons_cons, List.zipWith_cons_cons, Text.join_cons_cons] at hfuel ⊢
          rw [List.length_append, List.length_cons] at hfuel
          have hothers := ih (Nat.succ.inj hlength) (List.cons_ne_nil u us) (show _ < fuel by
            rw [List.zipWith_cons_cons]
            omega)
          rw [List.zipWith_cons_cons] at hothers
          rw [List.append_assoc, List.cons_append, Nat.succ_eq_add_one, readMembers?_member name
            (ht.read hlimit (by omega) (atEnd_cons (by decide)))]
          change (readMembers? fuel limit _).bind _ = _
          rw [hothers]
          rfl

theorem isPlain_member (name : Text) (h : IsPlain t) : IsPlain (member name t) :=
  ((isPlain_string name).append (by decide)).append h

/-- An object of legible values is legible, whatever the names are. -/
theorem Legible.object (h : List.Forall₂ (Legible depth) ts vs)
    (hlength : names.length = ts.length) :
    Legible (depth + 1) (object names ts) (.mapping (Entries.ofPairs (namedValues names vs))) := by
  have hplain : IsPlain (Text.join [','] (List.zipWith member names ts)) := by
    refine isPlain_join fun u hu => ?_
    rw [← List.map_uncurry_zip_eq_zipWith] at hu
    obtain ⟨⟨name, t⟩, hmem, rfl⟩ := List.mem_map.1 hu
    exact isPlain_member name (isPlain_of_legible h t (List.of_mem_zip hmem).2)
  refine .of_cons (t := Text.join [','] (List.zipWith member names ts) ++ ['\x7d'])
    (.cons (by decide) (hplain.append (by decide))) (by decide) (by decide) ?_
  intro fuel limit rest hlimit hfuel hrest
  obtain ⟨k, rfl⟩ := Nat.exists_eq_add_of_lt hlimit
  rw [List.append_assoc, List.singleton_append]
  rw [List.length_append, List.length_singleton] at hfuel
  cases h with
  | nil =>
      obtain rfl : names = [] := by simpa using hlength
      rfl
  | @cons t v ts vs ht hts =>
      obtain ⟨name, names, rfl⟩ := List.exists_cons_of_length_eq_add_one hlength
      have hmembers : readMembers? fuel (depth + k)
          (Text.join [','] (List.zipWith member (name :: names) (t :: ts)) ++ '\x7d' :: rest) =
            some (namedValues (name :: names) (v :: vs), rest) :=
        readMembers?_join (.cons ht hts) hlength (List.cons_ne_nil _ _) (Nat.le_add_right _ _) hfuel
      obtain ⟨others, hjoin⟩ := exists_join_cons (member name t) (List.zipWith member names ts)
      rw [List.zipWith_cons_cons, hjoin] at hmembers ⊢
      have hopen : readValue? (fuel + 1) (depth + k + 1)
          ('\x7b' :: (member name t ++ others ++ '\x7d' :: rest)) =
        (readMembers? fuel (depth + k) (member name t ++ others ++ '\x7d' :: rest)).map
          fun (ms, rest) => (.mapping (Entries.ofPairs ms), rest) := rfl
      rw [hopen, hmembers]
      rfl

/-! ## Writing -/

theorem exists_forall₂_legible {α : Type} {R : α → Text → Prop} {xs : List α}
    (h : List.Forall₂ R xs ts) (hlegible : ∀ x ∈ xs, ∀ t, R x t → ∃ v, Legible depth t v) :
    ∃ vs, List.Forall₂ (Legible depth) ts vs := by
  induction h with
  | nil => exact ⟨[], .nil⟩
  | @cons x t xs ts hx hxs ih =>
      obtain ⟨hfirst, hothers⟩ := List.forall_mem_cons.1 hlegible
      obtain ⟨v, hv⟩ := hfirst t hx
      obtain ⟨vs, hvs⟩ := ih hothers
      exact ⟨v :: vs, .cons hv hvs⟩

end Json

namespace Value

mutual

/-- Whether the floating-point numbers among the items of a value have 64 bits. -/
def fits : Value → Bool
  | float x => decide x.Fits
  | list items => allFit items
  | tuple items => allFit items
  | mapping entries => valuesFit entries
  | _ => true

/-- Whether those of all values of a list have. -/
def allFit : List Value → Bool
  | [] => true
  | v :: vs => fits v && allFit vs

/-- Whether those of all values of a mapping have. -/
def valuesFit : List (Value × Value) → Bool
  | [] => true
  | (_, v) :: entries => fits v && valuesFit entries

end

theorem allFit_iff {items : List Value} : allFit items = true ↔ ∀ v ∈ items, v.fits = true := by
  induction items with
  | nil => simp [allFit]
  | cons v items ih => simp [allFit, ih]

theorem valuesFit_iff {entries : Entries} :
    valuesFit entries = true ↔ ∀ e ∈ entries, e.2.fits = true := by
  induction entries with
  | nil => simp [valuesFit]
  | cons e entries ih => simp [valuesFit, ih]

end Value

/-- Whether the floating-point numbers in data have 64 bits. -/
def Data.fits (data : Data) : Bool := data.root.fits && data.pool.toList.all Value.fits

namespace Json

variable {pool : Pool}

theorem fits_reveal (hpool : ∀ w ∈ pool.toList, w.fits = true) (hv : v.fits = true) :
    (pool.reveal v).fits = true := by
  unfold Pool.reveal
  split
  · rename_i number
    by_cases hnumber : number < pool.size
    · rw [Array.getD_eq_getD_getElem?, Array.getElem?_eq_getElem hnumber]
      exact hpool _ (Array.getElem_mem_toList hnumber)
    · rw [Array.getD_eq_getD_getElem?, Array.getElem?_eq_none (not_lt.1 hnumber)]
      rfl
  · exact hv

/-- A value that is no container is written as something legible. -/
theorem exists_legible_of_writeScalar (hv : v.fits = true) (h : writeScalar pool v = .ok t) :
    ∃ w, Legible (depth + 1) t w := by
  have hfallback : (fallback pool v).map string = .ok t → ∃ w, Legible (depth + 1) t w := by
    intro h
    obtain ⟨shown, -, rfl⟩ := Outcome.map_eq_ok_iff.1 h
    exact ⟨_, legible_string shown⟩
  cases v with
  | null =>
      cases h
      exact ⟨_, legible_null⟩
  | bool b =>
      cases h
      exact ⟨_, legible_bool b⟩
  | int n =>
      change (if isWord n then .ok (Number.digits n) else .error Fault.integer) = Except.ok t at h
      by_cases hword : isWord n = true
      · rw [if_pos hword] at h
        cases h
        obtain ⟨m, hm, htext⟩ := exists_numeral_digits hword
        exact ⟨_, htext ▸ hm.legible⟩
      · rw [if_neg hword] at h
        cases h
  | float x =>
      cases h
      cases x with
      | nan => exact ⟨_, legible_null⟩
      | infinite negative => exact ⟨_, legible_null⟩
      | finite negative m q =>
          rw [Value.fits, decide_eq_true_iff] at hv
          obtain ⟨n, hn, htext⟩ := exists_numeral_render .json hv
          exact ⟨_, htext ▸ hn.legible⟩
  | text s =>
      cases h
      exact ⟨_, legible_string s⟩
  | date d =>
      cases h
      exact ⟨_, legible_string _⟩
  | moment m =>
      cases h
      exact ⟨_, legible_string _⟩
  | tuple items =>
      cases h
      exact ⟨_, Legible.array .nil⟩
  | _ => exact hfallback h

/-- What is written is legible, as it were with one more container inside it: an empty tuple is
written also where no container may stand. -/
theorem exists_legible_of_write (hpool : ∀ w ∈ pool.toList, w.fits = true) (hv : v.fits = true)
    (h : write pool depth v = .ok t) : ∃ w, Legible (depth + 1) t w := by
  induction depth generalizing v t with
  | zero =>
      have hfits := fits_reveal hpool hv
      rw [write] at h
      split at h
      · cases h
      · cases h
      · cases h
      · exact exists_legible_of_writeScalar hfits h
  | succ depth ih =>
      have hfits := fits_reveal hpool hv
      have harray : ∀ items : List Value, (∀ v ∈ items, v.fits = true) →
          (items.mapM (write pool depth)).map array = .ok t →
            ∃ w, Legible (depth + 1 + 1) t w := by
        intro items hitems h
        obtain ⟨ts, hts, rfl⟩ := Outcome.map_eq_ok_iff.1 h
        obtain ⟨vs, hvs⟩ := exists_forall₂_legible (Outcome.forall₂_of_mapM_eq_ok hts)
          fun v hmem t ht => ih (hitems v hmem) ht
        exact ⟨_, .array hvs⟩
      rw [write] at h
      split at h
      · rename_i items heq
        rw [heq, Value.fits, Value.allFit_iff] at hfits
        exact harray items hfits h
      · rename_i items heq
        rw [heq, Value.fits, Value.allFit_iff] at hfits
        exact harray items hfits h
      · rename_i entries heq
        rw [heq, Value.fits, Value.valuesFit_iff] at hfits
        obtain ⟨names, hnames, h⟩ := Outcome.bind_eq_ok_iff.1 h
        obtain ⟨ts, hts, h⟩ := Outcome.bind_eq_ok_iff.1 h
        obtain rfl := Outcome.pure_eq_ok_iff.1 h
        have hvalues := Outcome.forall₂_of_mapM_eq_ok hts
        have hlength : names.length = ts.length :=
          (Outcome.forall₂_of_mapM_eq_ok hnames).length_eq.symm.trans hvalues.length_eq
        obtain ⟨vs, hvs⟩ := exists_forall₂_legible hvalues fun e hmem t ht => ih (hfits e hmem) ht
        exact ⟨_, .object hvs hlength⟩
      · exact exists_legible_of_writeScalar hfits h

/-! ## Documents -/

/-- A legible text is the text of a document. -/
theorem Legible.readText? (h : Legible depth t v) (hdepth : depth ≤ depthLimit) :
    readText? t = some v := by
  have hread : readValue? (2 * t.length + 2) depthLimit (t ++ []) = some (v, []) :=
    h.read hdepth (by omega) (by simp [AtEnd])
  rw [List.append_nil] at hread
  rw [Json.readText?, hread]
  rfl

/-- A legible text, encoded, is a JSON document. -/
theorem Legible.read? (h : Legible depth t v) (hdepth : depth ≤ depthLimit) :
    read? (Text.Utf8.encode t) = some v := by
  rw [Json.read?, Text.Utf8.decode_encode]
  exact h.readText? hdepth

end Json
end Stencil
