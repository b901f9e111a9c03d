import Stencil.Proofs.CommandLine.Refusal
import Stencil.Proofs.Value.Rearrangement
import Stencil.Proofs.Value.Separation

/-!
# Settings keep to their own place

In data that are a tree, two names lead to different places, and what lies at one is not seen from
the other unless one name is the beginning of the other.  So a setting leaves everything alone that
other names lead to, as long as its own name passes mappings only: whatever else is on its way is
overwritten.  Two settings of which neither name begins the other can be applied in either order;
the results differ at most in the order of entries.

Main results:

- Definition `Passable`: keys that pass mappings only, or what is missing.
- Theorem `Passable.resolve_eq`: what such keys find lies at their site.
- Theorem `avoids_of_unaliased`: what lies beside a place does not contain the collection that the
  place is in.
- Theorem `alike_place`: two values placed in either order.
- Theorem `settings_keep_to_their_place`: a setting leaves other paths alone, and settings with
  independent names commute.
-/

namespace Stencil
namespace CommandLine

open Value

variable {data : Data} {pool : Pool} {v : Value} {keys path beside common : List Text}
  {entries : Entries} {number : Nat} {a b : Assignment}

/-! ## Sites in a tree -/

/-- The entries of a mapping stand one step below it. -/
theorem part?_key (h : entriesOf? pool v = some entries) (key : Text) :
    part? pool v (.key key) = Entries.find? key entries := by
  rw [part?, entriesOf?_eq_some_iff.1 h, ownPart?]

/-- What lies at the site of some keys stands at their position. -/
theorem standing?_of_held? (h : held? data (siteOf data keys) = some v) :
    standing? data.pool data.root (keys.map Step.key) = some v := by
  induction keys using List.reverseRecOn generalizing v with
  | nil => exact h
  | append_singleton keys key ih =>
      rw [siteOf_concat, held?_under] at h
      obtain ⟨u, hu, hentry⟩ := Option.bind_eq_some_iff.1 h
      obtain ⟨entries, hentries, hfind⟩ := Option.bind_eq_some_iff.1 hentry
      have hpart := (part?_key hentries key).trans hfind
      rw [List.map_append, standing?_append, ih hu, Option.bind_some, List.map_singleton,
        standing?_cons, hpart]
      rfl

theorem standing?_of_mount? (h : mount? data (siteOf data keys) = some number) :
    standing? data.pool data.root (keys.map Step.key) = some (.shared number) := by
  obtain ⟨v, hv, hshared⟩ := Option.bind_eq_some_iff.1 h
  obtain ⟨rfl, -⟩ := sharedMapping?_eq_some_iff.1 hshared
  exact standing?_of_held? hv

theorem map_key_injective : Function.Injective (List.map Step.key) :=
  List.map_injective_iff.2 fun _ _ h => Step.key.inj h

/-- In a tree no mapping is reached by different keys. -/
theorem unshared_of_unaliased (h : data.Unaliased) : Unshared data :=
  fun number _ _ hfirst hsecond => map_key_injective
    (h number _ _ (standing?_of_mount? hfirst) (standing?_of_mount? hsecond))

/-- What lies at some keys contains no collection that other keys pass, unless these begin with
them. -/
theorem avoids_of_unaliased (htree : data.Unaliased) (hbase : (siteOf data keys).base = some number)
    (h : ¬ beside <+: keys) :
    Avoids data.pool number ((held? data (siteOf data beside)).getD .null) := by
  cases hv : held? data (siteOf data beside) with
  | none => exact avoids_of_isScalar rfl
  | some v =>
      intro position hposition
      obtain ⟨front, hkeys, hmount⟩ := exists_mount_of_siteOf data keys
      rw [hbase] at hmount
      have hbelow : standing? data.pool data.root (beside.map Step.key ++ position) =
          some (.shared number) := by
        rw [standing?_append, standing?_of_held? hv]
        exact hposition
      have hsame := htree number _ _ (standing?_of_mount? hmount) hbelow
      obtain ⟨start, more, rfl, hstart, -⟩ := List.map_eq_append_iff.1 hsame
      obtain rfl := map_key_injective hstart
      exact h (hkeys ▸ (List.prefix_append _ _).trans (List.prefix_append _ _))

/-! ## Keys that pass mappings -/

/-- Keys that pass nothing but mappings and null, before they end.  What is missing is null. -/
def Passable (data : Data) (keys : List Text) : Prop :=
  ∀ front, front <+: keys → front ≠ keys →
    ∃ w, data.root.resolve data.pool front = .ok w ∧
      (w = .null ∨ (entriesOf? data.pool w).isSome)

/-- Keys that fork off are passable as far as the others are. -/
theorem Passable.fork {x y : Text} {xs : List Text} (h : Passable data (common ++ x :: xs)) :
    Passable data (common ++ [y]) := by
  intro front hfront hne
  have hcommon := (List.prefix_concat_iff.1 hfront).resolve_left hne
  refine h front (hcommon.trans (List.prefix_append _ _)) ?_
  rintro rfl
  exact absurd hcommon.length_le (by simp)

theorem Passable.of_concat {key : Text} (h : Passable data (keys ++ [key])) :
    Passable data keys := by
  intro front hfront _
  refine h front (hfront.trans (List.prefix_append _ _)) ?_
  rintro rfl
  exact absurd hfront.length_le (by simp)

/-- What passable keys find lies at their site. -/
theorem Passable.resolve_eq (h : Passable data keys) :
    data.root.resolve data.pool keys = .ok ((held? data (siteOf data keys)).getD .null) := by
  induction keys using List.reverseRecOn with
  | nil => rw [resolve_nil]; rfl
  | append_singleton keys key ih =>
      have hfront := ih h.of_concat
      obtain ⟨w, hw, hmapping⟩ := h keys (List.prefix_append _ _) (by simp)
      obtain rfl := Except.ok.inj (hfront.symm.trans hw)
      rw [resolve_append hfront, siteOf_concat, held?_under]
      cases hheld : held? data (siteOf data keys) with
      | none => exact resolve_null _ _
      | some v =>
          rw [hheld, Option.getD_some] at hmapping
          rw [Option.getD_some, Option.bind_some]
          obtain rfl | hentries := hmapping
          · exact resolve_null _ _
          · obtain ⟨entries, hentries⟩ := Option.isSome_iff_exists.1 hentries
            rw [resolve_cons (ne_null_of_entriesOf? hentries), step_of_entriesOf? hentries,
              hentries, Option.bind_some]
            cases Entries.find? key entries with
            | none => rfl
            | some u => exact resolve_nil _ _

/-- Keys at whose end something lies have passed mappings only. -/
theorem passable_of_held? (h : held? data (siteOf data keys) = some v) : Passable data keys := by
  rintro front ⟨more, rfl⟩ hne
  rcases more with - | ⟨key, more⟩
  · exact absurd (List.append_nil _).symm hne
  · have hsite : siteOf data (front ++ key :: more) =
        more.foldl (under data) (under data (siteOf data front) key) := by
      rw [siteOf, List.foldl_append, List.foldl_cons, ← siteOf]
    cases hnext : held? data (under data (siteOf data front) key) with
    | none =>
        rw [hsite, (foldl_under_of_none hnext more).2] at h
        cases h
    | some u =>
        rw [held?_under] at hnext
        obtain ⟨w, hw, hentry⟩ := Option.bind_eq_some_iff.1 hnext
        obtain ⟨entries, hentries, -⟩ := Option.bind_eq_some_iff.1 hentry
        exact ⟨w, resolve_of_held? hw, .inr (Option.isSome_of_eq_some hentries)⟩

/-! ## One setting -/

/-- Lists of which neither is the beginning of the other fork somewhere. -/
theorem exists_fork {first second : List Text} (h : ¬ first <+: second) (h' : ¬ second <+: first) :
    ∃ common x xs y ys, first = common ++ x :: xs ∧ second = common ++ y :: ys ∧ x ≠ y := by
  induction first generalizing second with
  | nil => exact absurd List.nil_prefix h
  | cons x xs ih =>
      rcases second with - | ⟨y, ys⟩
      · exact absurd List.nil_prefix h'
      · by_cases hxy : x = y
        · subst hxy
          rw [List.cons_prefix_cons] at h h'
          obtain ⟨common, x', xs', y', ys', rfl, rfl, hne⟩ :=
            ih (fun hp => h ⟨rfl, hp⟩) (fun hp => h' ⟨rfl, hp⟩)
          exact ⟨x :: common, x', xs', y', ys', rfl, rfl, hne⟩
        · exact ⟨[], x, xs, y, ys, rfl, rfl, hxy⟩

theorem not_prefix_of_fork {x y : Text} (h : x ≠ y) (common xs ys : List Text) :
    ¬ common ++ x :: xs <+: common ++ y :: ys := by
  rw [List.prefix_append_right_inj, List.cons_prefix_cons]
  exact fun hprefix => h hprefix.1

/-- Where the mapping is kept that a setting writes its last key to. -/
def Assignment.home (a : Assignment) (data : Data) : Site :=
  settle data (siteOf data (placeOf a.name).1)

theorem Assignment.siteOf_keys (a : Assignment) (data : Data) :
    siteOf data a.keys = ⟨(a.home data).base, (a.home data).keys ++ [(placeOf a.name).2]⟩ := by
  rw [← a.keys_eq, siteOf_concat, under, home]

theorem Assignment.trunk_apply_of_eq {base : Option Nat} (h : base = (a.home data).base) :
    trunk (a.apply data) base =
      .mapping (place (a.home data).keys (placeOf a.name).2 a.value (own (trunk data base))) := by
  rw [h]
  exact trunk_placeIn _ _ _ _

/-- A setting changes nothing on another base than its own. -/
theorem Assignment.trunk_apply_of_ne {base : Option Nat} (h : base ≠ (a.home data).base) :
    trunk (a.apply data) base = trunk data base :=
  trunk_placeIn_of_ne h _ _

theorem Assignment.pool_apply (h : (a.home data).base = none) :
    (a.apply data).pool = data.pool := by
  rw [home] at h
  simp only [Assignment.apply, placeIn_eq, h, graft]

/-- From what lies at keys that do not lead to the place of a setting, everything looks as it did
before. -/
theorem seen_apply (htree : data.Unaliased) (hv : (held? data (siteOf data beside)).getD .null = v)
    (h : ¬ beside <+: a.keys) :
    v.resolve (a.apply data).pool path = v.resolve data.pool path ∧
      ∀ w, v.resolve data.pool path = .ok w →
        ∀ position, standing? (a.apply data).pool w position = standing? data.pool w position := by
  cases hbase : (a.home data).base with
  | none =>
      rw [a.pool_apply hbase]
      exact ⟨rfl, fun _ _ _ => rfl⟩
  | some number =>
      have hpool : ∀ other, other ≠ number →
          (a.apply data).pool.getD other .null = data.pool.getD other .null := by
        intro other hne
        have hother : some other ≠ (a.home data).base := by
          rw [hbase]
          exact fun heq => hne (Option.some.inj heq)
        exact a.trunk_apply_of_ne hother
      have hsite : (siteOf data a.keys).base = some number := by rw [a.siteOf_keys, hbase]
      have havoids := hv ▸ avoids_of_unaliased htree hsite h
      exact ⟨havoids.resolve_congr hpool path,
        fun w hw => (havoids.of_resolve hw).standing?_congr hpool⟩

/-- A setting whose keys pass mappings only leaves alone what other keys lead to. -/
theorem Passable.resolve_apply (hpass : Passable data a.keys) (htree : data.Unaliased)
    (h : ¬ a.keys <+: path) (h' : ¬ path <+: a.keys) :
    (a.apply data).root.resolve (a.apply data).pool path = data.root.resolve data.pool path ∧
      ∀ w, data.root.resolve data.pool path = .ok w →
        ∀ position, standing? (a.apply data).pool w position = standing? data.pool w position := by
  have hshared := unshared_of_unaliased htree
  have hafter := passable_of_held? (hshared.straight a.keys).held?_apply
  obtain ⟨common, x, xs, y, ys, hkeys, rfl, hxy⟩ := exists_fork h h'
  have hfork : ¬ common ++ [y] <+: a.keys := hkeys ▸ not_prefix_of_fork hxy.symm _ _ _
  have hfork' : ¬ a.keys <+: common ++ [y] := hkeys ▸ not_prefix_of_fork hxy _ _ _
  have hapart : Apart data (common ++ [y]) a.keys :=
    ⟨mt hshared.onWay_iff.1 hfork, mt hshared.onWay_iff.1 hfork'⟩
  -- Where the path forks off lies what lay there, and from there on nothing has changed.
  rw [hkeys] at hpass hafter
  have hbefore := (hpass.fork (y := y)).resolve_eq
  have hnow := (hafter.fork (y := y)).resolve_eq
  rw [hapart.held?_apply (by simp)] at hnow
  rw [List.append_cons, resolve_append hbefore, resolve_append hnow]
  exact seen_apply htree rfl hfork

/-! ## Two settings -/

theorem inner_put_of_ne {key other : Text} (h : other ≠ key) (value : Value) (entries : Entries) :
    inner other (entries.put (.text key) value) = inner other entries := by
  rw [inner, Entries.find?_put_of_ne h, inner]

/-- What a value is placed under: the first of its keys, with something made of the mapping that was
there. -/
theorem exists_place_eq_put (parents : List Text) (last : Text) (value : Value) :
    ∃ placed : Entries → Value, ∀ entries,
      place parents last value entries =
        entries.put (.text (parents.headD last)) (placed (inner (parents.headD last) entries)) := by
  cases parents with
  | nil => exact ⟨fun _ => value, fun _ => rfl⟩
  | cons key rest => exact ⟨fun found => .mapping (place rest last value found), fun _ => rfl⟩

section Placing

variable {parents parents' : List Text} {last last' : Text}

theorem alike_place_of_ne (h : parents.headD last ≠ parents'.headD last') (value value' : Value)
    (entries : Entries) :
    (Value.mapping (place parents last value (place parents' last' value' entries))).Alike
      (.mapping (place parents' last' value' (place parents last value entries))) := by
  obtain ⟨placed, hplaced⟩ := exists_place_eq_put parents last value
  obtain ⟨placed', hplaced'⟩ := exists_place_eq_put parents' last' value'
  simp only [hplaced, hplaced', inner_put_of_ne h, inner_put_of_ne h.symm]
  exact Entries.alike_of_perm (Entries.put_put_perm h _ _ _)

/-- Two values placed below one key are placed one after the other in the mapping there. -/
theorem place_place_cons (key : Text) (rest rest' : List Text) (value value' : Value)
    (entries : Entries) :
    place (key :: rest) last value (place (key :: rest') last' value' entries) =
      entries.put (.text key)
        (.mapping (place rest last value (place rest' last' value' (inner key entries)))) := by
  rw [place, inner_place_cons, place, Entries.put_put_same]

/-- Two values placed in either order, at places of which neither is above the other. -/
theorem alike_place (h : ¬ parents ++ [last] <+: parents' ++ [last'])
    (h' : ¬ parents' ++ [last'] <+: parents ++ [last]) (value value' : Value) (entries : Entries) :
    (Value.mapping (place parents last value (place parents' last' value' entries))).Alike
      (.mapping (place parents' last' value' (place parents last value entries))) := by
  induction parents generalizing parents' entries with
  | nil =>
      refine alike_place_of_ne ?_ value value' entries
      rintro rfl
      cases parents' <;> simp at h
  | cons key rest ih =>
      rcases parents' with - | ⟨key', rest'⟩
      · refine alike_place_of_ne ?_ value value' entries
        rintro rfl
        simp at h'
      · by_cases heq : key = key'
        · subst heq
          rw [List.cons_append, List.cons_append, List.cons_prefix_cons] at h h'
          have hinside := ih (fun hp => h ⟨rfl, hp⟩) (fun hp => h' ⟨rfl, hp⟩) (inner key entries)
          rw [place_place_cons, place_place_cons]
          exact Entries.alike_put hinside key entries
        · have hheads : (key :: rest).headD last ≠ (key' :: rest').headD last' := heq
          exact alike_place_of_ne hheads _ _ _

end Placing

/-- A setting leaves alone where others write, unless their keys begin with its own. -/
theorem Assignment.home_apply (hshared : Unshared data) (h : ¬ a.keys <+: b.keys) :
    b.home (a.apply data) = b.home data := by
  have hparents : ¬ a.keys <+: (placeOf b.name).1 := by
    intro hp
    exact h (b.keys_eq ▸ hp.trans (List.prefix_append _ _))
  have hsite : siteOf (a.apply data) (placeOf b.name).1 = siteOf data (placeOf b.name).1 := by
    refine a.siteOf_apply fun front hfront _ heq => hparents ?_
    rwa [← hshared.siteOf_inj heq]
  have hmount : mount? (a.apply data) (siteOf data (placeOf b.name).1) =
      mount? data (siteOf data (placeOf b.name).1) :=
    a.mount?_apply fun habove =>
      hparents (hshared.onWay_iff.1 (onWay_of_above habove a.keys_ne_nil))
  rw [home, hsite, settle, hmount, home, settle]

/-- Settings of which neither keys begin with the others can be applied in either order. -/
theorem alike_apply (hshared : Unshared data) (h : ¬ a.keys <+: b.keys) (h' : ¬ b.keys <+: a.keys) :
    (b.apply (a.apply data)).Alike (a.apply (b.apply data)) := by
  have hb : b.home (a.apply data) = b.home data := Assignment.home_apply hshared h
  have ha : a.home (b.apply data) = a.home data := Assignment.home_apply hshared h'
  have htrunk : ∀ base,
      (trunk (b.apply (a.apply data)) base).Alike (trunk (a.apply (b.apply data)) base) := by
    intro base
    by_cases hfirst : base = (a.home data).base <;> by_cases hsecond : base = (b.home data).base
    · -- Both write to one base; there, neither place is above the other.
      have hbeside : ∀ {c d : Assignment}, base = (c.home data).base → base = (d.home data).base →
          ¬ c.keys <+: d.keys → ¬ (c.home data).keys ++ [(placeOf c.name).2] <+:
            (d.home data).keys ++ [(placeOf d.name).2] := by
        intro c d hc hd hne hp
        refine hne (hshared.onWay_iff.1 (onWay_of_above ?_ c.keys_ne_nil))
        rw [c.siteOf_keys, d.siteOf_keys]
        exact ⟨hc.symm.trans hd, hp⟩
      rw [b.trunk_apply_of_eq (hb ▸ hsecond), a.trunk_apply_of_eq hfirst,
        a.trunk_apply_of_eq (ha ▸ hfirst), b.trunk_apply_of_eq hsecond, ha, hb]
      exact alike_place (hbeside hsecond hfirst h') (hbeside hfirst hsecond h) _ _ _
    · rw [b.trunk_apply_of_ne (hb ▸ hsecond), a.trunk_apply_of_eq hfirst,
        a.trunk_apply_of_eq (ha ▸ hfirst), b.trunk_apply_of_ne hsecond, ha]
      exact .refl _
    · rw [b.trunk_apply_of_eq (hb ▸ hsecond), a.trunk_apply_of_ne hfirst,
        a.trunk_apply_of_ne (ha ▸ hfirst), b.trunk_apply_of_eq hsecond, hb]
      exact .refl _
    · rw [b.trunk_apply_of_ne (hb ▸ hsecond), a.trunk_apply_of_ne hfirst,
        a.trunk_apply_of_ne (ha ▸ hfirst), b.trunk_apply_of_ne hsecond]
      exact .refl _
  exact ⟨htrunk none, fun number => htrunk (some number)⟩

/-- In data that are a tree, a setting whose keys pass mappings only leaves alone what other paths
lead to, with all that stands below it, unless a path begins with the keys or they with it.  Two
settings of which neither keys begin with the others give the same in either order, but for the
order of entries.  Settings that fail do so in either order. -/
theorem settings_keep_to_their_place (htree : data.Unaliased) :
    (∀ (a : Assignment) (path : List Text), ¬ a.keys <+: path → ¬ path <+: a.keys →
      Passable data a.keys →
      ∃ result, applySettings data [a.setting] = .ok result ∧
        result.root.resolve result.pool path = data.root.resolve data.pool path ∧
        ∀ w, data.root.resolve data.pool path = .ok w →
          ∀ position, standing? result.pool w position = standing? data.pool w position) ∧
    (∀ a b : Assignment, ¬ a.keys <+: b.keys → ¬ b.keys <+: a.keys →
      ∃ result result', applySettings data [a.setting, b.setting] = .ok result ∧
        applySettings data [b.setting, a.setting] = .ok result' ∧ result.Alike result') ∧
    ∀ first second,
      (∃ fault, applySettings data [first, second] = .error fault) ↔
        ∃ fault, applySettings data [second, first] = .error fault := by
  refine ⟨fun a path h h' hpass => ?_, fun a b h h' => ?_, fun first second => ?_⟩
  · exact ⟨a.apply data, applySettings_map [a] data, hpass.resolve_apply htree h h'⟩
  · exact ⟨_, _, applySettings_map [a, b] data, applySettings_map [b, a] data,
      alike_apply (unshared_of_unaliased htree) h h'⟩
  · simp only [applySettings_eq_error_iff]
    rw [exists_firstRefusal_iff, exists_firstRefusal_iff]
    simp [or_comm]

/-- Data whose root is kept in the pool, with a mapping in it. -/
def nestedData : Data :=
  ⟨.shared 0, #[.mapping [(.text "a", .shared 1), (.text "b", .int 0)],
    .mapping [(.text "k", .int 1)]]⟩

theorem unaliased_nestedData : nestedData.Unaliased := by
  have hjson : (Value.mapping [(.text "k", .int 1)]).IsJson :=
    (JsonEntries.cons (by simp [JsonEntries]) "k" (.int (by decide))).isJson
  have hplace : ∀ number position,
      standing? nestedData.pool nestedData.root position = some (.shared number) →
        position = if number = 0 then [] else [.key "a"] := by
    rintro number (- | ⟨name | n, position⟩) h
    · cases h
      rfl
    · rw [standing?_cons] at h
      obtain ⟨w, hw, hbelow⟩ := Option.bind_eq_some_iff.1 h
      have hentry : Entries.find? name [(.text "a", .shared 1), (.text "b", .int 0)] = some w := hw
      simp only [Entries.find?, Value.isText, decide_eq_true_eq] at hentry
      split at hentry
      · rename_i ha
        obtain rfl := Option.some.inj hentry
        rcases position with - | ⟨step, position⟩
        · cases hbelow
          rw [← ha]
          rfl
        · exact absurd hbelow (hjson.avoids (step :: position))
      · split at hentry
        · obtain rfl := Option.some.inj hentry
          exact absurd hbelow (avoids_of_isScalar rfl position)
        · cases hentry
    · cases h
  intro number first second hfirst hsecond
  rw [hplace number first hfirst, hplace number second hsecond]

/-- A setting adds an entry beside another one; settings in a mapping and beside it commute. -/
theorem settings_keep_to_their_place_nested :
    (∃ result, applySettings nestedData ["a.m=1"] = .ok result ∧
      result.root.resolve result.pool ["a", "k"] = .ok (.int 1)) ∧
    ∃ result result', applySettings nestedData ["a.m=1", "b.c=2"] = .ok result ∧
      applySettings nestedData ["b.c=2", "a.m=1"] = .ok result' ∧ result.Alike result' := by
  let a : Assignment := ⟨"a.m", "1", .int 1, by decide, rfl⟩
  let b : Assignment := ⟨"b.c", "2", .int 2, by decide, rfl⟩
  obtain ⟨hone, htwo, -⟩ := settings_keep_to_their_place unaliased_nestedData
  have hbeside : Passable nestedData (["a"] ++ ["k"]) :=
    passable_of_held? (v := .int 1) rfl
  have hpass : Passable nestedData a.keys := hbeside.fork
  constructor
  · obtain ⟨result, hresult, hpath, -⟩ := hone a ["a", "k"] (by decide) (by decide) hpass
    exact ⟨result, hresult, hpath⟩
  · exact htwo a b (by decide) (by decide)

end CommandLine
end Stencil
