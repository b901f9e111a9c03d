import Mathlib.Data.List.Infix
import Stencil.CommandLine.Setting
import Stencil.Proofs.Value.Addressing

/-!
# The places that settings write to

A dotted name leads through mappings to a place.  Where the mappings are shared, different names can
lead to one place, and a name can come back to a place where it was before.  A site says where a
place really is: below the root, or below the shared mapping that was entered last.  A setting
changes what lies at its own site and below it, and makes mappings above it; everywhere else names
lead where they led.

Main results:

- Definitions `Site` and `siteOf`: where a list of keys leads.
- Theorem `resolve_of_held?`: what lies at the site of a name is what a template finds by it.
- Theorem `placeIn_eq`: a value is written to the site of its name.
- Theorem `siteOf_placeIn`: a name that does not pass the site keeps its own site.
- Theorem `held?_siteOf_placeIn`: what lies there stays, unless the setting passes it.
-/

namespace Stencil
namespace CommandLine

/-- A place in data: some keys below the root, or below the shared mapping of a number. -/
@[ext]
structure Site where
  base : Option Nat
  keys : List Text
deriving DecidableEq

variable {data : Data} {pool : Pool} {v w value : Value} {key last : Text}
  {keys parents : List Text} {s t : Site} {number : Nat}

/-! ## Below a value -/

/-- The entry of a mapping under a key.  A number of the pool is not looked up. -/
def inner? (v : Value) (key : Text) : Option Value :=
  match v with
  | .mapping entries => Entries.find? key entries
  | _ => none

/-- What keys lead to below a value, inside unshared mappings. -/
def below? (v : Value) (keys : List Text) : Option Value := keys.foldlM inner? v

/-- The entries of a value that is itself a mapping; otherwise none. -/
def own (v : Value) : Entries :=
  match v with
  | .mapping entries => entries
  | _ => []

@[simp]
theorem below?_nil (v : Value) : below? v [] = some v := rfl

@[simp]
theorem below?_cons (v : Value) (key : Text) (keys : List Text) :
    below? v (key :: keys) = (inner? v key).bind (below? · keys) := rfl

theorem below?_concat (v : Value) (keys : List Text) (key : Text) :
    below? v (keys ++ [key]) = (below? v keys).bind (inner? · key) := by
  simp only [below?, List.foldlM_append, List.foldlM_cons, List.foldlM_nil]
  cases List.foldlM inner? v keys <;> simp

@[simp]
theorem own_mapping (entries : Entries) : own (.mapping entries) = entries := rfl

theorem inner?_eq_find?_own (v : Value) (key : Text) :
    inner? v key = Entries.find? key (own v) := by
  cases v <;> rfl

theorem inner_own (key : Text) (v : Value) :
    inner key (own v) = own ((inner? v key).getD .null) := by
  rw [inner?_eq_find?_own, inner]
  rcases Entries.find? key (own v) with - | w
  · rfl
  · cases w <;> rfl

/-- A value is found where it was placed. -/
theorem below?_place_self (parents : List Text) (last : Text) (value : Value) (entries : Entries) :
    below? (.mapping (place parents last value entries)) (parents ++ [last]) = some value := by
  induction parents generalizing entries with
  | nil => simp [place, inner?]
  | cons key rest ih => simp [place, inner?, ih]

/-- There are mappings on the way to a place. -/
theorem exists_below?_place (h : keys <+: parents) (last : Text) (value : Value)
    (entries : Entries) :
    ∃ found, below? (.mapping (place parents last value entries)) keys = some (.mapping found) := by
  induction parents generalizing keys entries with
  | nil =>
      rw [List.prefix_nil.1 h]
      exact ⟨_, rfl⟩
  | cons key rest ih =>
      cases keys with
      | nil => exact ⟨_, rfl⟩
      | cons first keys =>
          obtain ⟨rfl, hrest⟩ := List.cons_prefix_cons.1 h
          obtain ⟨found, hfound⟩ := ih hrest (inner first entries)
          exact ⟨found, by simp [place, inner?, hfound]⟩

/-- Beside the way to a place everything is as it was. -/
theorem below?_place_of_apart (h : ¬ keys <+: parents ++ [last])
    (h' : ¬ parents ++ [last] <+: keys) (value v : Value) :
    below? (.mapping (place parents last value (own v))) keys = below? v keys := by
  induction parents generalizing keys v with
  | nil =>
      rcases keys with - | ⟨first, keys⟩
      · exact absurd List.nil_prefix h
      · have hne : first ≠ last := by
          rintro rfl
          exact h' (by simp)
        simp [place, inner?_eq_find?_own, Entries.find?_put_of_ne hne]
  | cons key rest ih =>
      rcases keys with - | ⟨first, keys⟩
      · exact absurd List.nil_prefix h
      · by_cases heq : first = key
        · subst heq
          rw [List.cons_append, List.cons_prefix_cons] at h h'
          have hkeys : keys ≠ [] := by
            rintro rfl
            exact h ⟨rfl, List.nil_prefix⟩
          have hinside := ih (fun hk => h ⟨rfl, hk⟩) (fun hk => h' ⟨rfl, hk⟩)
            ((inner? v first).getD .null)
          -- Where there was no mapping, the new one has nothing beside the place either.
          rw [below?_cons, inner?_eq_find?_own, own_mapping, place, Entries.find?_put_same,
            Option.bind_some, inner_own, hinside, below?_cons]
          cases inner? v first with
          | some w => rfl
          | none =>
              obtain ⟨second, keys, rfl⟩ := List.exists_cons_of_ne_nil hkeys
              rfl
        · simp [place, inner?_eq_find?_own, Entries.find?_put_of_ne heq]

/-! ## Shared mappings -/

theorem entriesOf?_eq_some_iff {entries : Entries} :
    entriesOf? pool v = some entries ↔ pool.reveal v = .mapping entries := by
  unfold entriesOf?
  split
  · rename_i found hfound
    rw [hfound, Option.some.injEq, Value.mapping.injEq]
  · rename_i hnone
    simpa using hnone entries

/-- A shared mapping is a number, and the pool has a mapping there. -/
theorem sharedMapping?_eq_some_iff :
    sharedMapping? pool v = some number ↔
      v = .shared number ∧ ∃ entries, pool.getD number .null = .mapping entries := by
  constructor
  · intro h
    unfold sharedMapping? at h
    split at h
    · obtain ⟨entries, hentries, rfl⟩ := Option.map_eq_some_iff.1 h
      exact ⟨rfl, entries, entriesOf?_eq_some_iff.1 hentries⟩
    · cases h
  · rintro ⟨rfl, entries, hentries⟩
    have hfound : entriesOf? pool (.shared number) = some entries :=
      entriesOf?_eq_some_iff.2 hentries
    simp [sharedMapping?, hfound]

/-- A part leads from a mapping to the entry under it. -/
theorem step_of_entriesOf? {entries : Entries} (h : entriesOf? pool v = some entries) (key : Text) :
    v.step pool key = .ok (Entries.find? key entries) := by
  rw [Value.step, entriesOf?_eq_some_iff.1 h]

theorem ne_null_of_entriesOf? {entries : Entries} (h : entriesOf? pool v = some entries) :
    v ≠ .null := by
  rintro rfl
  cases h

/-- What is no shared mapping keeps its entries in itself. -/
theorem entriesOf?_of_unshared (h : sharedMapping? pool v = none) (key : Text) :
    (entriesOf? pool v).bind (Entries.find? key) = inner? v key := by
  cases v
  case shared n =>
    rw [Option.map_eq_none_iff.1 h]
    rfl
  all_goals rfl

/-! ## Sites -/

/-- The tree that a base stands for. -/
def trunk (data : Data) : Option Nat → Value
  | none => data.root
  | some number => data.pool.getD number .null

/-- What lies at a site. -/
def held? (data : Data) (s : Site) : Option Value := below? (trunk data s.base) s.keys

/-- The number of the shared mapping that lies at a site. -/
def mount? (data : Data) (s : Site) : Option Nat :=
  (held? data s).bind (sharedMapping? data.pool)

/-- Where the entries of the value at a site are kept: in the shared mapping that it is, or else at
the site itself. -/
def settle (data : Data) (s : Site) : Site :=
  match mount? data s with
  | some number => ⟨some number, []⟩
  | none => s

/-- The site one key further. -/
def under (data : Data) (s : Site) (key : Text) : Site :=
  ⟨(settle data s).base, (settle data s).keys ++ [key]⟩

/-- The site that keys lead to from the root. -/
def siteOf (data : Data) (keys : List Text) : Site := keys.foldl (under data) ⟨none, []⟩

theorem settle_of_mount? (h : mount? data s = some number) : settle data s = ⟨some number, []⟩ := by
  rw [settle, h]

theorem settle_of_unmounted (h : mount? data s = none) : settle data s = s := by
  rw [settle, h]

theorem siteOf_concat (data : Data) (keys : List Text) (key : Text) :
    siteOf data (keys ++ [key]) = under data (siteOf data keys) key := by
  rw [siteOf, List.foldl_concat, siteOf]

theorem siteOf_keys_ne_nil (h : keys ≠ []) : (siteOf data keys).keys ≠ [] := by
  rw [← List.dropLast_append_getLast h, siteOf_concat]
  simp [under]

/-- One key further lies the entry of the mapping that the site leads to. -/
theorem held?_under (data : Data) (s : Site) (key : Text) :
    held? data (under data s key) =
      (held? data s).bind fun v => (entriesOf? data.pool v).bind (Entries.find? key) := by
  rcases hmount : mount? data s with - | number
  · have hside : held? data (under data s key) = (held? data s).bind (inner? · key) := by
      rw [under, settle_of_unmounted hmount]
      exact below?_concat _ _ _
    rw [hside]
    cases hv : held? data s with
    | none => rfl
    | some v =>
        rw [mount?, hv, Option.bind_some] at hmount
        rw [Option.bind_some, Option.bind_some, entriesOf?_of_unshared hmount]
  · obtain ⟨v, hv, hshared⟩ := Option.bind_eq_some_iff.1 hmount
    obtain ⟨rfl, entries, hentries⟩ := sharedMapping?_eq_some_iff.1 hshared
    have hfound : entriesOf? data.pool (.shared number) = some entries :=
      entriesOf?_eq_some_iff.2 hentries
    rw [under, settle_of_mount? hmount, hv, Option.bind_some, hfound, Option.bind_some]
    simp [held?, trunk, hentries, inner?]

/-- Beyond nothing lies nothing, on the same base. -/
theorem foldl_under_of_none (h : held? data s = none) (keys : List Text) :
    keys.foldl (under data) s = ⟨s.base, s.keys ++ keys⟩ ∧
      held? data (keys.foldl (under data) s) = none := by
  induction keys generalizing s with
  | nil => simpa using h
  | cons key keys ih =>
      have hunder : under data s key = ⟨s.base, s.keys ++ [key]⟩ := by
        rw [under, settle_of_unmounted (by rw [mount?, h]; rfl)]
      have hnext : held? data (under data s key) = none := by rw [held?_under, h]; rfl
      obtain ⟨hsite, hheld⟩ := ih hnext
      refine ⟨?_, hheld⟩
      rw [List.foldl_cons, hsite, hunder, List.append_assoc, List.singleton_append]

/-- What lies at the end of some keys is what is found by them. -/
theorem resolve_of_held?_foldl (hv : held? data s = some v)
    (hw : held? data (keys.foldl (under data) s) = some w) :
    v.resolve data.pool keys = .ok w := by
  -- Something at the end means something at every step, so that no step ends in null.
  induction keys generalizing s v with
  | nil =>
      obtain rfl : v = w := Option.some.inj (hv.symm.trans hw)
      exact Value.resolve_nil v data.pool
  | cons key keys ih =>
      cases hnext : held? data (under data s key) with
      | none => exact absurd ((foldl_under_of_none hnext keys).2.symm.trans hw) (by simp)
      | some u =>
          have hfind := hnext
          rw [held?_under, hv, Option.bind_some, Option.bind_eq_some_iff] at hfind
          obtain ⟨entries, hentries, hfind⟩ := hfind
          rw [Value.resolve_cons (ne_null_of_entriesOf? hentries), step_of_entriesOf? hentries,
            hfind]
          exact ih hnext hw

/-- What lies at the site of a name is what is found by the name. -/
theorem resolve_of_held? (h : held? data (siteOf data keys) = some w) :
    data.root.resolve data.pool keys = .ok w :=
  resolve_of_held?_foldl (s := ⟨none, []⟩) rfl h

/-! ## Sites above others -/

/-- A site is at or above another one: on the same base, with keys that lead there. -/
def Site.Above (t s : Site) : Prop := t.base = s.base ∧ t.keys <+: s.keys

/-- No shared mapping lies where a site settles. -/
theorem mount?_settle (data : Data) (s : Site) : mount? data (settle data s) = none := by
  rcases hmount : mount? data s with - | number
  · rw [settle_of_unmounted hmount, hmount]
  · obtain ⟨v, -, hshared⟩ := Option.bind_eq_some_iff.1 hmount
    obtain ⟨-, entries, hentries⟩ := sharedMapping?_eq_some_iff.1 hshared
    rw [settle_of_mount? hmount, mount?, held?, trunk, hentries]
    rfl

/-- The last key of a name is added to the site where the others settle. -/
theorem above_siteOf_concat (h : s.Above (siteOf data (keys ++ [key])))
    (hne : s ≠ siteOf data (keys ++ [key])) : s.Above (settle data (siteOf data keys)) := by
  rw [siteOf_concat, under] at h hne
  refine ⟨h.1, (List.prefix_concat_iff.1 h.2).resolve_left fun hkeys => hne ?_⟩
  exact Site.ext h.1 hkeys

/-- Above the place where a name settles lies that place, or what is above its site. -/
theorem Site.Above.of_settle (h : t.Above (settle data s)) :
    t = settle data s ∨ settle data s = s := by
  rcases hmount : mount? data s with - | number
  · exact .inr (settle_of_unmounted hmount)
  · left
    rw [settle_of_mount? hmount] at h ⊢
    exact Site.ext h.1 (List.prefix_nil.1 h.2)

/-- Everything above the site of a name, on its base, was passed on the way. -/
theorem exists_siteOf_of_above (h : t.Above (siteOf data keys)) (hne : t.keys ≠ []) :
    ∃ front, front <+: keys ∧ siteOf data front = t := by
  induction keys using List.reverseRecOn with
  | nil => exact absurd (List.prefix_nil.1 h.2) hne
  | append_singleton keys key ih =>
      by_cases hend : t = siteOf data (keys ++ [key])
      · exact ⟨_, List.prefix_rfl, hend.symm⟩
      · have habove := above_siteOf_concat h hend
        have hsettle : settle data (siteOf data keys) = siteOf data keys := by
          rcases hmount : mount? data (siteOf data keys) with - | number
          · exact settle_of_unmounted hmount
          · rw [settle_of_mount? hmount] at habove
            exact absurd (List.prefix_nil.1 habove.2) hne
        rw [hsettle] at habove
        obtain ⟨front, hfront, hsite⟩ := ih habove
        exact ⟨front, hfront.trans (List.prefix_append _ _), hsite⟩

/-- The keys `passed` are on the way of others when these lead through the same site. -/
def OnWay (data : Data) (passed keys : List Text) : Prop :=
  ∃ front, front <+: keys ∧ siteOf data front = siteOf data passed

instance (data : Data) (passed keys : List Text) : Decidable (OnWay data passed keys) :=
  decidable_of_iff (∃ front ∈ keys.inits, siteOf data front = siteOf data passed) (by simp [OnWay])

theorem onWay_of_above {passed : List Text}
    (h : (siteOf data passed).Above (siteOf data keys)) (hne : passed ≠ []) :
    OnWay data passed keys :=
  exists_siteOf_of_above h (siteOf_keys_ne_nil hne)

/-- Above the site of a name, on its base, lie no shared mappings. -/
theorem mount?_of_above (h : s.Above (siteOf data keys)) (hne : s ≠ siteOf data keys) :
    mount? data s = none := by
  induction keys using List.reverseRecOn with
  | nil => exact absurd (Site.ext h.1 (List.prefix_nil.1 h.2)) hne
  | append_singleton keys key ih =>
      have habove := above_siteOf_concat h hne
      by_cases hend : s = settle data (siteOf data keys)
      · rw [hend, mount?_settle]
      · have hsettle := habove.of_settle.resolve_left hend
        rw [hsettle] at habove hend
        exact ih habove hend

/-! ## Writing to a site -/

theorem exists_of_mount? (h : mount? data s = some number) :
    ∃ entries, data.pool.getD number .null = .mapping entries := by
  obtain ⟨v, -, hshared⟩ := Option.bind_eq_some_iff.1 h
  exact (sharedMapping?_eq_some_iff.1 hshared).2

/-- The shared mappings that names settle in are there. -/
theorem exists_of_settle (h : (settle data (siteOf data keys)).base = some number) :
    ∃ entries, data.pool.getD number .null = .mapping entries := by
  induction keys using List.reverseRecOn with
  | nil =>
      rcases hmount : mount? data (siteOf data []) with - | other
      · rw [settle_of_unmounted hmount] at h
        cases h
      · rw [settle_of_mount? hmount] at h
        cases h
        exact exists_of_mount? hmount
  | append_singleton keys key ih =>
      rcases hmount : mount? data (siteOf data (keys ++ [key])) with - | other
      · rw [settle_of_unmounted hmount, siteOf_concat] at h
        exact ih h
      · rw [settle_of_mount? hmount] at h
        cases h
        exact exists_of_mount? hmount

/-- Keys settle below the last shared mapping on their way. -/
theorem settle_foldl_under (hv : held? data s = some v) (keys : List Text) :
    settle data (keys.foldl (under data) s) =
      match lastShared? data.pool v keys with
      | some (number, rest) => ⟨some number, rest⟩
      | none => ⟨s.base, s.keys ++ keys⟩ := by
  have hmount : mount? data s = sharedMapping? data.pool v := by rw [mount?, hv, Option.bind_some]
  -- The last shared mapping is sought from the front, so the site moves along with the value.
  induction keys generalizing s v with
  | nil =>
      rw [List.foldl_nil, lastShared?, settle, hmount]
      cases sharedMapping? data.pool v <;> simp
  | cons key keys ih =>
      have hnext := held?_under data s key
      have hhere : under data s key = match sharedMapping? data.pool v with
          | some number => ⟨some number, [key]⟩
          | none => ⟨s.base, s.keys ++ [key]⟩ := by
        rw [under, settle, hmount]
        cases sharedMapping? data.pool v <;> rfl
      rw [hv, Option.bind_some] at hnext
      rw [List.foldl_cons, lastShared?]
      cases hw : (entriesOf? data.pool v).bind (Entries.find? key) with
      | none =>
          obtain ⟨hsite, hheld⟩ := foldl_under_of_none (hnext.trans hw) keys
          rw [settle_of_unmounted (by rw [mount?, hheld]; rfl), hsite, hhere]
          cases sharedMapping? data.pool v <;> simp
      | some w =>
          have hheld := hnext.trans hw
          rw [ih hheld (by rw [mount?, hheld, Option.bind_some]), hhere]
          cases hlast : lastShared? data.pool w keys <;>
            cases sharedMapping? data.pool v <;> simp [hlast]

/-- What has no shared mapping on the way is none itself. -/
theorem sharedMapping?_of_lastShared? (h : lastShared? pool v keys = none) :
    sharedMapping? pool v = none := by
  cases keys with
  | nil => simpa [lastShared?] using h
  | cons key rest =>
      rw [lastShared?] at h
      split at h
      · simpa using (Option.or_eq_none_iff.1 h).2
      · simpa using h

theorem own_of_unshared (h : sharedMapping? pool v = none) :
    (entriesOf? pool v).getD [] = own v := by
  cases v
  case shared n =>
    rw [Option.map_eq_none_iff.1 h]
    rfl
  all_goals rfl

/-- Data with another tree on a base. -/
def graft (data : Data) (base : Option Nat) (v : Value) : Data :=
  match base with
  | none => { data with root := v }
  | some number => { data with pool := data.pool.setIfInBounds number v }

/-- A value is placed below where the keys in front of the last settle. -/
theorem placeIn_eq (parents : List Text) (last : Text) (value : Value) (data : Data) :
    placeIn parents last value data =
      let s := settle data (siteOf data parents)
      graft data s.base (.mapping (place s.keys last value (own (trunk data s.base)))) := by
  have hroot : held? data ⟨none, []⟩ = some data.root := rfl
  have hsettle := settle_foldl_under hroot parents
  rw [← siteOf] at hsettle
  unfold placeIn
  cases hlast : lastShared? data.pool data.root parents with
  | none =>
      rw [hlast] at hsettle
      simp only [hsettle, List.nil_append, graft, trunk,
        own_of_unshared (sharedMapping?_of_lastShared? hlast)]
  | some found =>
      obtain ⟨number, rest⟩ := found
      rw [hlast] at hsettle
      have hbase : (settle data (siteOf data parents)).base = some number := by rw [hsettle]
      obtain ⟨entries, hentries⟩ := exists_of_settle hbase
      have hfound : entriesOf? data.pool (.shared number) = some entries :=
        entriesOf?_eq_some_iff.2 hentries
      simp only [hsettle, graft, trunk, hfound, hentries, Option.getD_some, own_mapping]

theorem lt_size_of_getD_eq_mapping {entries : Entries}
    (h : pool.getD number .null = .mapping entries) : number < pool.size := by
  by_contra hout
  rw [Array.getD_eq_getD_getElem?, Array.getElem?_eq_none (Nat.le_of_not_lt hout)] at h
  cases h

theorem trunk_graft_self {base : Option Nat} (h : ∀ number ∈ base, number < data.pool.size)
    (v : Value) : trunk (graft data base v) base = v := by
  cases base with
  | none => rfl
  | some number => simp [graft, trunk, h number rfl]

theorem trunk_graft_of_ne {base other : Option Nat} (h : other ≠ base) (v : Value) :
    trunk (graft data base v) other = trunk data other := by
  cases base with
  | none =>
      cases other with
      | none => exact absurd rfl h
      | some number => rfl
  | some number =>
      cases other with
      | none => rfl
      | some other =>
          have hne : number ≠ other := fun heq => h (congrArg some heq.symm)
          simp [graft, trunk, Array.getD_eq_getD_getElem?, Array.getElem?_setIfInBounds_ne hne]

/-- The base that a value was placed on. -/
theorem trunk_placeIn (parents : List Text) (last : Text) (value : Value) (data : Data) :
    let s := settle data (siteOf data parents)
    trunk (placeIn parents last value data) s.base =
      .mapping (place s.keys last value (own (trunk data s.base))) := by
  intro s
  rw [placeIn_eq]
  refine trunk_graft_self (fun number hnumber => ?_) _
  obtain ⟨entries, hentries⟩ := exists_of_settle hnumber
  exact lt_size_of_getD_eq_mapping hentries

theorem trunk_placeIn_of_ne {base : Option Nat}
    (h : base ≠ (settle data (siteOf data parents)).base) (last : Text) (value : Value) :
    trunk (placeIn parents last value data) base = trunk data base := by
  rw [placeIn_eq]
  exact trunk_graft_of_ne h _

/-- A value lies where it was placed. -/
theorem held?_placeIn_self (parents : List Text) (last : Text) (value : Value) (data : Data) :
    held? (placeIn parents last value data) (siteOf data (parents ++ [last])) = some value := by
  rw [siteOf_concat, under, held?, trunk_placeIn]
  exact below?_place_self _ _ _ _

/-- Mappings lie above the place. -/
theorem exists_held?_placeIn (h : s.Above (siteOf data (parents ++ [last])))
    (hne : s ≠ siteOf data (parents ++ [last])) (value : Value) :
    ∃ entries, held? (placeIn parents last value data) s = some (.mapping entries) := by
  obtain ⟨hbase, hkeys⟩ := above_siteOf_concat h hne
  rw [held?, hbase, trunk_placeIn]
  exact exists_below?_place hkeys _ _ _

/-- Apart from the place everything is as it was. -/
theorem held?_placeIn_of_apart (h : ¬ s.Above (siteOf data (parents ++ [last])))
    (h' : ¬ (siteOf data (parents ++ [last])).Above s) (value : Value) :
    held? (placeIn parents last value data) s = held? data s := by
  by_cases hbase : s.base = (settle data (siteOf data parents)).base
  · rw [siteOf_concat] at h h'
    rw [held?, held?, hbase, trunk_placeIn]
    exact below?_place_of_apart (fun hkeys => h ⟨hbase, hkeys⟩)
      (fun hkeys => h' ⟨hbase.symm, hkeys⟩) _ _
  · rw [held?, held?, trunk_placeIn_of_ne hbase]

/-- A setting makes no shared mapping and unmakes none. -/
theorem sharedMapping?_placeIn (parents : List Text) (last : Text) (value : Value) (data : Data)
    (v : Value) :
    sharedMapping? (placeIn parents last value data).pool v = sharedMapping? data.pool v := by
  have hpool : ∀ number,
      (∃ entries, (placeIn parents last value data).pool.getD number .null = .mapping entries) ↔
        ∃ entries, data.pool.getD number .null = .mapping entries := by
    intro number
    by_cases hbase : some number = (settle data (siteOf data parents)).base
    · have hplaced := trunk_placeIn parents last value data
      simp only [← hbase] at hplaced
      exact iff_of_true ⟨_, hplaced⟩ (exists_of_settle hbase.symm)
    · have hkept := trunk_placeIn_of_ne hbase last value
      simp only [trunk] at hkept
      rw [hkept]
  ext number
  rw [sharedMapping?_eq_some_iff, sharedMapping?_eq_some_iff, hpool]

/-! ## What names lead to afterwards -/

/-- Shared mappings lie where they lay, except at the place and below it. -/
theorem mount?_placeIn (h : ¬ (siteOf data (parents ++ [last])).Above s) (value : Value) :
    mount? (placeIn parents last value data) s = mount? data s := by
  by_cases habove : s.Above (siteOf data (parents ++ [last]))
  -- Above the place lie mappings that are not shared, before the setting and after it.
  · have hne : s ≠ siteOf data (parents ++ [last]) := by
      rintro rfl
      exact h ⟨rfl, List.prefix_rfl⟩
    obtain ⟨entries, hentries⟩ := exists_held?_placeIn habove hne value
    rw [mount?_of_above habove hne, mount?, hentries]
    rfl
  · rw [mount?, mount?, held?_placeIn_of_apart habove h]
    exact congrArg _ (funext fun v => sharedMapping?_placeIn _ _ _ _ v)

/-- Keys lead where they led, when only their last one can lead to the place. -/
theorem siteOf_placeIn (value : Value)
    (h : ∀ front, front <+: keys → front ≠ keys →
      siteOf data front ≠ siteOf data (parents ++ [last])) :
    siteOf (placeIn parents last value data) keys = siteOf data keys := by
  -- The induction is on the front of the keys, which must not lead to the place, nor below it.
  induction keys using List.reverseRecOn with
  | nil => rfl
  | append_singleton keys key ih =>
      have hbefore : ∀ front, front <+: keys →
          siteOf data front ≠ siteOf data (parents ++ [last]) := by
        intro front hfront
        refine h front (hfront.trans (List.prefix_append _ _)) ?_
        rintro rfl
        exact absurd hfront.length_le (by simp)
      have hbeside : ¬ (siteOf data (parents ++ [last])).Above (siteOf data keys) := by
        intro habove
        obtain ⟨front, hfront, hsite⟩ := onWay_of_above habove (by simp)
        exact hbefore front hfront hsite
      rw [siteOf_concat, siteOf_concat, ih fun front hfront _ => hbefore front hfront, under,
        settle, mount?_placeIn hbeside, ← settle, ← under]

/-- A value stays at the end of its keys when neither they nor the place are on the way of the
other. -/
theorem held?_siteOf_placeIn (h : ¬ OnWay data (parents ++ [last]) keys)
    (h' : ¬ OnWay data keys (parents ++ [last])) (hne : keys ≠ []) (value : Value) :
    held? (placeIn parents last value data) (siteOf (placeIn parents last value data) keys) =
      held? data (siteOf data keys) := by
  rw [siteOf_placeIn value fun front hfront _ hsite => h ⟨front, hfront, hsite⟩]
  exact held?_placeIn_of_apart (fun habove => h' (onWay_of_above habove hne))
    (fun habove => h (onWay_of_above habove (by simp))) value

/-- A value that was placed is at the end of its keys, unless they pass its place before. -/
theorem held?_siteOf_placeIn_self (value : Value)
    (h : ∀ front, front <+: parents → siteOf data front ≠ siteOf data (parents ++ [last])) :
    held? (placeIn parents last value data)
      (siteOf (placeIn parents last value data) (parents ++ [last])) = some value := by
  rw [siteOf_placeIn value fun front hfront hne =>
    h front ((List.prefix_concat_iff.1 hfront).resolve_left hne), held?_placeIn_self]

end CommandLine
end Stencil
