import Mathlib.Data.List.Dedup
import Mathlib.Data.List.DropRight
import Stencil.Proofs.Render.CacheEntries

/-!
# Least recently used entries go first

A bounded cache is asked for one thing after the other.  What it holds at the end is told by
its history alone: of the keys that were used since it was cleared, those that were used
last, each with the value that was written last.  An entry is used when it is looked up and
when it is made; writing over it changes its value only.

Main results:

- Definitions `Call`, `serve` and `serveAll`: what a cache can be asked for, and what it is
  afterwards.
- Inductive `Served` and theorem `served`: how a call can go.
- Definitions `history`, `recentKeys` and `lastValue?`: what a run of calls has done.
- Structure `Recent` and theorem `Recent.serveAll`: the invariant, and that runs keep it.
- Theorem `Recent.get_eq`: what is found under a key.
- Theorem `entries_are_recent`: the entries and the lookups as the history has them.
-/

namespace Stencil
namespace Render
namespace Cache

variable {κ ν ε : Type} [DecidableEq κ] {c : Cache κ ν} {key k : κ} {value v : ν} {limit : Nat}

/-! ## Calls -/

/-- What a cache can be asked for. -/
inductive Call (κ ν ε : Type) where
  /-- The value under a key. -/
  | get (key : κ)
  /-- The value under a key, which is made when there is none; making it may fail. -/
  | getOrCreate (key : κ) (make : Unit → Except ε ν)
  /-- Whether there is an entry under a key. -/
  | holds (key : κ)
  /-- The number of entries. -/
  | size
  /-- To write a value under a key. -/
  | write (key : κ) (value : ν)
  /-- To give up all entries. -/
  | clear

/-- The key whose entry a call may use, make or change. -/
def Call.target? : Call κ ν ε → Option κ
  | get key | getOrCreate key _ | write key _ => some key
  | holds _ | size | clear => none

/-- The cache after a call. -/
def serve (c : Cache κ ν) : Call κ ν ε → Cache κ ν
  | .get key => (c.get key).2
  | .getOrCreate key make => (c.getOrCreate key make).2
  | .write key value => c.write key value
  | .clear => c.clear
  | .holds _ | .size => c

/-- The cache after one call and then the next. -/
def serveAll (c : Cache κ ν) (calls : List (Call κ ν ε)) : Cache κ ν := calls.foldl serve c

/-- What a call does to the entries. -/
inductive Deed (κ ν : Type) where
  /-- An entry that is there is used. -/
  | hit (key : κ)
  /-- An entry is made, which uses it. -/
  | made (key : κ) (value : ν)
  /-- The value of an entry that is there is changed. -/
  | changed (key : κ) (value : ν)
  /-- All entries are given up. -/
  | cleared

/-- What a call on a cache does to the entries, if anything, as the keys that are there tell:
looking up one of them hits it, and another one is made if it can be.  What the call gives does not
enter. -/
def deed? (c : Cache κ ν) : Call κ ν ε → Option (Deed κ ν)
  | .get key => if key ∈ c.keys then some (.hit key) else none
  | .getOrCreate key make =>
    if key ∈ c.keys then some (.hit key) else (make ()).toOption.map (.made key)
  | .write key value => some (if key ∈ c.keys then .changed key value else .made key value)
  | .clear => some .cleared
  | .holds _ | .size => none

/-- What a run of calls does to the entries, in order. -/
def history (c : Cache κ ν) : List (Call κ ν ε) → List (Deed κ ν)
  | [] => []
  | call :: calls => (c.deed? call).toList ++ history (c.serve call) calls

/-- How a call on a cache can go, with what it does and the cache after it. -/
inductive Served (c : Cache κ ν) : Call κ ν ε → Option (Deed κ ν) → Cache κ ν → Prop
  /-- A miss, a value that could not be made, or a question about the cache changes nothing. -/
  | idle {call : Call κ ν ε} : Served c call none c
  /-- The entry under the key is used. -/
  | hit {call : Call κ ν ε} (key : κ) (htarget : call.target? = some key) (hkey : key ∈ c.keys) :
      Served c call (some (.hit key)) (c.touch key)
  /-- An entry is made under a key that had none. -/
  | made {call : Call κ ν ε} (key : κ) (value : ν) (htarget : call.target? = some key)
      (hkey : key ∉ c.keys) : Served c call (some (.made key value)) (c.write key value)
  /-- The entry under the key is written over. -/
  | changed (key : κ) (value : ν) (hkey : key ∈ c.keys) :
      Served c (.write key value) (some (.changed key value)) (c.write key value)
  /-- All entries are given up. -/
  | cleared : Served c .clear (some .cleared) c.clear

theorem holds_iff : c.holds key = true ↔ key ∈ c.keys := by
  rw [holds, Option.isSome_iff_ne_none, ne_eq, find?_eq_none_iff, not_not]

theorem mem_keys_of_find? (h : c.find? key = some value) : key ∈ c.keys :=
  mem_keys.2 ⟨value, mem_of_find? h⟩

/-- A lookup of a key finds its entry just when there is one. -/
theorem served_get (c : Cache κ ν) (key : κ) :
    Served c (.get key : Call κ ν ε) (c.deed? (.get key : Call κ ν ε)) (c.get key).2 := by
  cases hfind : c.find? key with
  | none =>
      rw [deed?, if_neg (find?_eq_none_iff.1 hfind), get_of_missing hfind]
      exact .idle
  | some value =>
      have hkey := mem_keys_of_find? hfind
      rw [deed?, if_pos hkey, get, hfind]
      exact .hit key rfl hkey

/-- An entry is made just when there is none and its value can be had. -/
theorem served_getOrCreate (c : Cache κ ν) (key : κ) (make : Unit → Except ε ν) :
    Served c (.getOrCreate key make) (c.deed? (.getOrCreate key make))
      (c.getOrCreate key make).2 := by
  cases hfind : c.find? key with
  | some value =>
      have hkey := mem_keys_of_find? hfind
      rw [deed?, if_pos hkey, getOrCreate, hfind]
      exact .hit key rfl hkey
  | none =>
      have hkey := find?_eq_none_iff.1 hfind
      rw [deed?, if_neg hkey, getOrCreate, hfind]
      dsimp only
      cases make () with
      | error e => exact .idle
      | ok value => exact .made key value rfl hkey

theorem served_write (c : Cache κ ν) (key : κ) (value : ν) :
    Served c (.write key value : Call κ ν ε) (c.deed? (.write key value : Call κ ν ε))
      (c.write key value) := by
  by_cases hkey : key ∈ c.keys
  · rw [deed?, if_pos hkey]
    exact .changed key value hkey
  · rw [deed?, if_neg hkey]
    exact .made key value rfl hkey

/-- Every call goes in one of the ways that there are. -/
theorem served (c : Cache κ ν) (call : Call κ ν ε) :
    Served c call (c.deed? call) (c.serve call) := by
  cases call with
  | get key => exact served_get c key
  | getOrCreate key make => exact served_getOrCreate c key make
  | holds key => exact .idle
  | size => exact .idle
  | write key value => exact served_write c key value
  | clear => exact .cleared

/-! ## The order of the keys -/

omit [DecidableEq κ] in
theorem kept_keepRecent (limit : Nat) (entries : List (κ × ν)) :
    kept (.keepRecent limit) entries = entries.rtake limit := rfl

theorem map_rtake {α β : Type} (f : α → β) (n : Nat) (l : List α) :
    (l.rtake n).map f = (l.map f).rtake n := by
  rw [List.rtake, List.rtake, List.map_drop, List.length_map]

/-- The last elements of a list do not depend on those that stand before them. -/
theorem rtake_append_of_length_le {α : Type} {n : Nat} {front back : List α}
    (h : n ≤ back.length) : (front ++ back).rtake n = back.rtake n := by
  rw [List.rtake, List.rtake, List.length_append, List.drop_append,
    List.drop_eq_nil_of_le (by omega), List.nil_append]
  congr 1
  omega

theorem rtake_of_length_le {α : Type} {n : Nat} {l : List α} (h : l.length ≤ n) :
    l.rtake n = l := by
  rw [List.rtake, Nat.sub_eq_zero_of_le h, List.drop_zero]

theorem length_rtake {α : Type} (n : Nat) (l : List α) : (l.rtake n).length = min n l.length := by
  rw [List.rtake, List.length_drop]
  omega

/-- A list is what stands before its last elements, and these. -/
theorem exists_eq_append_rtake {α : Type} (n : Nat) (l : List α) :
    ∃ older, l = older ++ l.rtake n ∧ (older = [] ∨ (l.rtake n).length = n) := by
  refine ⟨l.take (l.length - n), (List.take_append_drop ..).symm, ?_⟩
  by_cases h : l.length ≤ n
  · exact Or.inl (by simp [Nat.sub_eq_zero_of_le h])
  · exact Or.inr (by rw [length_rtake]; omega)

theorem keys_moveToEnd (key : κ) {entries : List (κ × ν)} (h : key ∈ entries.map Prod.fst) :
    (moveToEnd key entries).map Prod.fst = (entries.map Prod.fst).erase key ++ [key] := by
  induction entries with
  | nil => simp at h
  | cons first rest ih =>
      obtain ⟨k, v⟩ := first
      rw [moveToEnd]
      by_cases hkey : key = k
      · subst hkey
        simp
      · rw [List.map_cons, List.mem_cons] at h
        rw [if_neg (by simpa using hkey), List.map_cons, ih (h.resolve_left hkey), List.map_cons,
          List.erase_cons_tail (by simpa using Ne.symm hkey), List.cons_append]

/-- In a bounded cache the key of an entry that is used comes last. -/
theorem keys_touch (hpolicy : c.policy = .keepRecent limit) (hkey : key ∈ c.keys) :
    (c.touch key).keys = c.keys.erase key ++ [key] := by
  unfold touch
  rw [hpolicy]
  exact keys_moveToEnd key hkey

/-- A new key comes last, and may cost the first one its place. -/
theorem keys_write_of_not_mem (hpolicy : c.policy = .keepRecent limit) (hkey : key ∉ c.keys)
    (value : ν) :
    (c.write key value).keys = (c.keys ++ [key]).rtake limit := by
  rw [keys, write, hpolicy, kept_keepRecent, map_rtake, overwrite_of_not_mem hkey, List.map_append]
  rfl

/-- A key that is there stays in its place. -/
theorem keys_write_of_mem (hpolicy : c.policy = .keepRecent limit) (hkey : key ∈ c.keys)
    (value : ν) : (c.write key value).keys = c.keys.rtake limit := by
  rw [keys, write, hpolicy, kept_keepRecent, map_rtake, keys_overwrite_of_mem hkey]
  rfl

/-- What is written under a key is the only value that the key has. -/
theorem eq_of_mem_overwrite {entries : List (κ × ν)} (hdistinct : (entries.map Prod.fst).Nodup)
    (h : (key, v) ∈ overwrite key value entries) : v = value := by
  induction entries with
  | nil => simpa [overwrite] using h
  | cons first rest ih =>
      obtain ⟨k, w⟩ := first
      rw [List.map_cons, List.nodup_cons] at hdistinct
      rw [overwrite] at h
      by_cases hkey : key = k
      · subst hkey
        rw [if_pos (beq_self_eq_true key), List.mem_cons] at h
        rcases h with h | h
        · exact (Prod.mk.inj h).2
        · exact absurd (List.mem_map_of_mem h) hdistinct.1
      · rw [if_neg (by simpa using hkey), List.mem_cons] at h
        exact ih hdistinct.2 (h.resolve_left fun heq => hkey (Prod.mk.inj heq).1)

/-- After writing, an entry is the one that was written or an old one of another key. -/
theorem mem_write_cases (hdistinct : c.keys.Nodup) (h : (k, v) ∈ (c.write key value).entries) :
    (k = key ∧ v = value) ∨ (k ≠ key ∧ (k, v) ∈ c.entries) := by
  by_cases hk : k = key
  · subst hk
    exact Or.inl ⟨rfl, eq_of_mem_overwrite hdistinct (mem_of_mem_kept h)⟩
  · exact Or.inr ⟨hk, (mem_of_mem_write h).resolve_right fun heq => hk (Prod.mk.inj heq).1⟩

/-! ## What the history tells -/

/-- The key that a deed uses. -/
def Deed.used? : Deed κ ν → Option κ
  | hit key | made key _ => some key
  | changed _ _ | cleared => none

/-- The value that a deed writes under a key. -/
def Deed.written? (key : κ) : Deed κ ν → Option ν
  | made k value | changed k value => if k = key then some value else none
  | hit _ | cleared => none

/-- Whether a deed gives up all entries. -/
def Deed.clears : Deed κ ν → Bool
  | cleared => true
  | hit _ | made _ _ | changed _ _ => false

/-- What was done since all entries were given up for the last time. -/
def sinceCleared (deeds : List (Deed κ ν)) : List (Deed κ ν) := deeds.rtakeWhile fun d => !d.clears

/-- The keys of the uses since all entries were given up, in order. -/
def usedKeys (deeds : List (Deed κ ν)) : List κ := (sinceCleared deeds).filterMap Deed.used?

/-- The keys that were used since all entries were given up, each once, the one that was used last
coming first. -/
def recentKeys (deeds : List (Deed κ ν)) : List κ := (usedKeys deeds).dedup.reverse

/-- The value that was written last under a key since all entries were given up. -/
def lastValue? (key : κ) (deeds : List (Deed κ ν)) : Option ν :=
  ((sinceCleared deeds).filterMap (Deed.written? key)).getLast?

variable {deeds : List (Deed κ ν)} {deed : Deed κ ν}

omit [DecidableEq κ] in
theorem sinceCleared_concat (h : deed.clears = false) :
    sinceCleared (deeds ++ [deed]) = sinceCleared deeds ++ [deed] :=
  List.rtakeWhile_concat_pos _ _ _ (by simp [h])

omit [DecidableEq κ] in
theorem sinceCleared_concat_cleared : sinceCleared (deeds ++ [.cleared]) = [] :=
  List.rtakeWhile_concat_neg _ _ _ (by simp [Deed.clears])

omit [DecidableEq κ] in
theorem usedKeys_concat (h : deed.clears = false) :
    usedKeys (deeds ++ [deed]) = usedKeys deeds ++ deed.used?.toList := by
  rw [usedKeys, sinceCleared_concat h, List.filterMap_append]
  cases hused : deed.used? <;> simp [usedKeys, hused]

theorem lastValue?_concat (h : deed.clears = false) (hwritten : deed.written? key = none) :
    lastValue? key (deeds ++ [deed]) = lastValue? key deeds := by
  rw [lastValue?, sinceCleared_concat h, List.filterMap_append, List.filterMap_cons_none hwritten,
    List.filterMap_nil, List.append_nil]
  rfl

theorem lastValue?_concat_of_written (h : deed.clears = false)
    (hwritten : deed.written? key = some value) :
    lastValue? key (deeds ++ [deed]) = some value := by
  rw [lastValue?, sinceCleared_concat h, List.filterMap_append, List.filterMap_cons_some hwritten,
    List.filterMap_nil, List.getLast?_concat]

/-- One more element at the end is the last one of its kind. -/
theorem dedup_concat (l : List κ) (key : κ) : (l ++ [key]).dedup = l.dedup.erase key ++ [key] := by
  induction l with
  | nil => rfl
  | cons k l ih =>
      rw [List.cons_append]
      by_cases hk : k ∈ l
      · rw [List.dedup_cons_of_mem (List.mem_append_left _ hk), List.dedup_cons_of_mem hk, ih]
      · by_cases hkey : k = key
        · subst hkey
          rw [List.dedup_cons_of_mem (by simp), ih, List.dedup_cons_of_notMem hk,
            List.erase_cons_head, List.erase_of_not_mem (by simpa using hk)]
        · rw [List.dedup_cons_of_notMem (by simp [hk, hkey]), List.dedup_cons_of_notMem hk, ih,
            List.erase_cons_tail (by simpa using hkey), List.cons_append]

/-! ## The invariant -/

/-- A bounded cache that holds what the history tells. -/
structure Recent (limit : Nat) (c : Cache κ ν) (deeds : List (Deed κ ν)) : Prop where
  policy : c.policy = .keepRecent limit
  order : c.keys = (usedKeys deeds).dedup.rtake limit
  values : ∀ key value, (key, value) ∈ c.entries → lastValue? key deeds = some value

theorem recent_of_entries_eq_nil (hpolicy : c.policy = .keepRecent limit)
    (hentries : c.entries = []) (hused : usedKeys deeds = []) : Recent limit c deeds where
  policy := hpolicy
  order := by simp [keys, hentries, hused]
  values := by simp [hentries]

namespace Recent

theorem distinct (h : Recent limit c deeds) : c.keys.Nodup := by
  rw [h.order]
  exact (List.nodup_dedup _).sublist (List.drop_sublist _ _)

theorem length_keys_le (h : Recent limit c deeds) : c.keys.length ≤ limit := by
  rw [h.order, length_rtake]
  exact Nat.min_le_left _ _

/-- The keys that were used are those of the entries and, if the cache is full, older ones. -/
theorem exists_older (h : Recent limit c deeds) :
    ∃ older, (usedKeys deeds).dedup = older ++ c.keys ∧ (older = [] ∨ c.keys.length = limit) := by
  rw [h.order]
  exact exists_eq_append_rtake limit _

theorem hit (h : Recent limit c deeds) (hkey : key ∈ c.keys) :
    Recent limit (c.touch key) (deeds ++ [.hit key]) where
  policy := (policy_touch key c).trans h.policy
  order := by
    obtain ⟨older, holder, hfull⟩ := h.exists_older
    have hnot : key ∉ older := fun hmem =>
      List.disjoint_of_nodup_append (holder ▸ List.nodup_dedup _) hmem hkey
    have hlength : (c.keys.erase key ++ [key]).length = c.keys.length := by
      have := List.length_pos_of_mem hkey
      rw [List.length_append, List.length_erase_of_mem hkey, List.length_singleton]
      omega
    have hle := h.length_keys_le
    rw [keys_touch h.policy hkey, usedKeys_concat rfl, Deed.used?, Option.toList_some, dedup_concat,
      holder, List.erase_append_right _ hnot, List.append_assoc]
    rcases hfull with rfl | hfull
    · rw [List.nil_append, rtake_of_length_le (by omega)]
    · rw [rtake_append_of_length_le (by omega), rtake_of_length_le (by omega)]
  values k v hmem := by
    rw [lastValue?_concat rfl rfl]
    exact h.values k v (mem_touch.1 hmem)

/-- A deed that writes a value under a key has the last word on it. -/
theorem values_write (h : Recent limit c deeds) (hclears : deed.clears = false)
    (hwritten : ∀ k, deed.written? k = if key = k then some value else none) (k : κ) (v : ν)
    (hmem : (k, v) ∈ (c.write key value).entries) :
    lastValue? k (deeds ++ [deed]) = some v := by
  rcases mem_write_cases h.distinct hmem with ⟨rfl, rfl⟩ | ⟨hk, hold⟩
  · exact lastValue?_concat_of_written hclears ((hwritten _).trans (if_pos rfl))
  · rw [lastValue?_concat hclears ((hwritten k).trans (if_neg (Ne.symm hk)))]
    exact h.values k v hold

theorem made (h : Recent limit c deeds) (hkey : key ∉ c.keys) (value : ν) :
    Recent limit (c.write key value) (deeds ++ [.made key value]) where
  policy := h.policy
  order := by
    obtain ⟨older, holder, hfull⟩ := h.exists_older
    -- The key may have been used before, but then its entry was given up.
    have herase : (older ++ c.keys).erase key = older.erase key ++ c.keys := by
      rw [List.erase_append, List.erase_of_not_mem hkey]
      split
      · rfl
      · rw [List.erase_of_not_mem ‹_›]
    rw [keys_write_of_not_mem h.policy hkey, usedKeys_concat rfl, Deed.used?, Option.toList_some,
      dedup_concat, holder, herase, List.append_assoc]
    rcases hfull with rfl | hfull
    · rw [List.erase_nil, List.nil_append]
    · have hlength : limit ≤ (c.keys ++ [key]).length := by
        rw [List.length_append]
        omega
      rw [rtake_append_of_length_le hlength]
  values := h.values_write rfl fun _ => rfl

theorem changed (h : Recent limit c deeds) (hkey : key ∈ c.keys) (value : ν) :
    Recent limit (c.write key value) (deeds ++ [.changed key value]) where
  policy := h.policy
  order := by
    rw [keys_write_of_mem h.policy hkey, rtake_of_length_le h.length_keys_le, usedKeys_concat rfl,
      Deed.used?, Option.toList_none, List.append_nil]
    exact h.order
  values := h.values_write rfl fun _ => rfl

/-- A call keeps the cache and the history together. -/
theorem serve (h : Recent limit c deeds) (call : Call κ ν ε) :
    Recent limit (c.serve call) (deeds ++ (c.deed? call).toList) := by
  have hserved := served c call
  generalize c.deed? call = deed at hserved ⊢
  generalize c.serve call = c' at hserved ⊢
  cases hserved with
  | idle => simpa using h
  | hit key _ hkey => exact h.hit hkey
  | made key value _ hkey => exact h.made hkey value
  | changed key value hkey => exact h.changed hkey value
  | cleared =>
      exact recent_of_entries_eq_nil h.policy rfl (by simp [usedKeys, sinceCleared_concat_cleared])

/-- So does a run of calls. -/
theorem serveAll (h : Recent limit c deeds) (calls : List (Call κ ν ε)) :
    Recent limit (c.serveAll calls) (deeds ++ c.history calls) := by
  induction calls generalizing c deeds with
  | nil => simpa [history, Cache.serveAll] using h
  | cons call calls ih =>
      rw [history, ← List.append_assoc]
      exact ih (h.serve call)

/-- The keys, the newest first. -/
theorem take_recentKeys (h : Recent limit c deeds) :
    (recentKeys deeds).take limit = c.keys.reverse := by
  rw [h.order, List.rtake_eq_reverse_take_reverse, List.reverse_reverse, recentKeys]

theorem mem_take_recentKeys (h : Recent limit c deeds) :
    key ∈ (recentKeys deeds).take limit ↔ key ∈ c.keys := by
  rw [h.take_recentKeys, List.mem_reverse]

/-- The entries, the newest first. -/
theorem reverse_entries (h : Recent limit c deeds) :
    c.entries.reverse.map (fun e => (e.1, some e.2)) =
      ((recentKeys deeds).take limit).map fun key => (key, lastValue? key deeds) := by
  rw [h.take_recentKeys, keys, ← List.map_reverse, List.map_map]
  refine List.map_congr_left fun e he => ?_
  rw [Function.comp_apply, h.values e.1 e.2 (List.mem_reverse.1 he)]

/-- A lookup gives the last value of a key that was used lately, and nothing for another one. -/
theorem get_eq (h : Recent limit c deeds) (key : κ) :
    (c.get key).1 =
      if key ∈ (recentKeys deeds).take limit then lastValue? key deeds else none := by
  cases hfind : c.find? key with
  | none =>
      rw [if_neg (mt h.mem_take_recentKeys.1 (find?_eq_none_iff.1 hfind)), get_of_missing hfind]
  | some value =>
      rw [if_pos (h.mem_take_recentKeys.2 (mem_keys_of_find? hfind)),
        h.values key value (mem_of_find? hfind), get, hfind]

end Recent

/-- A value that may have to be made is the one that is looked up, where there is one. -/
theorem getOrCreate_eq (c : Cache κ ν) (key : κ) (make : Unit → Except ε ν) :
    (c.getOrCreate key make).1 = ((c.get key).1.map .ok).getD (make ()) := by
  unfold getOrCreate get
  cases c.find? key with
  | some value => rfl
  | none => cases make () <;> rfl

/-- A bounded cache after a run of calls: the entries, the newest first, are those of the keys that
were used last since all entries were given up, as many as are kept, each with the value that was
written last under its key.  These are the keys that are found, with these values, and a value is
made for no other key than one that is not found.  And a call that does nothing to the entries, a
miss, a question about the cache or a value that could not be made, leaves the cache as it is. -/
theorem entries_are_recent (limit : Nat) (calls : List (Call κ ν ε)) :
    let start : Cache κ ν := .empty (.keepRecent limit)
    let c := start.serveAll calls
    let deeds := start.history calls
    let recent := (recentKeys deeds).take limit
    c.entries.reverse.map (fun e => (e.1, some e.2)) =
        recent.map (fun key => (key, lastValue? key deeds)) ∧
      (∀ key, (c.get key).1 = if key ∈ recent then lastValue? key deeds else none) ∧
      (∀ key, c.holds key = true ↔ key ∈ recent) ∧
      (∀ key (make : Unit → Except ε ν),
        (c.getOrCreate key make).1 = ((c.get key).1.map .ok).getD (make ())) ∧
      ∀ call : Call κ ν ε, c.deed? call = none → c.serve call = c := by
  intro start c deeds recent
  have hstart : Recent limit start [] := recent_of_entries_eq_nil rfl rfl rfl
  have hrecent : Recent limit c deeds := hstart.serveAll calls
  refine ⟨hrecent.reverse_entries, hrecent.get_eq,
    fun key => holds_iff.trans hrecent.mem_take_recentKeys.symm, c.getOrCreate_eq,
    fun call hnone => ?_⟩
  have hserved := served c call
  rw [hnone] at hserved
  generalize c.serve call = c' at hserved ⊢
  cases hserved
  rfl

end Cache
end Render
end Stencil
