import Mathlib.Data.Finset.Card
import Mathlib.Data.Set.Finite.Basic
import Stencil.Proofs.Render.Recency

/-!
# How long a written value is kept

A value that is written into a bounded cache is kept until entries under enough other keys
have been used after it.  Writing over an entry leaves it in its place, so that what was
used after the entry, before it was written over, counts as well.  A value is therefore
as safe as if it had just been used exactly if its key is new or was the newest one.

Main results:

- Definition `newer`: the keys of the entries that are newer than one.
- Structure `Safe` and theorem `Safe.serveAll`: an entry is safe while fewer keys than
  are kept have been used after it.
- Theorem `not_mem_serveAll_write`: new keys push older entries out.
- Theorem `written_value_kept`: how long a written value is kept, and when writing counts
  as a use.
-/

namespace Stencil
namespace Render
namespace Cache

variable {κ ν ε : Type} [DecidableEq κ] {c : Cache κ ν} {key other : κ} {value v : ν}
  {limit : Nat} {S : Finset κ}

/-! ## Newer entries -/

/-- The keys of the entries that are newer than the one under a key. -/
def newer (key : κ) (c : Cache κ ν) : Finset κ := (c.keys.rtakeWhile (· ≠ key)).toFinset

theorem not_mem_newer (key : κ) (c : Cache κ ν) : key ∉ c.newer key := by
  rw [newer, List.mem_toFinset]
  intro hmem
  simpa using List.mem_rtakeWhile_imp hmem

/-- The keys other than a given one that calls name. -/
def otherKeys (key : κ) (calls : List (Call κ ν ε)) : Finset κ :=
  (calls.filterMap Call.target?).toFinset.erase key

/-- A call that neither gives up all entries nor writes under a key. -/
def Call.Spares (key : κ) (call : Call κ ν ε) : Prop :=
  call ≠ .clear ∧ ∀ value, call ≠ .write key value

theorem rtakeWhile_ne_append (front : List κ) {back : List κ} (h : key ∉ back) :
    (front ++ key :: back).rtakeWhile (· ≠ key) = back := by
  induction back using List.reverseRecOn with
  | nil => exact List.rtakeWhile_concat_neg _ _ _ (by simp)
  | append_singleton back k ih =>
      rw [List.mem_append, not_or, List.mem_singleton] at h
      rw [← List.cons_append, ← List.append_assoc,
        List.rtakeWhile_concat_pos _ _ _ (by simpa using Ne.symm h.2), ih h.1]

theorem newer_eq {front back : List κ} (hkeys : c.keys = front ++ key :: back)
    (h : key ∉ back) : c.newer key = back.toFinset := by
  rw [newer, hkeys, rtakeWhile_ne_append front h]

omit [DecidableEq κ] in
/-- Elements that are followed by few enough others are among the last ones. -/
theorem exists_rtake_eq (front : List κ) (key : κ) {back : List κ} (h : back.length < limit) :
    ∃ front', (front ++ key :: back).rtake limit = front' ++ key :: back := by
  refine ⟨front.drop ((front ++ key :: back).length - limit), ?_⟩
  rw [List.rtake, List.drop_append_of_le_length]
  simp only [List.length_append, List.length_cons]
  omega

omit [DecidableEq κ] in
theorem forall_mem_concat {back : List κ} (hback : ∀ k ∈ back, k ∈ S) (hother : other ∈ S) :
    ∀ k ∈ back ++ [other], k ∈ S := by
  intro k hk
  rcases List.mem_append.1 hk with hk | hk
  · exact hback k hk
  · exact List.mem_singleton.1 hk ▸ hother

/-- Writing under another key leaves the value of an entry that is kept. -/
theorem mem_write_of_ne (hdistinct : c.keys.Nodup) (h : (key, value) ∈ c.entries)
    (hne : key ≠ other) (hkept : key ∈ (c.write other v).keys) :
    (key, value) ∈ (c.write other v).entries := by
  obtain ⟨w, hw⟩ := mem_keys.1 hkept
  obtain ⟨-, hold⟩ := (mem_write_cases hdistinct hw).resolve_left fun heq => hne heq.1
  have hfind := (find?_eq_some_iff hdistinct).2 h
  rw [(find?_eq_some_iff hdistinct).2 hold] at hfind
  rwa [← Option.some.inj hfind]

/-! ## Safe entries -/

/-- An entry that is there, after which only certain keys have been used. -/
structure Safe (limit : Nat) (key : κ) (value : ν) (S : Finset κ) (c : Cache κ ν) : Prop where
  policy : c.policy = .keepRecent limit
  distinct : c.keys.Nodup
  mem : (key, value) ∈ c.entries
  newer : ∃ front back, c.keys = front ++ key :: back ∧ ∀ k ∈ back, k ∈ S

namespace Safe

theorem touch (h : Safe limit key value S c) (hother : other ∈ insert key S)
    (hkey : other ∈ c.keys) : Safe limit key value S (c.touch other) where
  policy := (policy_touch other c).trans h.policy
  distinct := nodup_keys_touch h.distinct
  mem := mem_touch.2 h.mem
  newer := by
    obtain ⟨front, back, hkeys, hback⟩ := h.newer
    rw [keys_touch h.policy hkey, hkeys]
    -- The used key moves to the end: the safe one itself, an older one or a newer one.
    by_cases heq : other = key
    · subst heq
      have hnot : other ∉ front := fun hmem =>
        List.disjoint_of_nodup_append (hkeys ▸ h.distinct) hmem (List.mem_cons_self ..)
      refine ⟨front ++ back, [], ?_, by simp⟩
      rw [List.erase_append_right _ hnot, List.erase_cons_head]
    · have hS : other ∈ S := (Finset.mem_insert.1 hother).resolve_left heq
      by_cases hfront : other ∈ front
      · refine ⟨front.erase other, back ++ [other], ?_, ?_⟩
        · rw [List.erase_append_left _ hfront, List.append_assoc, List.cons_append]
        · exact forall_mem_concat hback hS
      · refine ⟨front, back.erase other ++ [other], ?_, ?_⟩
        · rw [List.erase_append_right _ hfront, List.erase_cons_tail (by simpa using Ne.symm heq),
            List.append_assoc, List.cons_append]
        · exact forall_mem_concat (fun k hk => hback k (List.mem_of_mem_erase hk)) hS

/-- Before entries are given up for a new one, the keys after a safe entry are certain ones. -/
theorem exists_keys_write (h : Safe limit key value S c) (hother : other ∈ S) (v : ν) :
    ∃ front back, (c.write other v).keys = (front ++ key :: back).rtake limit ∧ back.Nodup ∧
      ∀ k ∈ back, k ∈ S := by
  obtain ⟨front, back, hkeys, hback⟩ := h.newer
  have hnodup : back.Nodup :=
    (List.nodup_cons.1 (List.Nodup.of_append_right (hkeys ▸ h.distinct))).2
  by_cases hmem : other ∈ c.keys
  · exact ⟨front, back, by rw [keys_write_of_mem h.policy hmem, hkeys], hnodup, hback⟩
  · have hnew : other ∉ back := fun hk => hmem (by simp [hkeys, hk])
    refine ⟨front, back ++ [other], ?_, List.concat_eq_append ▸ hnodup.concat hnew, ?_⟩
    · rw [keys_write_of_not_mem h.policy hmem, hkeys, List.append_assoc, List.cons_append]
    · exact forall_mem_concat hback hother

theorem write (h : Safe limit key value S c) (hcard : S.card < limit) (hkey : key ∉ S)
    (hother : other ∈ S) (v : ν) : Safe limit key value S (c.write other v) := by
  obtain ⟨front, back, hkeys, hnodup, hback⟩ := h.exists_keys_write hother v
  have hlength : back.length ≤ S.card := by
    rw [← List.toFinset_card_of_nodup hnodup]
    exact Finset.card_le_card fun k hk => hback k (List.mem_toFinset.1 hk)
  obtain ⟨front', hfront⟩ := exists_rtake_eq front key (hlength.trans_lt hcard)
  rw [hfront] at hkeys
  have hne : key ≠ other := fun heq => hkey (heq ▸ hother)
  exact
    { policy := h.policy
      distinct := nodup_keys_write h.distinct
      mem := mem_write_of_ne h.distinct h.mem hne (by simp [hkeys])
      newer := ⟨front', back, hkeys, hback⟩ }

/-- An entry stays safe while only certain keys are used, and not too many. -/
theorem serve (h : Safe limit key value S c) (hcard : S.card < limit) (hkey : key ∉ S)
    {call : Call κ ν ε} (hspares : call.Spares key)
    (htarget : ∀ k, call.target? = some k → k ∈ insert key S) :
    Safe limit key value S (c.serve call) := by
  have hmem : key ∈ c.keys := mem_keys.2 ⟨value, h.mem⟩
  have hserved := served c call
  generalize c.deed? call = deed at hserved
  generalize c.serve call = c' at hserved ⊢
  cases hserved with
  | idle => exact h
  | hit k hk hold => exact h.touch (htarget k hk) hold
  | made k v hk hnew =>
      have hne : k ≠ key := fun heq => hnew (heq ▸ hmem)
      exact h.write hcard hkey ((Finset.mem_insert.1 (htarget k hk)).resolve_left hne) v
  | changed k v hold =>
      have hne : k ≠ key := fun heq => hspares.2 v (heq ▸ rfl)
      exact h.write hcard hkey ((Finset.mem_insert.1 (htarget k rfl)).resolve_left hne) v
  | cleared => exact absurd rfl hspares.1

theorem serveAll (h : Safe limit key value S c) (hcard : S.card < limit) (hkey : key ∉ S)
    {calls : List (Call κ ν ε)} (hspares : ∀ call ∈ calls, call.Spares key)
    (hother : otherKeys key calls ⊆ S) : Safe limit key value S (c.serveAll calls) := by
  induction calls generalizing c with
  | nil => exact h
  | cons call calls ih =>
      have htarget : ∀ k, call.target? = some k → k ∈ insert key S := by
        intro k hk
        by_cases heq : k = key
        · exact Finset.mem_insert.2 (Or.inl heq)
        · refine Finset.mem_insert_of_mem (hother ?_)
          simp [otherKeys, hk, heq]
      refine ih (h.serve hcard hkey (hspares call (by simp)) htarget)
        (fun call' hcall' => hspares call' (List.mem_cons_of_mem _ hcall')) fun k hk => hother ?_
      simp only [otherKeys, Finset.mem_erase, List.mem_toFinset, List.mem_filterMap] at hk ⊢
      obtain ⟨hne, call', hcall', htarget'⟩ := hk
      exact ⟨hne, call', List.mem_cons_of_mem _ hcall', htarget'⟩

end Safe

/-! ## The place of a written entry -/

variable {deeds : List (Deed κ ν)}

/-- Writing over an entry leaves all keys in their places. -/
theorem Recent.keys_write (h : Recent limit c deeds) (hkey : key ∈ c.keys) (value : ν) :
    (c.write key value).keys = c.keys := by
  rw [keys_write_of_mem h.policy hkey, rtake_of_length_le h.length_keys_le]

/-- What is written comes last, if it is new and anything is kept. -/
theorem keys_write_new (hpolicy : c.policy = .keepRecent (limit + 1)) (hkey : key ∉ c.keys)
    (value : ν) : (c.write key value).keys = c.keys.rtake limit ++ [key] := by
  rw [keys_write_of_not_mem hpolicy hkey, List.rtake_concat_succ]

theorem Recent.mem_keys_write (h : Recent limit c deeds) (hlimit : 0 < limit) (value : ν) :
    key ∈ (c.write key value).keys := by
  by_cases hkey : key ∈ c.keys
  · rwa [h.keys_write hkey]
  · obtain ⟨n, rfl⟩ := Nat.exists_eq_add_of_lt hlimit
    rw [Nat.zero_add] at h
    simp [keys_write_new h.policy hkey]

/-- What was just written is safe, if the newer keys are certain ones. -/
theorem Recent.safe (h : Recent limit c deeds) (hlimit : 0 < limit)
    (hnewer : (c.write key value).newer key ⊆ S) :
    Safe limit key value S (c.write key value) := by
  have hdistinct : (c.write key value).keys.Nodup := nodup_keys_write h.distinct
  have hmem : key ∈ (c.write key value).keys := h.mem_keys_write hlimit value
  obtain ⟨front, back, hkeys⟩ := List.append_of_mem hmem
  have hback : key ∉ back :=
    (List.nodup_cons.1 (List.Nodup.of_append_right (hkeys ▸ hdistinct))).1
  rw [newer_eq hkeys hback] at hnewer
  obtain ⟨w, hw⟩ := mem_keys.1 hmem
  rcases mem_write_cases h.distinct hw with ⟨-, rfl⟩ | ⟨hne, -⟩
  · exact
      { policy := h.policy
        distinct := hdistinct
        mem := hw
        newer := ⟨front, back, hkeys, fun k hk => hnewer (List.mem_toFinset.2 hk)⟩ }
  · exact absurd rfl hne

/-- Nothing is newer than what is written under a key that is new or was the newest one. -/
theorem Recent.newer_write (h : Recent limit c deeds)
    (hkey : key ∉ c.keys ∨ c.keys.getLast? = some key) (value : ν) :
    (c.write key value).newer key = ∅ := by
  rcases hkey with hnew | hlast
  · cases limit with
    | zero => simp [newer, keys_write_of_not_mem h.policy hnew]
    | succ limit => exact newer_eq (keys_write_new h.policy hnew value) (by simp)
  · have hkeys := h.keys_write (List.mem_of_getLast? hlast) value
    rw [← List.dropLast_append_getLast? key hlast] at hkeys
    exact newer_eq hkeys (by simp)

/-! ## New keys -/

omit [DecidableEq κ] in
theorem rtake_rtake_append (n : Nat) (l back : List κ) :
    (l.rtake n ++ back).rtake n = (l ++ back).rtake n := by
  obtain ⟨older, hl, hlength⟩ := exists_eq_append_rtake n l
  rcases hlength with rfl | hlength
  · rw [List.nil_append] at hl
    rw [← hl]
  · conv_rhs => rw [hl, List.append_assoc]
    have hle : n ≤ (l.rtake n ++ back).length := by
      rw [List.length_append]
      omega
    rw [rtake_append_of_length_le hle]

/-- After new keys have been written, the last keys are left. -/
theorem keys_serveAll_write {c : Cache κ ν} (hpolicy : c.policy = .keepRecent limit)
    (hlength : c.keys.length ≤ limit) (value : ν) {fresh : List κ} (hfresh : fresh.Nodup)
    (hnew : ∀ k ∈ fresh, k ∉ c.keys) :
    (c.serveAll (fresh.map fun k => (.write k value : Call κ ν ε))).keys =
      (c.keys ++ fresh).rtake limit := by
  induction fresh generalizing c with
  | nil =>
      rw [List.append_nil, rtake_of_length_le hlength]
      rfl
  | cons k fresh ih =>
      rw [List.nodup_cons] at hfresh
      have hkeys := keys_write_of_not_mem hpolicy (hnew k (by simp)) value
      have hrest : ∀ k' ∈ fresh, k' ∉ (c.write k value).keys := by
        intro k' hk' hmem
        rw [hkeys] at hmem
        rcases List.mem_append.1 (List.mem_of_mem_drop hmem) with hold | hsame
        · exact hnew k' (List.mem_cons_of_mem _ hk') hold
        · exact hfresh.1 (List.mem_singleton.1 hsame ▸ hk')
      have hle : (c.write k value).keys.length ≤ limit := by
        rw [hkeys, length_rtake]
        exact Nat.min_le_left _ _
      have hall := ih (c := c.write k value) hpolicy hle hfresh.2 hrest
      rw [hkeys, rtake_rtake_append, List.append_assoc] at hall
      exact hall

/-- As many new keys as there is room for after the newer ones push an entry out. -/
theorem not_mem_serveAll_write {front back fresh : List κ} (hpolicy : c.policy = .keepRecent limit)
    (hlength : c.keys.length ≤ limit) (hkeys : c.keys = front ++ key :: back)
    (hdistinct : c.keys.Nodup) (hfresh : fresh.Nodup) (hnew : ∀ k ∈ fresh, k ∉ c.keys)
    (hroom : back.length + fresh.length = limit) (value : ν) :
    key ∉ (c.serveAll (fresh.map fun k => (.write k value : Call κ ν ε))).keys := by
  have hlast : (front ++ key :: back ++ fresh).rtake limit = back ++ fresh := by
    rw [List.append_assoc, List.cons_append, List.append_cons, rtake_append_of_length_le,
      rtake_of_length_le]
    · rw [List.length_append, hroom]
    · rw [List.length_append, hroom]
  rw [keys_serveAll_write hpolicy hlength value hfresh hnew, hkeys, hlast, List.mem_append, not_or]
  constructor
  · exact (List.nodup_cons.1 (List.Nodup.of_append_right (hkeys ▸ hdistinct))).1
  · intro hmem
    exact hnew key hmem (by simp [hkeys])

/-- An entry that is not the newest one can be pushed out by fewer other keys than are kept, also
if it is written over first. -/
theorem Recent.exists_pushing_out [Infinite κ] (h : Recent limit c deeds) (hkey : key ∈ c.keys)
    (hlast : c.keys.getLast? ≠ some key) (value : ν) :
    ∃ later : List (Call κ ν ε), (∀ call ∈ later, call.Spares key) ∧
      (otherKeys key later).card < limit ∧ key ∉ ((c.write key value).serveAll later).keys := by
  obtain ⟨front, back, hkeys⟩ := List.append_of_mem hkey
  have hback : 0 < back.length := by
    rw [List.length_pos_iff]
    rintro rfl
    exact hlast (by simp [hkeys])
  have hlength : back.length < limit := by
    have hle := h.length_keys_le
    rw [hkeys, List.length_append, List.length_cons] at hle
    omega
  -- The newer entries already fill a part of the room, and new keys need to fill only the rest.
  obtain ⟨fresh, hfresh, hcard⟩ :=
    (Finset.finite_toSet c.keys.toFinset).infinite_compl.exists_subset_card_eq (limit - back.length)
  have hnew : ∀ k ∈ fresh.toList, k ∉ c.keys := fun k hk hmem =>
    hfresh (Finset.mem_coe.2 (Finset.mem_toList.1 hk)) (by simpa using hmem)
  have hwritten := h.keys_write hkey value
  refine ⟨fresh.toList.map fun k => .write k value, ?_, ?_, ?_⟩
  · intro call hcall
    obtain ⟨k, hk, rfl⟩ := List.mem_map.1 hcall
    refine ⟨by simp, fun w heq => hnew k hk ?_⟩
    obtain ⟨rfl, -⟩ := Call.write.inj heq
    exact hkey
  · have hsubset :
        otherKeys key (fresh.toList.map fun k => (.write k value : Call κ ν ε)) ⊆ fresh := by
      intro k hk
      simpa [otherKeys, Call.target?] using (Finset.mem_erase.1 hk).2
    have := Finset.card_le_card hsubset
    omega
  · have hpolicy : (c.write key value).policy = .keepRecent limit := h.policy
    have hroom : back.length + fresh.toList.length = limit := by
      rw [Finset.length_toList]
      omega
    rw [← hwritten] at hkeys hnew
    exact not_mem_serveAll_write hpolicy (hwritten ▸ h.length_keys_le) hkeys
      (nodup_keys_write h.distinct) (Finset.nodup_toList fresh) hnew hroom value

/-! ## How long a value is kept -/

theorem fst_get (c : Cache κ ν) (key : κ) : (c.get key).1 = c.find? key := by
  unfold get
  cases c.find? key <;> rfl

/-- A value that is written into a bounded cache, in any state that calls can bring about, is
still given under its key as long as the entry is not written over and the keys that are named
after it, together with the keys that are newer once it is written, are fewer than are kept.
Counting the keys named after it is enough exactly if the key is new or was the newest one: writing
over an older entry is no use of it. -/
theorem written_value_kept [Infinite κ] (limit : Nat) (calls : List (Call κ ν ε)) (key : κ)
    (value : ν) :
    let c := (empty (.keepRecent limit) : Cache κ ν).serveAll calls
    (∀ later : List (Call κ ν ε), (∀ call ∈ later, call.Spares key) →
        (otherKeys key later ∪ (c.write key value).newer key).card < limit →
        (((c.write key value).serveAll later).get key).1 = some value) ∧
      ((∀ later : List (Call κ ν ε), (∀ call ∈ later, call.Spares key) →
          (otherKeys key later).card < limit →
          (((c.write key value).serveAll later).get key).1 = some value) ↔
        key ∉ c.keys ∨ c.keys.getLast? = some key) := by
  intro c
  have hrecent : Recent limit c ([] ++ history (empty (.keepRecent limit)) calls) :=
    (recent_of_entries_eq_nil rfl rfl rfl).serveAll calls
  have hkept : ∀ later : List (Call κ ν ε), (∀ call ∈ later, call.Spares key) →
      (otherKeys key later ∪ (c.write key value).newer key).card < limit →
      (((c.write key value).serveAll later).get key).1 = some value := by
    intro later hspares hcard
    have hkey : key ∉ otherKeys key later ∪ (c.write key value).newer key := by
      rw [Finset.mem_union, not_or]
      exact ⟨Finset.notMem_erase _ _, not_mem_newer key _⟩
    have hsafe := (hrecent.safe (Nat.zero_lt_of_lt hcard) Finset.subset_union_right).serveAll
      hcard hkey hspares Finset.subset_union_left
    rw [fst_get]
    exact (find?_eq_some_iff hsafe.distinct).2 hsafe.mem
  refine ⟨hkept, fun hall => ?_, fun hkey later hspares hcard => hkept later hspares ?_⟩
  · by_contra hkey
    rw [not_or, not_not] at hkey
    obtain ⟨later, hspares, hcard, hout⟩ := hrecent.exists_pushing_out hkey.1 hkey.2 value
    have hfound := hall later hspares hcard
    rw [fst_get] at hfound
    exact hout (mem_keys_of_find? hfound)
  · rwa [hrecent.newer_write hkey, Finset.union_empty]

/-- An entry is made under 1, and then one under 2. -/
def pairCalls : List (Call Nat Nat Unit) := [.write 1 10, .write 2 20]

/-- With room for a third entry, the value that was written over the first one is still there after
a new key was used. -/
theorem written_value_kept_roomy :
    let c := (empty (.keepRecent 3) : Cache Nat Nat).serveAll pairCalls
    let later : List (Call Nat Nat Unit) := [.write 3 30, .get 3, .write 2 21]
    c.keys = [1, 2] ∧ (c.write 1 11).newer 1 = {2} ∧
      (((c.write 1 11).serveAll later).get 1).1 = some 11 := by
  intro c later
  refine ⟨by decide, by decide, ?_⟩
  refine (written_value_kept 3 pairCalls 1 11).1 later ?_ ?_
  · simp [later, Call.Spares]
  · decide

/-- With room for two entries, the value that was just written over the first one is lost to a
single new key. -/
theorem written_value_lost :
    let c := (empty (.keepRecent 2) : Cache Nat Nat).serveAll pairCalls
    let later : List (Call Nat Nat Unit) := [.write 3 30]
    (∀ call ∈ later, call.Spares 1) ∧ (otherKeys 1 later).card = 1 ∧
      (((c.write 1 11).serveAll later).get 1).1 = none := by
  intro c later
  refine ⟨?_, by decide, by decide⟩
  simp [later, Call.Spares]

end Cache
end Render
end Stencil
