import Stencil.Text.Utf8

/-!
# Texts as bytes

Encoded texts are decoded to themselves, and a byte below 128 in them stands for the character of
that number and nothing else.

Main results:

- Theorem `decode_encode`: an encoded text is decoded.
- Theorem `mem_encode_iff`: where a byte below 128 comes from.
-/

namespace Stencil.Text.Utf8

variable {t : Text}

/-! ## Bytes of a character -/

/-- The characters of seven bits are their own bytes. -/
theorem encodeChar_of_one {c : Char} (hc : c.toNat < 0x80) :
    encodeChar c = [UInt8.ofNat c.toNat] := by
  rw [encodeChar]
  exact if_pos hc

/-- How the number of a character is spread over its bytes. -/
theorem encodeChar_of_two (c : Char) (h : 0x80 ≤ c.toNat) (h' : c.toNat < 0x800) :
    encodeChar c = [UInt8.ofNat (0xC0 + c.toNat / 64), UInt8.ofNat (0x80 + c.toNat % 64)] := by
  simp only [encodeChar, continuation, twoTo, Nat.pow_eq]
  rw [if_neg (by omega), if_pos h']
  simp

theorem encodeChar_of_three (c : Char) (h : 0x800 ≤ c.toNat) (h' : c.toNat < 0x10000) :
    encodeChar c = [UInt8.ofNat (0xE0 + c.toNat / 4096),
      UInt8.ofNat (0x80 + c.toNat / 64 % 64), UInt8.ofNat (0x80 + c.toNat % 64)] := by
  simp only [encodeChar, continuation, twoTo, Nat.pow_eq]
  rw [if_neg (by omega), if_neg (by omega), if_pos h']
  simp

theorem encodeChar_of_four (c : Char) (h : 0x10000 ≤ c.toNat) :
    encodeChar c = [UInt8.ofNat (0xF0 + c.toNat / 262144),
      UInt8.ofNat (0x80 + c.toNat / 4096 % 64), UInt8.ofNat (0x80 + c.toNat / 64 % 64),
      UInt8.ofNat (0x80 + c.toNat % 64)] := by
  simp only [encodeChar, continuation, twoTo, Nat.pow_eq]
  rw [if_neg (by omega), if_neg (by omega), if_neg (by omega)]
  simp

/-- The numbers of characters leave out the halves of pairs. -/
theorem toNat_range (c : Char) : c.toNat < 0xD800 ∨ 0xDFFF < c.toNat ∧ c.toNat < 0x110000 :=
  c.valid

theorem toNat_ofNat_of_lt {n : Nat} (h : n < 256) : (UInt8.ofNat n).toNat = n := by
  simp [Nat.mod_eq_of_lt h]

/-- Six bits make a continuation byte. -/
theorem isContinuation_ofNat (n : Nat) : isContinuation (UInt8.ofNat (0x80 + n % 64)) = true := by
  rw [isContinuation, toNat_ofNat_of_lt (by omega)]
  simp
  omega

/-- The six bits of a continuation byte are read back. -/
theorem payload_ofNat (n : Nat) : payload (UInt8.ofNat (0x80 + n % 64)) = n % 64 := by
  rw [payload, toNat_ofNat_of_lt (by omega)]
  omega

/-! ## Decoding -/

variable {a b c d : UInt8} {bytes : List UInt8}

/-- One byte is read as a character when it begins with a zero bit.  The next theorems do the same
for two, three and four bytes. -/
theorem decodeFrom_of_one (position : Nat) (ha : a.toNat < 0x80) :
    decodeFrom position (a :: bytes) =
      (decodeFrom (position + 1) bytes).map (Char.ofNat a.toNat :: ·) := by
  rw [decodeFrom.eq_def]
  simp only [ha, if_true]

theorem decodeFrom_of_two (position : Nat) (ha : 0xC2 ≤ a.toNat) (ha' : a.toNat < 0xE0)
    (hb : isSecond a b = true) :
    decodeFrom position (a :: b :: bytes) = (decodeFrom (position + 2) bytes).map
      (Char.ofNat (a.toNat % 32 * 64 + payload b) :: ·) := by
  have hlow : ¬ a.toNat < 0x80 := by omega
  have hbad : (decide (a.toNat < 0xC2) || decide (0xF5 ≤ a.toNat)) = false := by
    simp
    omega
  rw [decodeFrom.eq_def]
  simp only [hlow, hbad, hb, ha', if_false, if_true, Bool.not_true, Bool.false_eq_true]

theorem decodeFrom_of_three (position : Nat) (ha : 0xE0 ≤ a.toNat) (ha' : a.toNat < 0xF0)
    (hb : isSecond a b = true) (hc : isContinuation c = true) :
    decodeFrom position (a :: b :: c :: bytes) = (decodeFrom (position + 3) bytes).map
      (Char.ofNat (a.toNat % 16 * 4096 + payload b * 64 + payload c) :: ·) := by
  have hlow : ¬ a.toNat < 0x80 := by omega
  have hbad : (decide (a.toNat < 0xC2) || decide (0xF5 ≤ a.toNat)) = false := by
    simp
    omega
  have hlong : ¬ a.toNat < 0xE0 := by omega
  rw [decodeFrom.eq_def]
  simp only [hlow, hbad, hb, hlong, hc, ha', if_false, if_true, Bool.not_true, Bool.false_eq_true]

theorem decodeFrom_of_four (position : Nat) (ha : 0xF0 ≤ a.toNat) (ha' : a.toNat < 0xF5)
    (hb : isSecond a b = true) (hc : isContinuation c = true) (hd : isContinuation d = true) :
    decodeFrom position (a :: b :: c :: d :: bytes) = (decodeFrom (position + 4) bytes).map
      (Char.ofNat (a.toNat % 8 * 262144 + payload b * 4096 + payload c * 64 + payload d) :: ·) := by
  have hlow : ¬ a.toNat < 0x80 := by omega
  have hbad : (decide (a.toNat < 0xC2) || decide (0xF5 ≤ a.toNat)) = false := by
    simp
    omega
  have hlong : ¬ a.toNat < 0xE0 := by omega
  have hlonger : ¬ a.toNat < 0xF0 := by omega
  rw [decodeFrom.eq_def]
  simp only [hlow, hbad, hb, hlong, hlonger, hc, hd, if_false, Bool.not_true,
    Bool.false_eq_true]

/-- The second byte of a character may follow its first one. -/
theorem isSecond_ofNat {n k : Nat} (hn : n < 256) (hk : k < 64)
    (h : (n = 0xE0 → 0x20 ≤ k) ∧ (n = 0xED → k < 0x20) ∧ (n = 0xF0 → 0x10 ≤ k) ∧
      (n = 0xF4 → k < 0x10)) :
    isSecond (UInt8.ofNat n) (UInt8.ofNat (0x80 + k)) = true := by
  have hcontinuation : isContinuation (UInt8.ofNat (0x80 + k)) = true := by
    have hself : k % 64 = k := Nat.mod_eq_of_lt hk
    rw [← hself]
    exact isContinuation_ofNat k
  have hbyte : ∀ m < 256, UInt8.ofNat n = UInt8.ofNat m ↔ n = m := by
    intro m hm
    rw [← UInt8.toNat_inj, toNat_ofNat_of_lt hn, toNat_ofNat_of_lt hm]
  obtain ⟨he0, hed, hf0, hf4⟩ := h
  have hk' : (UInt8.ofNat (0x80 + k)).toNat = 0x80 + k := toNat_ofNat_of_lt (by omega)
  rw [isSecond, hcontinuation, Bool.true_and, hk']
  simp only [show (0xE0 : UInt8) = UInt8.ofNat 0xE0 from rfl,
    show (0xED : UInt8) = UInt8.ofNat 0xED from rfl,
    show (0xF0 : UInt8) = UInt8.ofNat 0xF0 from rfl,
    show (0xF4 : UInt8) = UInt8.ofNat 0xF4 from rfl,
    hbyte _ (show 0xE0 < 256 by omega), hbyte _ (show 0xED < 256 by omega),
    hbyte _ (show 0xF0 < 256 by omega), hbyte _ (show 0xF4 < 256 by omega)]
  split
  · simpa using by omega
  · split
    · simpa using by omega
    · split
      · simpa using by omega
      · split
        · simpa using by omega
        · rfl

/-- The bytes of a character are decoded to it, whatever follows. -/
theorem exists_decodeFrom_encodeChar (c : Char) (bytes : List UInt8) (position : Nat) :
    ∃ next, decodeFrom position (encodeChar c ++ bytes) = (decodeFrom next bytes).map (c :: ·) := by
  have hrange := toNat_range c
  by_cases hone : c.toNat < 0x80
  · have hbyte : (UInt8.ofNat c.toNat).toNat = c.toNat := toNat_ofNat_of_lt (by omega)
    refine ⟨position + 1, ?_⟩
    rw [encodeChar_of_one hone, List.singleton_append, decodeFrom_of_one position (by omega), hbyte,
      Char.ofNat_toNat]
  by_cases htwo : c.toNat < 0x800
  · have hbyte : (UInt8.ofNat (0xC0 + c.toNat / 64)).toNat = 0xC0 + c.toNat / 64 :=
      toNat_ofNat_of_lt (by omega)
    have hvalue : (0xC0 + c.toNat / 64) % 32 * 64 + c.toNat % 64 = c.toNat := by omega
    refine ⟨position + 2, ?_⟩
    rw [encodeChar_of_two c (by omega) htwo, List.cons_append, List.singleton_append,
      decodeFrom_of_two position (by omega) (by omega)
        (isSecond_ofNat (by omega) (by omega) (by omega)),
      hbyte, payload_ofNat, hvalue, Char.ofNat_toNat]
  by_cases hthree : c.toNat < 0x10000
  · have hbyte : (UInt8.ofNat (0xE0 + c.toNat / 4096)).toNat = 0xE0 + c.toNat / 4096 :=
      toNat_ofNat_of_lt (by omega)
    have hvalue : (0xE0 + c.toNat / 4096) % 16 * 4096 + c.toNat / 64 % 64 * 64 + c.toNat % 64 =
        c.toNat := by omega
    refine ⟨position + 3, ?_⟩
    rw [encodeChar_of_three c (by omega) hthree, List.cons_append, List.cons_append,
      List.singleton_append,
      decodeFrom_of_three position (by omega) (by omega)
        (isSecond_ofNat (by omega) (by omega) (by omega)) (isContinuation_ofNat _),
      hbyte, payload_ofNat, payload_ofNat, hvalue, Char.ofNat_toNat]
  · have hbyte : (UInt8.ofNat (0xF0 + c.toNat / 262144)).toNat = 0xF0 + c.toNat / 262144 :=
      toNat_ofNat_of_lt (by omega)
    have hvalue : (0xF0 + c.toNat / 262144) % 8 * 262144 + c.toNat / 4096 % 64 * 4096 +
        c.toNat / 64 % 64 * 64 + c.toNat % 64 = c.toNat := by omega
    refine ⟨position + 4, ?_⟩
    rw [encodeChar_of_four c (by omega), List.cons_append, List.cons_append, List.cons_append,
      List.singleton_append,
      decodeFrom_of_four position (by omega) (by omega)
        (isSecond_ofNat (by omega) (by omega) (by omega)) (isContinuation_ofNat _)
        (isContinuation_ofNat _),
      hbyte, payload_ofNat, payload_ofNat, payload_ofNat, hvalue, Char.ofNat_toNat]

/-- An encoded text is read back from wherever it stands. -/
theorem decodeFrom_encode (t : Text) (position : Nat) :
    decodeFrom position (encode t) = .ok t := by
  induction t generalizing position with
  | nil => rw [encode, List.flatMap_nil, decodeFrom]
  | cons c t ih =>
      obtain ⟨next, hnext⟩ := exists_decodeFrom_encodeChar c (encode t) position
      rw [encode, List.flatMap_cons]
      exact hnext.trans (by rw [ih]; rfl)

/-- An encoded text is decoded to itself. -/
theorem decode_encode (t : Text) : decode (encode t) = .ok t := decodeFrom_encode t 0

/-! ## Single bytes -/

/-- The bytes of a character from 128 on are all from 128 on. -/
theorem le_toNat_of_mem_encodeChar {c : Char} (hc : 0x80 ≤ c.toNat) {byte : UInt8}
    (h : byte ∈ encodeChar c) : 0x80 ≤ byte.toNat := by
  have hrange := toNat_range c
  have hbytes : ∃ n, 0x80 ≤ n ∧ n < 256 ∧ byte = UInt8.ofNat n := by
    by_cases htwo : c.toNat < 0x800
    · rw [encodeChar_of_two c hc htwo] at h
      simp only [List.mem_cons, List.not_mem_nil, or_false] at h
      obtain rfl | rfl := h
      all_goals exact ⟨_, by omega, by omega, rfl⟩
    by_cases hthree : c.toNat < 0x10000
    · rw [encodeChar_of_three c (by omega) hthree] at h
      simp only [List.mem_cons, List.not_mem_nil, or_false] at h
      obtain rfl | rfl | rfl := h
      all_goals exact ⟨_, by omega, by omega, rfl⟩
    · rw [encodeChar_of_four c (by omega)] at h
      simp only [List.mem_cons, List.not_mem_nil, or_false] at h
      obtain rfl | rfl | rfl | rfl := h
      all_goals exact ⟨_, by omega, by omega, rfl⟩
  obtain ⟨n, hn, hn', rfl⟩ := hbytes
  rwa [toNat_ofNat_of_lt hn']

/-- A byte below 128 is the only one of its character. -/
theorem mem_encodeChar_iff {c : Char} {n : Nat} (hn : n < 0x80) :
    UInt8.ofNat n ∈ encodeChar c ↔ c.toNat = n := by
  by_cases hc : c.toNat < 0x80
  · rw [encodeChar_of_one hc, List.mem_singleton, ← UInt8.toNat_inj, toNat_ofNat_of_lt (by omega),
      toNat_ofNat_of_lt (by omega), eq_comm]
  · refine iff_of_false (fun hmem => ?_) (by omega)
    have hbyte := le_toNat_of_mem_encodeChar (by omega) hmem
    rw [toNat_ofNat_of_lt (by omega)] at hbyte
    omega

/-- A byte below 128 stands for the character of that number. -/
theorem mem_encode_iff {c : Char} (hc : c.toNat < 0x80) :
    UInt8.ofNat c.toNat ∈ encode t ↔ c ∈ t := by
  simp only [encode, List.mem_flatMap, mem_encodeChar_iff hc]
  exact ⟨fun ⟨d, hd, heq⟩ => Char.toNat_inj.1 heq ▸ hd, fun h => ⟨c, h, rfl⟩⟩

end Stencil.Text.Utf8
