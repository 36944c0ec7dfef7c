import BufferMachine.Text.Utf8

/-!
# What decoding can take in

A text need not be UTF-8, and yet decoding keeps the ASCII bytes of a text apart from all others: an
ASCII byte is always a character of its own, and a character that starts with any other byte has a
code point above the ASCII range and takes in no ASCII byte.  This holds of well-formed, truncated,
overlong and stray sequences alike, and it is all that the scanner needs to know about decoding.
-/

namespace BufferMachine.Utf8

/-- An ASCII byte is a character of its own. -/
theorem decodeAt_ascii {b : UInt8} (rest : Bytes) (h : b < 0x80) : decodeAt b rest = ⟨b.toNat, 1⟩ :=
  if_pos h

/-- A character outside the ASCII range: its code point is, and so is every byte after the first
that it takes from the text `rest` behind that one. -/
structure OutsideAscii (d : Decoded) (rest : Bytes) : Prop where
  code_ge : 0x80 ≤ d.code
  tail : ∃ extra ≤ rest.length, d.width = extra + 1 ∧ ∀ b ∈ rest.take extra, 0x80 ≤ b

/-- A continuation byte is no ASCII byte, provided that the bound asked for is none. -/
theorem le_of_isTail {low high b : UInt8} (hlow : 0x80 ≤ low) (h : isTail low high b = true) :
    0x80 ≤ b := by
  simp only [isTail, Bool.and_eq_true, decide_eq_true_eq] at h
  exact UInt8.le_trans hlow h.1

theorem undecodable_outsideAscii (rest : Bytes) : OutsideAscii undecodable rest where
  code_ge := by decide
  tail := ⟨0, Nat.zero_le _, rfl, by simp⟩

/-- The second byte of a three-byte form is bounded so that no code point below U+0800 comes out. -/
theorem secondOfThree_bounds {b c : UInt8} (h : secondOfThree b c = true) :
    0x80 ≤ c ∧ (b = 0xE0 → 0xA0 ≤ c) ∧ c ≤ 0xBF := by
  simp only [secondOfThree, isTail, Bool.and_eq_true, decide_eq_true_eq] at h
  grind

/-- The second byte of a four-byte form is bounded so that no code point below U+10000 comes out. -/
theorem secondOfFour_bounds {b c : UInt8} (h : secondOfFour b c = true) :
    0x80 ≤ c ∧ (b = 0xF0 → 0x90 ≤ c) ∧ c ≤ 0xBF := by
  simp only [secondOfFour, isTail, Bool.and_eq_true, decide_eq_true_eq] at h
  grind

theorem decodeTwo_outsideAscii {b : UInt8} (rest : Bytes) (hlow : ¬ b < 0xC2) (hhigh : b < 0xE0) :
    OutsideAscii (decodeTwo b rest) rest := by
  unfold decodeTwo
  split
  · next c more =>
    split
    · next hc =>
      refine ⟨?_, 1, by simp, rfl, ?_⟩
      · have hb : 0xC2 ≤ b.toNat := UInt8.not_lt.mp hlow
        have hb' : b.toNat < 0xE0 := hhigh
        simp only
        omega
      · simpa using le_of_isTail (by decide) hc
    · exact undecodable_outsideAscii _
  · exact undecodable_outsideAscii _

theorem decodeThree_outsideAscii {b : UInt8} (rest : Bytes) (hlow : ¬ b < 0xE0) (hhigh : b < 0xF0) :
    OutsideAscii (decodeThree b rest) rest := by
  unfold decodeThree
  split
  · next c d more =>
    split
    · next h =>
      rw [Bool.and_eq_true] at h
      obtain ⟨hc, hc₀, hc'⟩ := secondOfThree_bounds h.1
      have hd := le_of_isTail (by decide) h.2
      refine ⟨?_, 2, by simp, rfl, by simp [hc, hd]⟩
      -- the lead byte or, if its payload is zero, the second byte makes the code point large enough
      have hb : 0xE0 ≤ b.toNat := UInt8.not_lt.mp hlow
      have hb' : b.toNat < 0xF0 := hhigh
      have hcn : c.toNat ≤ 0xBF := hc'
      by_cases hlead : b = 0xE0
      · have hc₁ : 0xA0 ≤ c.toNat := hc₀ hlead
        simp only [payload]
        omega
      · have : b.toNat ≠ 0xE0 := fun heq => hlead (UInt8.toNat_inj.mp heq)
        simp only [payload]
        omega
    · exact undecodable_outsideAscii _
  · exact undecodable_outsideAscii _

theorem decodeFour_outsideAscii {b : UInt8} (rest : Bytes) (hlow : ¬ b < 0xF0) (hhigh : b < 0xF5) :
    OutsideAscii (decodeFour b rest) rest := by
  unfold decodeFour
  split
  · next c d e more =>
    split
    · next h =>
      simp only [Bool.and_eq_true] at h
      obtain ⟨⟨hsecond, hthird⟩, hfourth⟩ := h
      obtain ⟨hc, hc₀, hc'⟩ := secondOfFour_bounds hsecond
      have hd := le_of_isTail (by decide) hthird
      have he := le_of_isTail (by decide) hfourth
      refine ⟨?_, 3, by simp, rfl, by simp [hc, hd, he]⟩
      have hb : 0xF0 ≤ b.toNat := UInt8.not_lt.mp hlow
      have hb' : b.toNat < 0xF5 := hhigh
      have hcn : c.toNat ≤ 0xBF := hc'
      by_cases hlead : b = 0xF0
      · have hc₁ : 0x90 ≤ c.toNat := hc₀ hlead
        simp only [payload]
        omega
      · have : b.toNat ≠ 0xF0 := fun heq => hlead (UInt8.toNat_inj.mp heq)
        simp only [payload]
        omega
    · exact undecodable_outsideAscii _
  · exact undecodable_outsideAscii _

/-- **Decoding takes in no ASCII byte but a leading one.**  A character that does not start with an
ASCII byte lies outside the ASCII range with all its bytes. -/
theorem decodeAt_outsideAscii {b : UInt8} (rest : Bytes) (h : ¬ b < 0x80) :
    OutsideAscii (decodeAt b rest) rest := by
  unfold decodeAt
  rw [if_neg h]
  split
  · exact undecodable_outsideAscii rest
  · next hlow =>
    split
    · next hhigh => exact decodeTwo_outsideAscii rest hlow hhigh
    · next hlow =>
      split
      · next hhigh => exact decodeThree_outsideAscii rest hlow hhigh
      · next hlow =>
        split
        · next hhigh => exact decodeFour_outsideAscii rest hlow hhigh
        · exact undecodable_outsideAscii rest

end BufferMachine.Utf8
