import BufferMachine.Proofs.Lexeme
import Mathlib.Data.List.Basic

/-!
# Texts and their characters

Decoding undoes encoding: where the bytes of a character stand, that character is read and nothing
else, and what is read otherwise is a stray byte, with which no character begins.  So every text is
made of the bytes of characters and of stray bytes in one way only, and what holds of texts can be
shown along their characters (`characterInduction`).
-/

namespace BufferMachine

namespace Utf8

theorem ofNat_eq_iff_of_lt {n : Nat} (h : n < 256) (b : UInt8) :
    UInt8.ofNat n = b ↔ n = b.toNat := by
  rw [← UInt8.toNat_inj, UInt8.toNat_ofNat_of_lt' h]

theorem isTail_iff {low high b : UInt8} :
    isTail low high b = true ↔ low.toNat ≤ b.toNat ∧ b.toNat ≤ high.toNat := by
  simp only [isTail, Bool.and_eq_true, decide_eq_true_eq, UInt8.le_iff_toNat_le]

/-- After one lead byte the second byte has another lower bound, and after one of them another upper
bound. -/
theorem isTail_ite_iff {b c low high : UInt8} (least most : UInt8) (hlow : 0x80 ≤ low.toNat)
    (hhigh : high.toNat ≤ 0xBF) :
    isTail (if b = least then low else 0x80) (if b = most then high else 0xBF) c = true ↔
      0x80 ≤ c.toNat ∧ c.toNat ≤ 0xBF ∧ (b.toNat = least.toNat → low.toNat ≤ c.toNat) ∧
        (b.toNat = most.toNat → c.toNat ≤ high.toNat) := by
  rw [isTail_iff, UInt8.toNat_inj, UInt8.toNat_inj]
  by_cases hleast : b = least
  · by_cases hmost : b = most
    · simp only [eq_true hleast, eq_true hmost, if_true, true_implies]
      omega
    · simp only [eq_true hleast, eq_false hmost, if_true, if_false, true_implies,
        false_implies, and_true, UInt8.reduceToNat]
      omega
  · by_cases hmost : b = most
    · simp only [eq_false hleast, eq_true hmost, if_true, if_false, true_implies,
        false_implies, true_and, UInt8.reduceToNat]
      omega
    · simp only [eq_false hleast, eq_false hmost, if_false, false_implies, and_true,
        UInt8.reduceToNat]

theorem secondOfThree_iff {b c : UInt8} :
    secondOfThree b c = true ↔
      0x80 ≤ c.toNat ∧ c.toNat ≤ 0xBF ∧ (b.toNat = 0xE0 → 0xA0 ≤ c.toNat) ∧
        (b.toNat = 0xED → c.toNat ≤ 0x9F) :=
  isTail_ite_iff 0xE0 0xED (by decide) (by decide)

theorem secondOfFour_iff {b c : UInt8} :
    secondOfFour b c = true ↔
      0x80 ≤ c.toNat ∧ c.toNat ≤ 0xBF ∧ (b.toNat = 0xF0 → 0x90 ≤ c.toNat) ∧
        (b.toNat = 0xF4 → c.toNat ≤ 0x8F) :=
  isTail_ite_iff 0xF0 0xF4 (by decide) (by decide)

/-! ### Reading what was encoded -/

theorem decodeTwo_of_tail {b c : UInt8} (rest : Bytes) (hc : isTail 0x80 0xBF c = true) :
    decodeTwo b (c :: rest) = ⟨b.toNat % 32 * 64 + payload c, 2⟩ := by
  simp only [decodeTwo, hc, if_true]

theorem decodeThree_of_tail {b c d : UInt8} (rest : Bytes) (hc : secondOfThree b c = true)
    (hd : isTail 0x80 0xBF d = true) :
    decodeThree b (c :: d :: rest) = ⟨(b.toNat % 16 * 64 + payload c) * 64 + payload d, 3⟩ := by
  simp only [decodeThree, hc, hd, Bool.and_self, if_true]

theorem decodeFour_of_tail {b c d e : UInt8} (rest : Bytes) (hc : secondOfFour b c = true)
    (hd : isTail 0x80 0xBF d = true) (he : isTail 0x80 0xBF e = true) :
    decodeFour b (c :: d :: e :: rest) =
      ⟨((b.toNat % 8 * 64 + payload c) * 64 + payload d) * 64 + payload e, 4⟩ := by
  simp only [decodeFour, hc, hd, he, Bool.and_self, if_true]

section

variable {v : Nat} (rest : Bytes)

theorem isTail_ofNat {n : Nat} (h : n < 64) : isTail 0x80 0xBF (UInt8.ofNat (n + 128)) = true := by
  rw [isTail_iff, UInt8.toNat_ofNat_of_lt' (show _ < 256 by omega)]
  exact ⟨Nat.le_add_left _ _, Nat.lt_succ_iff.mp (by simp; omega)⟩

theorem payload_ofNat {n : Nat} (h : n < 64) : payload (UInt8.ofNat (n + 128)) = n := by
  rw [payload, UInt8.toNat_ofNat_of_lt' (show _ < 256 by omega)]
  omega

theorem decode_twoBytes (hlow : 0x7F < v) (hhigh : v ≤ 0x7FF) :
    decode (UInt8.ofNat (v / 64 % 32 + 192) :: UInt8.ofNat (v % 64 + 128) :: rest) = ⟨v, 2⟩ := by
  have hb := UInt8.toNat_ofNat_of_lt' (show v / 64 % 32 + 192 < 256 by omega)
  simp only [decode, decodeAt, UInt8.lt_iff_toNat_lt, hb]
  rw [if_neg (by simp), if_neg (by simp; omega), if_pos (by simp; omega),
    decodeTwo_of_tail rest (isTail_ofNat (Nat.mod_lt v (by decide))),
    payload_ofNat (Nat.mod_lt v (by decide)), hb]
  exact congrArg (Decoded.mk · 2) (by omega)

theorem decode_threeBytes (hlow : 0x7FF < v) (hhigh : v ≤ 0xFFFF)
    (hsurrogate : v < 0xD800 ∨ 0xDFFF < v) :
    decode (UInt8.ofNat (v / 4096 % 16 + 224) :: UInt8.ofNat (v / 64 % 64 + 128) ::
      UInt8.ofNat (v % 64 + 128) :: rest) =
      ⟨v, 3⟩ := by
  have hb := UInt8.toNat_ofNat_of_lt' (show v / 4096 % 16 + 224 < 256 by omega)
  have hc := UInt8.toNat_ofNat_of_lt' (show v / 64 % 64 + 128 < 256 by omega)
  have hsecond :
      secondOfThree (UInt8.ofNat (v / 4096 % 16 + 224))
        (UInt8.ofNat (v / 64 % 64 + 128)) = true := by
    rw [secondOfThree_iff, hb, hc]
    omega
  simp only [decode, decodeAt, UInt8.lt_iff_toNat_lt, hb]
  rw [if_neg (by simp), if_neg (by simp), if_neg (by simp), if_pos (by simp; omega),
    decodeThree_of_tail rest hsecond (isTail_ofNat (Nat.mod_lt v (by decide))),
    payload_ofNat (Nat.mod_lt _ (by decide)), payload_ofNat (Nat.mod_lt v (by decide)), hb]
  exact congrArg (Decoded.mk · 3) (by omega)

theorem decode_fourBytes (hlow : 0xFFFF < v) (hhigh : v < 0x110000) :
    decode (UInt8.ofNat (v / 262144 % 8 + 240) :: UInt8.ofNat (v / 4096 % 64 + 128) ::
      UInt8.ofNat (v / 64 % 64 + 128) ::
      UInt8.ofNat (v % 64 + 128) :: rest) = ⟨v, 4⟩ := by
  have hb := UInt8.toNat_ofNat_of_lt' (show v / 262144 % 8 + 240 < 256 by omega)
  have hc := UInt8.toNat_ofNat_of_lt' (show v / 4096 % 64 + 128 < 256 by omega)
  have hsecond :
      secondOfFour (UInt8.ofNat (v / 262144 % 8 + 240))
        (UInt8.ofNat (v / 4096 % 64 + 128)) = true := by
    rw [secondOfFour_iff, hb, hc]
    omega
  simp only [decode, decodeAt, UInt8.lt_iff_toNat_lt, hb]
  rw [if_neg (by simp), if_neg (by simp), if_neg (by simp), if_neg (by simp),
    if_pos (by simp; omega), decodeFour_of_tail rest hsecond
      (isTail_ofNat (Nat.mod_lt _ (by decide))) (isTail_ofNat (Nat.mod_lt v (by decide))),
    payload_ofNat (Nat.mod_lt _ (by decide)), payload_ofNat (Nat.mod_lt _ (by decide)),
    payload_ofNat (Nat.mod_lt v (by decide)), hb]
  exact congrArg (Decoded.mk · 4) (by omega)

end

/-- **Decoding undoes encoding.** -/
theorem decode_encodeChar (c : Char) (rest : Bytes) :
    decode (String.utf8EncodeChar c ++ rest) = ⟨c.toNat, (String.utf8EncodeChar c).length⟩ := by
  have hrange : c.toNat < 0xD800 ∨ 0xDFFF < c.toNat ∧ c.toNat < 0x110000 := c.valid
  rw [String.utf8EncodeChar.eq_1, show c.val.toNat = c.toNat from rfl]
  split
  · next h =>
    have hv := UInt8.toNat_ofNat_of_lt' (show c.toNat < 256 by omega)
    have hlow : UInt8.ofNat c.toNat < 0x80 :=
      UInt8.lt_iff_toNat_lt.mpr (by rw [hv]; exact Nat.lt_succ_of_le h)
    simp only [List.cons_append, List.nil_append, decode, decodeAt_ascii _ hlow, hv,
      List.length_singleton]
  · next h₁ =>
    split
    · next h₂ => exact decode_twoBytes rest (by omega) h₂
    · next h₂ =>
      split
      · next h₃ => exact decode_threeBytes rest (by omega) h₃ (by omega)
      · next h₃ => exact decode_fourBytes rest (by omega) (by omega)

/-! ### What is read is a character or a stray byte -/

/-- The bytes of a character stand at the head of the text. -/
def Begins (text : Bytes) : Prop := ∃ c rest, text = String.utf8EncodeChar c ++ rest

theorem encodeChar_ofNat {v : Nat} (h : v.isValidChar) :
    String.utf8EncodeChar (Char.ofNat v) =
      if v ≤ 0x7F then [UInt8.ofNat v]
      else if v ≤ 0x7FF then [UInt8.ofNat (v / 64 % 32 + 192), UInt8.ofNat (v % 64 + 128)]
      else if v ≤ 0xFFFF then
        [UInt8.ofNat (v / 4096 % 16 + 224), UInt8.ofNat (v / 64 % 64 + 128),
          UInt8.ofNat (v % 64 + 128)]
      else
        [UInt8.ofNat (v / 262144 % 8 + 240), UInt8.ofNat (v / 4096 % 64 + 128),
          UInt8.ofNat (v / 64 % 64 + 128),
        UInt8.ofNat (v % 64 + 128)] := by
  have hv : (Char.ofNat v).val.toNat = v := by rw [Char.ofNat, dif_pos h]; rfl
  rw [String.utf8EncodeChar.eq_1, hv]

theorem decodeTwo_cases {b : UInt8} (rest : Bytes) (hlow : ¬ b < 0xC2) (hhigh : b < 0xE0) :
    decodeTwo b rest = undecodable ∨ Begins (b :: rest) := by
  unfold decodeTwo
  split
  · next c more =>
    split
    · next hc =>
      right
      rw [isTail_iff] at hc
      have hb : 0xC2 ≤ b.toNat := UInt8.not_lt.mp hlow
      have hb' : b.toNat < 0xE0 := hhigh
      have hc₁ : 0x80 ≤ c.toNat := hc.1
      have hc₂ : c.toNat ≤ 0xBF := hc.2
      obtain ⟨v, hv⟩ : ∃ v, v = b.toNat % 32 * 64 + c.toNat % 64 := ⟨_, rfl⟩
      refine ⟨Char.ofNat v, more, ?_⟩
      rw [encodeChar_ofNat (Or.inl (by omega)), if_neg (by omega), if_pos (by omega)]
      rw [(ofNat_eq_iff_of_lt (by omega) b).mpr (by omega),
        (ofNat_eq_iff_of_lt (by omega) c).mpr (by omega)]
      rfl
    · exact Or.inl rfl
  · exact Or.inl rfl

theorem decodeThree_cases {b : UInt8} (rest : Bytes) (hlow : ¬ b < 0xE0) (hhigh : b < 0xF0) :
    decodeThree b rest = undecodable ∨ Begins (b :: rest) := by
  unfold decodeThree
  split
  · next c d more =>
    split
    · next h =>
      right
      rw [Bool.and_eq_true, secondOfThree_iff, isTail_iff] at h
      obtain ⟨hc, hd₁, hd₂⟩ := h
      have hb : 0xE0 ≤ b.toNat := UInt8.not_lt.mp hlow
      have hb' : b.toNat < 0xF0 := hhigh
      simp only [UInt8.reduceToNat] at hd₁ hd₂
      obtain ⟨v, hv⟩ : ∃ v, v = (b.toNat % 16 * 64 + c.toNat % 64) * 64 + d.toNat % 64 := ⟨_, rfl⟩
      have hvalid : v.isValidChar := by
        unfold Nat.isValidChar
        omega
      refine ⟨Char.ofNat v, more, ?_⟩
      rw [encodeChar_ofNat hvalid, if_neg (by omega), if_neg (by omega), if_pos (by omega),
        (ofNat_eq_iff_of_lt (by omega) b).mpr (by omega),
        (ofNat_eq_iff_of_lt (by omega) c).mpr (by omega),
        (ofNat_eq_iff_of_lt (by omega) d).mpr (by omega)]
      rfl
    · exact Or.inl rfl
  · exact Or.inl rfl

theorem decodeFour_cases {b : UInt8} (rest : Bytes) (hlow : ¬ b < 0xF0) (hhigh : b < 0xF5) :
    decodeFour b rest = undecodable ∨ Begins (b :: rest) := by
  unfold decodeFour
  split
  · next c d e more =>
    split
    · next h =>
      right
      rw [Bool.and_eq_true, Bool.and_eq_true, secondOfFour_iff, isTail_iff, isTail_iff] at h
      obtain ⟨⟨hc, hd₁, hd₂⟩, he₁, he₂⟩ := h
      have hb : 0xF0 ≤ b.toNat := UInt8.not_lt.mp hlow
      have hb' : b.toNat < 0xF5 := hhigh
      simp only [UInt8.reduceToNat] at hd₁ hd₂ he₁ he₂
      obtain ⟨v, hv⟩ : ∃ v, v = ((b.toNat % 8 * 64 + c.toNat % 64) * 64 + d.toNat % 64) * 64 +
        e.toNat % 64 := ⟨_, rfl⟩
      have hvalid : v.isValidChar := by
        unfold Nat.isValidChar
        omega
      refine ⟨Char.ofNat v, more, ?_⟩
      rw [encodeChar_ofNat hvalid, if_neg (by omega), if_neg (by omega), if_neg (by omega),
        (ofNat_eq_iff_of_lt (by omega) b).mpr (by omega),
        (ofNat_eq_iff_of_lt (by omega) c).mpr (by omega),
        (ofNat_eq_iff_of_lt (by omega) d).mpr (by omega),
        (ofNat_eq_iff_of_lt (by omega) e).mpr (by omega)]
      rfl
    · exact Or.inl rfl
  · exact Or.inl rfl

/-- An ASCII byte is the character with its code point. -/
theorem encodeChar_ascii {b : UInt8} (h : b < 0x80) :
    String.utf8EncodeChar (Char.ofNat b.toNat) = [b] := by
  have hb : b.toNat < 0x80 := h
  have hvalid : b.toNat.isValidChar := Or.inl (by omega)
  rw [encodeChar_ofNat hvalid, if_pos (by omega), UInt8.ofNat_toNat]

theorem decodeAt_cases (b : UInt8) (rest : Bytes) :
    decodeAt b rest = undecodable ∨ Begins (b :: rest) := by
  unfold decodeAt
  split
  · next h => exact Or.inr ⟨Char.ofNat b.toNat, rest, by rw [encodeChar_ascii h]; rfl⟩
  split
  · exact Or.inl rfl
  split
  · next hlow hhigh => exact decodeTwo_cases rest hlow hhigh
  split
  · next hlow hhigh => exact decodeThree_cases rest hlow hhigh
  split
  · next hlow hhigh => exact decodeFour_cases rest hlow hhigh
  · exact Or.inl rfl

/-- The character that stands for stray bytes is not itself read from a stray byte. -/
theorem length_encodeChar_replacement {c : Char} (h : c.toNat = replacement) :
    (String.utf8EncodeChar c).length = 3 := by
  obtain rfl : c = Char.ofNat replacement := by rw [← h, Char.ofNat_toNat]
  rfl

/-- **A stray byte is one with which no character begins.** -/
theorem decodeAt_eq_undecodable_iff {b : UInt8} {rest : Bytes} :
    decodeAt b rest = undecodable ↔ ¬ Begins (b :: rest) := by
  constructor
  · rintro h ⟨c, more, heq⟩
    have hdecode := decode_encodeChar c more
    rw [← heq, decode, h, undecodable, Decoded.mk.injEq] at hdecode
    have hlength := length_encodeChar_replacement hdecode.1.symm
    omega
  · exact (decodeAt_cases b rest).resolve_right

/-! ### Texts along their characters -/

theorem characters_character (c : Char) (rest : Bytes) :
    characters (String.utf8EncodeChar c ++ rest) =
      ⟨c.toNat, String.utf8EncodeChar c⟩ :: characters rest := by
  have hdecode := decode_encodeChar c rest
  obtain ⟨b, tail, hcons⟩ := List.exists_cons_of_ne_nil (String.utf8EncodeChar_ne_nil (c := c))
  rw [hcons, List.cons_append] at hdecode ⊢
  rw [characters, show decodeAt b (tail ++ rest) = _ from hdecode]
  simp only
  rw [← List.cons_append, List.take_left, List.drop_left]

theorem characters_stray {b : UInt8} {rest : Bytes} (h : ¬ Begins (b :: rest)) :
    characters (b :: rest) = ⟨replacement, [b]⟩ :: characters rest := by
  rw [characters, decodeAt_eq_undecodable_iff.mpr h]
  rfl

/-- To show something of all texts, show it along their characters and stray bytes. -/
theorem characterInduction {motive : Bytes → Prop} (nil : motive [])
    (character : ∀ c rest, motive rest → motive (String.utf8EncodeChar c ++ rest))
    (stray : ∀ b rest, ¬ Begins (b :: rest) → motive rest → motive (b :: rest)) (text : Bytes) :
    motive text := by
  induction hlength : text.length using Nat.strongRecOn generalizing text with
  | ind length ih =>
    cases text with
    | nil => exact nil
    | cons b rest =>
      by_cases hbegins : Begins (b :: rest)
      · obtain ⟨c, more, heq⟩ := hbegins
        have hpos := List.length_pos_iff.mpr (String.utf8EncodeChar_ne_nil (c := c))
        have hsum := congrArg List.length heq
        rw [List.length_append] at hsum
        rw [heq]
        exact character c more (ih more.length (by omega) more rfl)
      · exact stray b rest hbegins (ih rest.length (by simp [← hlength]) rest rfl)

/-! ### Well-formed texts -/

theorem isUndecodable_character (c : Char) :
    Character.isUndecodable ⟨c.toNat, String.utf8EncodeChar c⟩ = false := by
  simp only [Character.isUndecodable, Bool.and_eq_false_iff, beq_eq_false_iff_ne]
  by_cases h : c.toNat = replacement
  · right
    rw [length_encodeChar_replacement h]
    decide
  · exact Or.inl h

theorem isUndecodable_stray (b : UInt8) : Character.isUndecodable ⟨replacement, [b]⟩ = true := by
  simp [Character.isUndecodable]

/-- A text is well formed if and only if it is the bytes of some characters, one after the other. -/
theorem isValid_iff {text : Bytes} :
    isValid text = true ↔ ∃ cs : List Char, text = cs.flatMap String.utf8EncodeChar := by
  constructor
  · intro h
    induction text using characterInduction with
    | nil => exact ⟨[], rfl⟩
    | character c rest ih =>
      simp only [isValid, characters_character, List.all_cons, Bool.and_eq_true] at h
      obtain ⟨cs, rfl⟩ := ih h.2
      exact ⟨c :: cs, rfl⟩
    | stray b rest hstray ih =>
      simp [isValid, characters_stray hstray, isUndecodable_stray] at h
  · rintro ⟨cs, rfl⟩
    induction cs with
    | nil => simp [isValid, characters]
    | cons c cs ih =>
      simp only [isValid, List.flatMap_cons, characters_character, List.all_cons,
        isUndecodable_character, Bool.not_false, Bool.true_and]
      exact ih

theorem isValid_append {a b : Bytes} (ha : isValid a = true) (hb : isValid b = true) :
    isValid (a ++ b) = true := by
  obtain ⟨cs, rfl⟩ := isValid_iff.mp ha
  obtain ⟨ds, rfl⟩ := isValid_iff.mp hb
  exact isValid_iff.mpr ⟨cs ++ ds, List.flatMap_append.symm⟩

theorem isValid_encodeChar (c : Char) : isValid (String.utf8EncodeChar c) = true :=
  isValid_iff.mpr ⟨[c], by simp⟩

/-- A text of ASCII bytes alone. -/
def IsAscii (text : Bytes) : Prop := ∀ b ∈ text, b < 0x80

instance (text : Bytes) : Decidable (IsAscii text) :=
  decidable_of_iff (text.all (· < 0x80) = true) (by simp [IsAscii])

theorem isValid_ascii {text : Bytes} (h : IsAscii text) : isValid text = true := by
  induction text with
  | nil => simp [isValid, characters]
  | cons b rest ih =>
    rw [IsAscii, List.forall_mem_cons] at h
    rw [← List.singleton_append, ← encodeChar_ascii h.1]
    exact isValid_append (isValid_encodeChar _) (ih h.2)

theorem characters_ascii {text : Bytes} (h : IsAscii text) :
    characters text = text.map fun b => ⟨b.toNat, [b]⟩ := by
  induction text with
  | nil => rw [characters]; rfl
  | cons b text ih =>
    rw [characters, decodeAt_ascii text (h b (by simp))]
    simp only [List.take_succ_cons, List.take_zero, List.drop_succ_cons, List.drop_zero,
      List.map_cons]
    rw [ih fun c hc => h c (by simp [hc])]

theorem ofCharacters_ascii (text : Bytes) :
    ofCharacters (text.map fun b => ⟨b.toNat, [b]⟩) = text := by
  rw [ofCharacters, List.flatMap_map]
  exact List.flatMap_singleton' text

/-- The characters of a well-formed text do not depend on what follows it. -/
theorem characters_append {a : Bytes} (ha : isValid a = true) (b : Bytes) :
    characters (a ++ b) = characters a ++ characters b := by
  obtain ⟨cs, rfl⟩ := isValid_iff.mp ha
  induction cs with
  | nil => simp [characters]
  | cons c cs ih =>
    have hcs := ih (isValid_iff.mpr ⟨cs, rfl⟩)
    rw [List.flatMap_cons, List.append_assoc, characters_character, characters_character, hcs,
      List.cons_append]

/-! ### Repaired texts -/

/-- The second text is the first one with the replacement character in place of every stray byte. -/
inductive Repaired : Bytes → Bytes → Prop where
  | nil : Repaired [] []
  | character (c : Char) {rest repaired : Bytes} (h : Repaired rest repaired) :
    Repaired (String.utf8EncodeChar c ++ rest) (String.utf8EncodeChar c ++ repaired)
  | stray (b : UInt8) {rest repaired : Bytes} (hstray : ¬ Begins (b :: rest))
    (h : Repaired rest repaired) :
    Repaired (b :: rest) (String.utf8EncodeChar (Char.ofNat 0xFFFD) ++ repaired)

theorem repair_character (c : Char) (rest : Bytes) :
    repair (String.utf8EncodeChar c ++ rest) = String.utf8EncodeChar c ++ repair rest := by
  simp [repair, characters_character, isUndecodable_character]

theorem repair_stray {b : UInt8} {rest : Bytes} (h : ¬ Begins (b :: rest)) :
    repair (b :: rest) = replacementBytes ++ repair rest := by
  simp [repair, characters_stray h, isUndecodable_stray]

theorem repaired_iff {text repaired : Bytes} : Repaired text repaired ↔ repaired = repair text := by
  constructor
  · intro h
    induction h with
    | nil => rw [repair, characters]; rfl
    | character c h ih => rw [repair_character, ih]
    | stray b hstray h ih =>
      rw [repair_stray hstray, ih]
      rfl
  · rintro rfl
    induction text using characterInduction with
    | nil =>
      rw [repair, characters]
      exact .nil
    | character c rest ih =>
      rw [repair_character]
      exact .character c ih
    | stray b rest hstray ih =>
      rw [repair_stray hstray]
      exact .stray b hstray ih

theorem repair_of_isValid {text : Bytes} (h : isValid text = true) : repair text = text := by
  obtain ⟨cs, rfl⟩ := isValid_iff.mp h
  induction cs with
  | nil => simp [repair, characters]
  | cons c cs ih => rw [List.flatMap_cons, repair_character, ih (isValid_iff.mpr ⟨cs, rfl⟩)]

end Utf8

/-! ### Visible texts -/

/-- A text of visible ASCII characters, which neither blanks nor controls are. -/
def IsVisible (text : Bytes) : Prop := ∀ b ∈ text, 0x20 < b.toNat ∧ b.toNat < 0x7F

instance (text : Bytes) : Decidable (IsVisible text) :=
  decidable_of_iff (text.all (fun b => 0x20 < b.toNat && b.toNat < 0x7F) = true)
    (by simp [IsVisible])

theorem IsVisible.isAscii {text : Bytes} (h : IsVisible text) : Utf8.IsAscii text := by
  intro b hb
  have hlt : b.toNat < 0x80 := Nat.lt_trans (h b hb).2 (by decide)
  exact UInt8.lt_iff_toNat_lt.mpr hlt

theorem IsVisible.not_newline {text : Bytes} (h : IsVisible text) : newline ∉ text := by
  intro hmem
  exact absurd (h newline hmem) (by decide)

theorem visible_of_not_gap {b : UInt8} (h : isGapByte b = false) :
    0x20 < b.toNat ∧ b.toNat < 0x7F := by
  simp only [isGapByte, isWordByte, isOperatorByte, Bool.and_eq_false_iff, Bool.not_eq_false',
    bne_eq_false_iff_eq] at h
  rcases h with (hword | hoperator) | rfl
  · simp only [CharClass.isWord, CharClass.isDigit, Bool.or_eq_true, Bool.and_eq_true,
      decide_eq_true_eq, beq_iff_eq] at hword
    omega
  · simp only [CharClass.isOperator, Bool.or_eq_true, beq_iff_eq] at hoperator
    omega
  · decide

theorem Spelled.visible {rule : KeywordRule} {kind : TokenKind} {lexeme : Bytes}
    (h : Spelled rule kind lexeme) :
    IsVisible lexeme := fun b hb => visible_of_not_gap (h.not_gap b hb)

theorem TokenKind.visible_name (kind : TokenKind) : IsVisible kind.name := by
  cases kind with
  | invalid => decide
  | endOfText => decide
  | punctuation => decide
  | number => decide
  | keyword => decide
  | operator => decide
  | unknown code => exact (by decide : IsVisible (bytes "TOK_UNKNOWN"))

end BufferMachine
