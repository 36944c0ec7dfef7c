import BufferMachine.Number.Decimal
import BufferMachine.Proofs.Lexeme
import Mathlib.Data.List.Basic
import Mathlib.Data.List.Induction

/-!
# Numerals read back

The numeral of a number consists of digits alone and has the number as its value, so it can be told
from whatever stands behind it as long as that is no digit.  Of all digit strings with this value it
is the one without needless zeros in front.
-/

namespace BufferMachine.Decimal

theorem isDigit_digit {d : Nat} (h : d < 10) : isDigit (digit d) = true := by
  revert d
  decide

theorem toNat_digit {d : Nat} (h : d < 10) : (digit d).toNat = 48 + d := by
  revert d
  decide

theorem isRun_ofNat (n : Nat) : IsRun isDigit (ofNat n) := by
  induction n using ofNat.induct with
  | case1 n h =>
    rw [ofNat, if_pos h]
    exact ⟨by simp, by simpa using isDigit_digit h⟩
  | case2 n h ih =>
    rw [ofNat, if_neg h]
    refine ⟨by simp, fun b hb => ?_⟩
    rcases List.mem_append.mp hb with hb | hb
    · exact ih.all b hb
    · rw [List.mem_singleton.mp hb]
      exact isDigit_digit (Nat.mod_lt n (by decide))

theorem value_append_digit (digits : Bytes) (b : UInt8) :
    value (digits ++ [b]) = value digits * 10 + (b.toNat - 48) := by
  simp [value, List.foldl_append]

/-- The numeral of a number has the number as its value. -/
theorem value_ofNat (n : Nat) : value (ofNat n) = n := by
  induction n using ofNat.induct with
  | case1 n h =>
    rw [ofNat, if_pos h]
    simp [value, toNat_digit h]
  | case2 n h ih =>
    have hdigit : n % 10 < 10 := Nat.mod_lt n (by decide)
    rw [ofNat, if_neg h, value_append_digit, ih, toNat_digit hdigit]
    omega

theorem toNat?_of_isRun {digits : Bytes} (h : IsRun isDigit digits) :
    toNat? digits = some (value digits) := by
  unfold toNat?
  rw [if_pos]
  simp only [Bool.and_eq_true, Bool.not_eq_true', List.isEmpty_eq_false_iff, List.all_eq_true]
  exact ⟨h.ne_nil, h.all⟩

theorem toNat?_eq_some {text : Bytes} {n : Nat} :
    toNat? text = some n ↔ IsRun isDigit text ∧ n = value text := by
  constructor
  · intro h
    unfold toNat? at h
    split at h
    · next hdigits =>
      simp only [Bool.and_eq_true, Bool.not_eq_true', List.isEmpty_eq_false_iff,
        List.all_eq_true] at hdigits
      exact ⟨⟨hdigits.1, hdigits.2⟩, (Option.some.inj h).symm⟩
    · cases h
  · rintro ⟨hdigits, rfl⟩
    exact toNat?_of_isRun hdigits

theorem ofInt_natCast (n : Nat) : ofInt n = ofNat n := rfl

/-! ### Numerals without needless zeros -/

/-- Digits that do not begin with a zero, unless a zero is all there is. -/
structure IsCanonical (numeral : Bytes) : Prop where
  isRun : IsRun isDigit numeral
  no_leading_zero : numeral.head? = some (byte '0') → numeral = [byte '0']

theorem digit_sub {b : UInt8} (h : isDigit b = true) :
    b.toNat - 48 < 10 ∧ digit (b.toNat - 48) = b := by
  simp only [isDigit, Bool.and_eq_true, decide_eq_true_eq, UInt8.le_iff_toNat_le] at h
  have hlow : 48 ≤ b.toNat := h.1
  have hhigh : b.toNat ≤ 57 := h.2
  refine ⟨by omega, UInt8.toNat_inj.mp ?_⟩
  rw [toNat_digit (by omega)]
  omega

theorem isCanonical_ofNat (n : Nat) : IsCanonical (ofNat n) := by
  refine ⟨isRun_ofNat n, ?_⟩
  induction n using ofNat.induct with
  | case1 n h =>
    rw [ofNat, if_pos h]
    intro hhead
    rw [Option.some.inj hhead]
  | case2 n h ih =>
    -- the numeral begins as that of a tenth of the number does, which is not zero
    intro hhead
    rw [ofNat, if_neg h, List.head?_append_of_ne_nil _ (isRun_ofNat _).ne_nil] at hhead
    have hvalue := value_ofNat (n / 10)
    rw [ih hhead] at hvalue
    have hzero : n / 10 = 0 := hvalue.symm
    omega

/-- A numeral without needless zeros is the numeral of its value. -/
theorem IsCanonical.ofNat_value {numeral : Bytes} (h : IsCanonical numeral) :
    ofNat (value numeral) = numeral := by
  induction numeral using List.reverseRecOn with
  | nil => exact absurd rfl h.isRun.ne_nil
  | append_singleton front b ih =>
    obtain ⟨hlt, hb⟩ := digit_sub (h.isRun.all b (by simp))
    by_cases hne : front = []
    · subst hne
      have hvalue : value ([] ++ [b]) = b.toNat - 48 := by simp [value]
      rw [hvalue, ofNat, if_pos hlt, hb]
      rfl
    · have hlead : front.head? ≠ some (byte '0') := by
        intro hzero
        have hshort :=
          congrArg List.length
            (h.no_leading_zero (by rw [List.head?_append_of_ne_nil _ hne, hzero]))
        have hpos := List.length_pos_iff.mpr hne
        simp only [List.length_append, List.length_singleton] at hshort
        omega
      have hfront :=
        ih ⟨⟨hne, fun c hc => h.isRun.all c (List.mem_append_left _ hc)⟩, fun hzero =>
          absurd hzero hlead⟩
      have hpos : 0 < value front := by
        rw [Nat.pos_iff_ne_zero]
        intro hzero
        rw [hzero] at hfront
        exact hlead (by rw [← hfront, ofNat]; rfl)
      rw [value_append_digit, ofNat, if_neg (by omega),
        show (value front * 10 + (b.toNat - 48)) / 10 = value front by omega,
        show (value front * 10 + (b.toNat - 48)) % 10 = b.toNat - 48 by omega, hfront, hb]

/-- The numeral of a number is the one numeral without needless zeros that has it as its value. -/
theorem ofNat_eq_iff {n : Nat} {numeral : Bytes} :
    ofNat n = numeral ↔ IsCanonical numeral ∧ value numeral = n := by
  constructor
  · rintro rfl
    exact ⟨isCanonical_ofNat n, value_ofNat n⟩
  · rintro ⟨hcanonical, rfl⟩
    exact hcanonical.ofNat_value

/-- How a whole number is written: without needless zeros, and with a minus sign if it is
negative. -/
inductive Numeral : Int → Bytes → Prop
  | natural {digits : Bytes} (h : IsCanonical digits) : Numeral (value digits) digits
  | negative {digits : Bytes} (h : IsCanonical digits) (hpos : 0 < value digits) :
    Numeral (-value digits) (byte '-' :: digits)

theorem numeral_iff {n : Int} {text : Bytes} : Numeral n text ↔ text = ofInt n := by
  constructor
  · intro h
    cases h with
    | natural h => rw [ofInt_natCast, h.ofNat_value]
    | @negative digits h hpos =>
      obtain ⟨m, hm⟩ := Nat.exists_eq_add_one.mpr hpos
      have hnegative : -(value digits : Int) = .negSucc m := by rw [hm]; rfl
      rw [hnegative, ofInt, ← hm, h.ofNat_value]
  · rintro rfl
    cases n with
    | ofNat n =>
      have h := Numeral.natural (isCanonical_ofNat n)
      rwa [value_ofNat] at h
    | negSucc n =>
      have h := Numeral.negative (isCanonical_ofNat (n + 1)) (by rw [value_ofNat]; omega)
      rwa [value_ofNat] at h

theorem numeral_digit {d : Nat} (h : d < 10) : Numeral d [digit d] := by
  rw [numeral_iff, ofInt_natCast, ofNat, if_pos h]

end BufferMachine.Decimal
