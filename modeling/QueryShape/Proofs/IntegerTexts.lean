import QueryShape.Json.Compare
import QueryShape.Proofs.ScalarTexts

/-!
# Texts of integers

An integer of 64 bits, signed or unsigned, is read back from its decimal text.  The digits
start with a zero only if there is no other digit, so the text is a numeral; a numeral without
a fraction and an exponent is the integer of its digits, as long as that fits.  Beside a number
blanks around the text do not matter.
-/

namespace QueryShape

/-- The integers of 64 bits, signed or unsigned. -/
def FitsWord (i : Int) : Prop :=
  -2 ^ 63 ≤ i ∧ i < 2 ^ 64

instance (i : Int) : Decidable (FitsWord i) :=
  inferInstanceAs (Decidable (_ ∧ _))

/-- The decimal text of an integer between blanks. -/
def IsDecimalText (i : Int) (s : String) : Prop :=
  ∃ before after, s.toList = before ++ (toString i).toList ++ after ∧
    (∀ c ∈ before, isBlank c = true) ∧ ∀ c ∈ after, isBlank c = true

/-! ## Digits -/

namespace Numeral

theorem digitsValue_toDigits (n : Nat) :
    digitsValue (Nat.toDigits 10 n) = n :=
  Nat.ofDigitChars_ten_toDigits

theorem head?_toDigits_ne_zero {n : Nat} (hn : 0 < n) :
    (Nat.toDigits 10 n).head? ≠ some '0' := by
  induction n using Nat.strongRecOn with
  | ind n ih =>
      by_cases hsmall : n < 10
      · rw [Nat.toDigits_of_lt_base hsmall, List.head?_cons, ne_eq, Option.some.injEq,
          Nat.digitChar_eq_zero]
        omega
      · -- All digits but the last one are those of a smaller number.
        have hfirst : (Nat.toDigits 10 (n / 10)).head? ≠ some '0' :=
          ih (n / 10) (by omega) (by omega)
        obtain ⟨c, rest, hdigits⟩ := List.exists_cons_of_ne_nil
          (Nat.toDigits_ne_nil (n := n / 10) (b := 10))
        rw [Nat.toDigits_of_base_le (by omega) (by omega)]
        rw [hdigits] at hfirst ⊢
        exact hfirst

theorem isWhole_toDigits (n : Nat) :
    IsWhole (Nat.toDigits 10 n) where
  digits :=
    ⟨Nat.toDigits_ne_nil, fun _ hc => Nat.isDigit_of_mem_toDigits (by omega) (by omega) hc⟩
  zero hzero := by
    by_cases hn : n = 0
    · rw [hn, Nat.toDigits_zero]
    · exact absurd hzero (head?_toDigits_ne_zero (by omega))

theorem toList_toString (i : Int) :
    (toString i).toList =
      if i < 0 then '-' :: Nat.toDigits 10 i.natAbs else Nat.toDigits 10 i.natAbs := by
  have hrepr : toString i = i.repr := rfl
  rw [hrepr, Int.repr_eq_if]
  by_cases hi : 0 ≤ i
  · have habs : i.toNat = i.natAbs := by omega
    rw [if_pos hi, if_neg (by omega), Nat.toList_repr, habs]
  · have habs : (-i).toNat = i.natAbs := by omega
    rw [if_neg hi, if_pos (by omega), String.toList_append, Nat.toList_repr, habs]
    rfl

theorem numeralText_toString (i : Int) :
    NumeralText ⟨decide (i < 0), Nat.toDigits 10 i.natAbs, [], none⟩ (toString i).toList := by
  have hparts :
      MagnitudeText ⟨decide (i < 0), Nat.toDigits 10 i.natAbs, [], none⟩
        (Nat.toDigits 10 i.natAbs ++ ([] ++ [])) :=
    .parts (isWhole_toDigits i.natAbs) .absent .absent
  rw [List.append_nil, List.append_nil] at hparts
  rw [toList_toString]
  split
  next hi => exact .negative (decide_eq_true hi) hparts
  next hi => exact .positive (decide_eq_false hi) hparts

theorem number?_toDigits {n : Nat} (h : n < 2 ^ 64) :
    number? ⟨false, Nat.toDigits 10 n, [], none⟩ = some (.int n) := by
  simp [number?, isInteger, digitsValue_toDigits, h]

theorem number?_toDigits_negative {n : Nat} (hpositive : 0 < n) (hle : n ≤ 2 ^ 63) :
    number? ⟨true, Nat.toDigits 10 n, [], none⟩ = some (.int (-n)) := by
  simp [number?, isInteger, digitsValue_toDigits, hpositive, hle]

end Numeral

/-! ## Numbers -/

namespace JsonNumber

theorem ofChars?_toString {i : Int} (h : FitsWord i) :
    ofChars? (toString i).toList = some (.int i) := by
  obtain ⟨hlow, hhigh⟩ := h
  have hnumeral := Numeral.ofChars?_eq_some_iff.mpr (Numeral.numeralText_toString i)
  rw [ofChars?, hnumeral, Option.bind_eq_bind, Option.bind_some]
  by_cases hi : i < 0
  · have hvalue : -(i.natAbs : Int) = i := by omega
    rw [decide_eq_true hi, Numeral.number?_toDigits_negative (by omega) (by omega), hvalue]
  · have hvalue : (i.natAbs : Int) = i := by omega
    rw [decide_eq_false hi, Numeral.number?_toDigits (by omega), hvalue]

theorem render_int (i : Int) :
    (JsonNumber.int i).render = toString i := by
  rw [← String.toList_inj, Numeral.toList_toString, render, intText, String.toList_append,
    String.toList_ofList]
  split <;> rfl

/-- Beside a number the decimal text of an integer stands for the integer. -/
theorem compareText_of_isDecimalText (n : JsonNumber) {i : Int} (hi : FitsWord i) {s : String}
    (hs : IsDecimalText i s) :
    n.compareText s = n.compare (.int i) := by
  have hread : ofChars? (trim s.toList) = some (.int i) :=
    ofChars?_trim_of_padded hs (ofChars?_toString hi)
  rw [compareText, hread]

end JsonNumber

end QueryShape
