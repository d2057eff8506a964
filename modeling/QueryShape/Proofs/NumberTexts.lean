import QueryShape.Json.Printer
import QueryShape.Proofs.ScalarTexts

/-!
# Characters of numbers

A number is written with the characters of numerals: digits, signs, a point and the mark of an
exponent.  So it is written without blanks and without quotes, whatever layout it has.
-/

namespace QueryShape

theorem isNumeralChar_decimalDigits (n : Nat) :
    ∀ c ∈ decimalDigits n, JsonLexeme.isNumeralChar c = true := by
  intro c hc
  exact Numeral.isNumeralChar_of_isDigit
    (Nat.isDigit_of_mem_toDigits (by omega) (by omega) hc)

theorem isNumeralChar_zeros (n : Nat) :
    ∀ c ∈ (zeros n).toList, JsonLexeme.isNumeralChar c = true := by
  intro c hc
  rw [zeros, String.toList_ofList] at hc
  rw [List.eq_of_mem_replicate hc]
  rfl

namespace DecimalLayout

open JsonLexeme

theorem isNumeralChar_positional {digits : List Char} (exponent : Int)
    (h : ∀ c ∈ digits, isNumeralChar c = true) :
    ∀ c ∈ (positional digits exponent).toList, isNumeralChar c = true := by
  have htake (n : Nat) : ∀ c ∈ digits.take n, isNumeralChar c = true :=
    fun c hc => h c (List.mem_of_mem_take hc)
  have hdrop (n : Nat) : ∀ c ∈ digits.drop n, isNumeralChar c = true :=
    fun c hc => h c (List.mem_of_mem_drop hc)
  unfold positional
  simp only
  split
  next =>
    have hplace : ∀ c ∈ ".0".toList, isNumeralChar c = true := by
      simp [isNumeralChar]
    simp only [String.toList_append, String.toList_ofList, List.forall_mem_append]
    exact ⟨⟨h, isNumeralChar_zeros _⟩, hplace⟩
  next =>
    split
    next =>
      have hpoint : ∀ c ∈ ".".toList, isNumeralChar c = true := by
        simp [isNumeralChar]
      simp only [String.toList_append, String.toList_ofList, List.forall_mem_append]
      exact ⟨⟨htake _, hpoint⟩, hdrop _⟩
    next =>
      have hwhole : ∀ c ∈ "0.".toList, isNumeralChar c = true := by
        simp [isNumeralChar]
      simp only [String.toList_append, String.toList_ofList, List.forall_mem_append]
      exact ⟨⟨hwhole, isNumeralChar_zeros _⟩, h⟩

theorem isNumeralChar_scientific {layout : DecimalLayout}
    (hmark : ∀ c ∈ layout.mark.toList, isNumeralChar c = true) {digits : List Char}
    (h : ∀ c ∈ digits, isNumeralChar c = true) (lead : Int) :
    ∀ c ∈ (layout.scientific digits lead).toList, isNumeralChar c = true := by
  have hhead : ∀ c ∈ digits.take 1, isNumeralChar c = true :=
    fun c hc => h c (List.mem_of_mem_take hc)
  have hdrop : ∀ c ∈ digits.drop 1, isNumeralChar c = true :=
    fun c hc => h c (List.mem_of_mem_drop hc)
  have htail : ∀ c ∈ (if (digits.drop 1).isEmpty then "" else
      "." ++ String.ofList (digits.drop 1)).toList, isNumeralChar c = true := by
    split
    next => simp
    next =>
      have hpoint : ∀ c ∈ ".".toList, isNumeralChar c = true := by
        simp [isNumeralChar]
      simp only [String.toList_append, String.toList_ofList, List.forall_mem_append]
      exact ⟨hpoint, hdrop⟩
  have hsign : ∀ c ∈ (if lead < 0 then "-" else "+").toList, isNumeralChar c = true := by
    split <;> simp [isNumeralChar]
  have hexponent := isNumeralChar_decimalDigits lead.natAbs
  unfold scientific
  simp only [String.toList_append, String.toList_ofList, List.forall_mem_append] at htail ⊢
  exact ⟨⟨⟨⟨hhead, htail⟩, hmark⟩, hsign⟩, hexponent⟩

theorem isNumeralChar_text {layout : DecimalLayout}
    (hmark : ∀ c ∈ layout.mark.toList, isNumeralChar c = true) (x : Binary64) :
    ∀ c ∈ (layout.text x).toList, isNumeralChar c = true := by
  have hsign : ∀ c ∈ (if x.negative then "-" else "").toList, isNumeralChar c = true := by
    split <;> simp [isNumeralChar]
  have hmagnitude (d : Decimal) :
      ∀ c ∈ (layout.magnitude d).toList, isNumeralChar c = true := by
    have hdigits := isNumeralChar_decimalDigits d.digits
    unfold magnitude
    simp only
    split
    next => exact isNumeralChar_positional d.exponent hdigits
    next => exact isNumeralChar_scientific hmark hdigits _
  rw [text, String.toList_append, List.forall_mem_append]
  refine ⟨hsign, ?_⟩
  split
  next => simp [isNumeralChar]
  next => exact hmagnitude x.shortest

end DecimalLayout

/-- A number is written with the characters of numerals. -/
theorem JsonNumber.isNumeralChar_render (n : JsonNumber) :
    ∀ c ∈ n.render.toList, JsonLexeme.isNumeralChar c = true := by
  cases n with
  | int i =>
      have hsign : ∀ c ∈ (if i < 0 then "-" else "").toList,
          JsonLexeme.isNumeralChar c = true := by
        split <;> simp [JsonLexeme.isNumeralChar]
      have hdigits := isNumeralChar_decimalDigits i.natAbs
      rw [render, intText, String.toList_append, String.toList_ofList]
      exact List.forall_mem_append.mpr ⟨hsign, hdigits⟩
  | float x =>
      have hmark : ∀ c ∈ jsonDecimals.mark.toList, JsonLexeme.isNumeralChar c = true := by
        simp [jsonDecimals, JsonLexeme.isNumeralChar]
      exact DecimalLayout.isNumeralChar_text hmark x

end QueryShape
