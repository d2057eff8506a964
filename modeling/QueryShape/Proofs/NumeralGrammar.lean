import Mathlib.Data.List.TakeWhile
import QueryShape.Json.Numeral

/-!
# The grammar of numerals

A numeral has digits, of which the first is a zero only if it is the only one; then, if it has
them, a point and digits, and a mark and digits that may have a sign.  A minus may stand before
all of this.  No digit follows the digits of a part, since a point, a mark or nothing does, so a
text has these parts in one way only, and the reader of numerals finds them.
-/

namespace QueryShape

namespace Numeral

def IsDigits (digits : List Char) : Prop :=
  digits ≠ [] ∧ ∀ c ∈ digits, c.isDigit = true

structure IsWhole (whole : List Char) : Prop where
  digits : IsDigits whole
  zero : whole.head? = some '0' → whole = ['0']

/-- The digits after the point, and their text; none has no text. -/
inductive FractionText : List Char → List Char → Prop
  | absent : FractionText [] []
  | digits {digits : List Char} (h : IsDigits digits) : FractionText digits ('.' :: digits)

/-- The power of ten, and its text; none has no text. -/
inductive ExponentText : Option Int → List Char → Prop
  | absent : ExponentText none []
  | unsigned {mark : Char} {digits : List Char} (hmark : mark = 'e' ∨ mark = 'E')
      (h : IsDigits digits) : ExponentText (some (digitsValue digits : Int)) (mark :: digits)
  | positive {mark : Char} {digits : List Char} (hmark : mark = 'e' ∨ mark = 'E')
      (h : IsDigits digits) :
      ExponentText (some (digitsValue digits : Int)) (mark :: '+' :: digits)
  | negative {mark : Char} {digits : List Char} (hmark : mark = 'e' ∨ mark = 'E')
      (h : IsDigits digits) :
      ExponentText (some (-(digitsValue digits : Int))) (mark :: '-' :: digits)

/-- A numeral and its text without the sign. -/
inductive MagnitudeText : Numeral → List Char → Prop
  | parts {negative : Bool} {whole fraction fractionText exponentText : List Char}
      {exponent : Option Int} (hwhole : IsWhole whole)
      (hfraction : FractionText fraction fractionText)
      (hexponent : ExponentText exponent exponentText) :
      MagnitudeText ⟨negative, whole, fraction, exponent⟩
        (whole ++ (fractionText ++ exponentText))

inductive NumeralText : Numeral → List Char → Prop
  | positive {numeral : Numeral} {cs : List Char} (hsign : numeral.negative = false)
      (h : MagnitudeText numeral cs) : NumeralText numeral cs
  | negative {numeral : Numeral} {cs : List Char} (hsign : numeral.negative = true)
      (h : MagnitudeText numeral cs) : NumeralText numeral ('-' :: cs)

/-! ## Digits and what follows them -/

/-- A text that does not go on with a digit. -/
def NoDigit (cs : List Char) : Prop :=
  ∀ c, cs.head? = some c → c.isDigit = false

theorem isDigit_eq_false_of_mark {mark : Char} (h : mark = 'e' ∨ mark = 'E') :
    mark.isDigit = false := by
  rcases h with rfl | rfl <;> rfl

theorem ExponentText.noDigit {exponent : Option Int} {cs : List Char}
    (h : ExponentText exponent cs) :
    NoDigit cs := by
  intro c hc
  cases h with
  | absent => cases hc
  | unsigned hmark | positive hmark | negative hmark =>
      cases hc
      exact isDigit_eq_false_of_mark hmark

theorem ExponentText.head?_ne_point {exponent : Option Int} {cs : List Char}
    (h : ExponentText exponent cs) :
    cs.head? ≠ some '.' := by
  cases h with
  | absent => simp
  | unsigned hmark | positive hmark | negative hmark =>
      rcases hmark with rfl | rfl <;> simp

theorem MagnitudeText.exists_digit {numeral : Numeral} {cs : List Char}
    (h : MagnitudeText numeral cs) :
    ∃ c rest, cs = c :: rest ∧ c.isDigit = true := by
  cases h with
  | parts hwhole =>
      obtain ⟨c, rest, rfl⟩ := List.exists_cons_of_ne_nil hwhole.digits.1
      exact ⟨c, _, rfl, hwhole.digits.2 c List.mem_cons_self⟩

theorem NumeralText.exists_first {numeral : Numeral} {cs : List Char}
    (h : NumeralText numeral cs) :
    ∃ c rest, cs = c :: rest ∧ (c = '-' ∨ c.isDigit = true) := by
  cases h with
  | positive _ htext =>
      obtain ⟨c, rest, heq, hdigit⟩ := htext.exists_digit
      exact ⟨c, rest, heq, .inr hdigit⟩
  | negative => exact ⟨'-', _, rfl, .inl rfl⟩

theorem NumeralText.ne_nil {numeral : Numeral} {cs : List Char} (h : NumeralText numeral cs) :
    cs ≠ [] := by
  obtain ⟨c, rest, heq, _⟩ := h.exists_first
  rw [heq]
  exact List.cons_ne_nil c rest

theorem noDigit_fraction {fraction fractionText exponentText : List Char} {exponent : Option Int}
    (hfraction : FractionText fraction fractionText)
    (hexponent : ExponentText exponent exponentText) :
    NoDigit (fractionText ++ exponentText) := by
  cases hfraction with
  | absent => exact hexponent.noDigit
  | digits =>
      intro c hc
      cases hc
      rfl

theorem splitDigits_append {digits rest : List Char} (hdigits : ∀ c ∈ digits, c.isDigit = true)
    (hrest : NoDigit rest) :
    splitDigits (digits ++ rest) = (digits, rest) := by
  have htake : rest.takeWhile Char.isDigit = [] := by
    cases rest with
    | nil => rfl
    | cons c rest => rw [List.takeWhile_cons_of_neg (by simp [hrest c rfl])]
  have hdrop : rest.dropWhile Char.isDigit = rest := by
    cases rest with
    | nil => rfl
    | cons c rest => rw [List.dropWhile_cons_of_neg (by simp [hrest c rfl])]
  rw [splitDigits, List.takeWhile_append_of_pos hdigits, List.dropWhile_append_of_pos hdigits,
    htake, hdrop, List.append_nil]

theorem splitDigits_spec (cs : List Char) :
    cs = (splitDigits cs).1 ++ (splitDigits cs).2 ∧ ∀ c ∈ (splitDigits cs).1, c.isDigit = true :=
  ⟨List.takeWhile_append_dropWhile.symm, fun _ hc => List.mem_takeWhile_imp hc⟩

/-! ## Parts -/

theorem exponentUnsigned?_eq_some_iff {cs : List Char} {e : Int} :
    exponent?.unsigned? cs = some e ↔ IsDigits cs ∧ e = digitsValue cs := by
  unfold exponent?.unsigned? IsDigits
  split
  next h =>
    rw [List.all_eq_true] at h
    rw [and_iff_right h, Option.some.injEq, eq_comm]
  next h =>
    rw [List.all_eq_true] at h
    simp only [h, false_and, reduceCtorEq]

theorem exponent?_of_isDigits {digits : List Char} (h : IsDigits digits) :
    exponent? digits = some (digitsValue digits : Int) := by
  have hread : exponent?.unsigned? digits = some (digitsValue digits : Int) :=
    exponentUnsigned?_eq_some_iff.mpr ⟨h, rfl⟩
  unfold exponent?
  split
  next => cases h.2 '+' List.mem_cons_self
  next => cases h.2 '-' List.mem_cons_self
  next => exact hread

theorem exponentText_of_exponent? {mark : Char} {cs : List Char} {e : Int}
    (hmark : mark = 'e' ∨ mark = 'E') (h : exponent? cs = some e) :
    ExponentText (some e) (mark :: cs) := by
  unfold exponent? at h
  split at h
  next digits =>
    obtain ⟨hdigits, rfl⟩ := exponentUnsigned?_eq_some_iff.mp h
    exact .positive hmark hdigits
  next digits =>
    obtain ⟨value, hvalue, rfl⟩ := Option.map_eq_some_iff.mp h
    obtain ⟨hdigits, rfl⟩ := exponentUnsigned?_eq_some_iff.mp hvalue
    exact .negative hmark hdigits
  next =>
    obtain ⟨hdigits, rfl⟩ := exponentUnsigned?_eq_some_iff.mp h
    exact .unsigned hmark hdigits

theorem withExponent?_eq_some_iff {negative : Bool} {whole fraction cs : List Char}
    {numeral : Numeral} :
    withExponent? negative whole fraction cs = some numeral ↔
      ∃ exponent, ExponentText exponent cs ∧ numeral = ⟨negative, whole, fraction, exponent⟩ := by
  constructor
  · intro h
    cases cs with
    | nil =>
        cases h
        exact ⟨none, .absent, rfl⟩
    | cons mark cs =>
        rw [withExponent?] at h
        split at h
        next hmark =>
          obtain ⟨e, hexponent, rfl⟩ := Option.map_eq_some_iff.mp h
          exact ⟨some e, exponentText_of_exponent? hmark hexponent, rfl⟩
        next => cases h
  · rintro ⟨exponent, hexponent, rfl⟩
    cases hexponent with
    | absent => rfl
    | unsigned hmark hdigits =>
        rw [withExponent?, if_pos hmark, exponent?_of_isDigits hdigits, Option.map_some]
    | positive hmark hdigits =>
        rw [withExponent?, if_pos hmark, exponent?,
          exponentUnsigned?_eq_some_iff.mpr ⟨hdigits, rfl⟩, Option.map_some]
    | negative hmark hdigits =>
        rw [withExponent?, if_pos hmark, exponent?,
          exponentUnsigned?_eq_some_iff.mpr ⟨hdigits, rfl⟩, Option.map_some, Option.map_some]

/-! ## Numerals -/

theorem magnitudeText_of_unsigned? {negative : Bool} {cs : List Char} {numeral : Numeral}
    (h : unsigned? negative cs = some numeral) :
    numeral.negative = negative ∧ MagnitudeText numeral cs := by
  obtain ⟨hsplit, hdigits⟩ := splitDigits_spec cs
  unfold unsigned? at h
  generalize splitDigits cs = parts at h hsplit hdigits
  obtain ⟨whole, rest⟩ := parts
  simp only at h hsplit hdigits
  split at h
  next => cases h
  next => cases h
  next hne hzeros =>
    have hwhole : IsWhole whole := by
      refine ⟨⟨hne, hdigits⟩, ?_⟩
      intro hhead
      obtain ⟨more, rfl⟩ := List.head?_eq_some_iff.mp hhead
      cases more with
      | nil => rfl
      | cons c more => exact absurd rfl (hzeros c more)
    rw [hsplit]
    split at h
    next after =>
      obtain ⟨hafter, hfraction⟩ := splitDigits_spec after
      generalize splitDigits after = parts at h hafter hfraction
      obtain ⟨fraction, rest⟩ := parts
      simp only at h hafter hfraction
      split at h
      next => cases h
      next hfractionNe =>
        obtain ⟨exponent, hexponent, rfl⟩ := withExponent?_eq_some_iff.mp h
        rw [hafter]
        exact ⟨rfl, .parts hwhole (.digits ⟨by simpa using hfractionNe, hfraction⟩) hexponent⟩
    next =>
      obtain ⟨exponent, hexponent, rfl⟩ := withExponent?_eq_some_iff.mp h
      exact ⟨rfl, .parts hwhole .absent hexponent⟩

theorem unsigned?_of_magnitudeText {numeral : Numeral} {cs : List Char}
    (h : MagnitudeText numeral cs) :
    unsigned? numeral.negative cs = some numeral := by
  cases h with
  | @parts negative whole fraction fractionText exponentText exponent hwhole hfraction hexponent =>
      have hread : withExponent? negative whole fraction exponentText =
          some ⟨negative, whole, fraction, exponent⟩ :=
        withExponent?_eq_some_iff.mpr ⟨exponent, hexponent, rfl⟩
      simp only [unsigned?,
        splitDigits_append hwhole.digits.2 (noDigit_fraction hfraction hexponent)]
      split
      next => exact absurd rfl hwhole.digits.1
      next => cases hwhole.zero rfl
      next =>
        cases hfraction with
        | absent =>
            -- A mark or nothing follows, so this is not the case of a point.
            rw [List.nil_append]
            split
            next => exact absurd rfl hexponent.head?_ne_point
            next => exact hread
        | digits hdigits =>
            simp only [List.cons_append, splitDigits_append hdigits.2 hexponent.noDigit]
            rw [if_neg (by simpa using hdigits.1)]
            exact hread

theorem ofChars?_eq_some_iff {cs : List Char} {numeral : Numeral} :
    ofChars? cs = some numeral ↔ NumeralText numeral cs := by
  constructor
  · intro h
    unfold ofChars? at h
    split at h
    next =>
      obtain ⟨hsign, htext⟩ := magnitudeText_of_unsigned? h
      exact .negative hsign htext
    next =>
      obtain ⟨hsign, htext⟩ := magnitudeText_of_unsigned? h
      exact .positive hsign htext
  · intro h
    cases h with
    | positive hsign htext =>
        have hread := unsigned?_of_magnitudeText htext
        rw [hsign] at hread
        unfold ofChars?
        split
        next =>
          obtain ⟨c, rest, heq, hdigit⟩ := htext.exists_digit
          cases heq
          cases hdigit
        next => exact hread
    | negative hsign htext =>
        rw [ofChars?, ← hsign]
        exact unsigned?_of_magnitudeText htext

end Numeral

end QueryShape
