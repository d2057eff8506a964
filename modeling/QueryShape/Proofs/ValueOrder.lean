import QueryShape.Proofs.IntegerTexts

/-!
# The order of values

Two values are compared by their types, and each pair of types has a rule for one order of its
sides; the other order swaps the result.  The rules of a type beside itself are orders that
swap and that are reflexive, so the same holds of all values but null, which compares with
nothing, not even with itself.  A number of 64 bits may be a signed word, an unsigned word,
both or neither, and the words that two numbers share decide between them without a rounding.
-/

namespace QueryShape

/-! ## Words -/

namespace JsonNumber

/-- A number that is stored as a word or as binary64. -/
def InRange : JsonNumber → Prop
  | .int i => FitsWord i
  | .float _ => True

def signed? : JsonNumber → Option Int64
  | .int i => if -2 ^ 63 ≤ i ∧ i < 2 ^ 63 then some (.ofInt i) else none
  | .float _ => none

def unsigned? : JsonNumber → Option UInt64
  | .int i => if 0 ≤ i ∧ i < 2 ^ 64 then some (.ofNat i.toNat) else none
  | .float _ => none

/-- Compares as signed words, then as unsigned words.  If there is no common kind of words, the
signed word is a negative number; without words the numbers are rounded to binary64. -/
def compareWords (x y : JsonNumber) : Ordering :=
  match x.signed?, y.signed?, x.unsigned?, y.unsigned? with
  | some a, some b, _, _ => Ord.compare a b
  | _, _, some a, some b => Ord.compare a b
  | some _, none, _, some _ => .lt
  | none, some _, some _, _ => .gt
  | _, _, _, _ => x.toBinary64.compare y.toBinary64

theorem compare_int64 (a b : Int64) :
    Ord.compare a b = Ord.compare a.toInt b.toInt := by
  show compareOfLessAndEq a b = compareOfLessAndEq a.toInt b.toInt
  simp only [compareOfLessAndEq, Int64.lt_iff_toInt_lt, ← Int64.toInt_inj]

theorem compare_uint64 (a b : UInt64) :
    Ord.compare a b = Ord.compare (a.toNat : Int) b.toNat := by
  show compareOfLessAndEq a b = compareOfLessAndEq (a.toNat : Int) b.toNat
  simp only [compareOfLessAndEq, UInt64.lt_iff_toNat_lt, ← UInt64.toNat_inj, Int.ofNat_lt,
    Int.ofNat_inj]

section

variable {i j : Int}

theorem signed?_of_lt (hlow : -2 ^ 63 ≤ i) (hhigh : i < 2 ^ 63) :
    signed? (.int i) = some (.ofInt i) :=
  if_pos ⟨hlow, hhigh⟩

theorem signed?_of_le (h : 2 ^ 63 ≤ i) :
    signed? (.int i) = none :=
  if_neg fun hsigned => by omega

theorem unsigned?_of_nonneg (hlow : 0 ≤ i) (hhigh : i < 2 ^ 64) :
    unsigned? (.int i) = some (.ofNat i.toNat) :=
  if_pos ⟨hlow, hhigh⟩

theorem unsigned?_of_neg (h : i < 0) :
    unsigned? (.int i) = none :=
  if_neg fun hunsigned => by omega

theorem compare_ofInt (hi : -2 ^ 63 ≤ i ∧ i < 2 ^ 63) (hj : -2 ^ 63 ≤ j ∧ j < 2 ^ 63) :
    Ord.compare (Int64.ofInt i) (Int64.ofInt j) = Ord.compare i j := by
  rw [compare_int64, Int64.toInt_ofInt_of_le hi.1 hi.2, Int64.toInt_ofInt_of_le hj.1 hj.2]

theorem compare_ofNat (hi : 0 ≤ i ∧ i < 2 ^ 64) (hj : 0 ≤ j ∧ j < 2 ^ 64) :
    Ord.compare (UInt64.ofNat i.toNat) (UInt64.ofNat j.toNat) = Ord.compare i j := by
  have hvalue {k : Int} (hk : 0 ≤ k ∧ k < 2 ^ 64) : ((UInt64.ofNat k.toNat).toNat : Int) = k := by
    rw [UInt64.toNat_ofNat_of_lt' (by simp only [UInt64.size]; omega)]
    omega
  rw [compare_uint64, hvalue hi, hvalue hj]

theorem compareWords_int (hi : FitsWord i) (hj : FitsWord j) :
    compareWords (.int i) (.int j) = Ord.compare i j := by
  obtain ⟨hilow, hihigh⟩ := hi
  obtain ⟨hjlow, hjhigh⟩ := hj
  rcases Int.lt_or_le i (2 ^ 63) with his | hil <;> rcases Int.lt_or_le j (2 ^ 63) with hjs | hjl
  · rw [compareWords, signed?_of_lt hilow his, signed?_of_lt hjlow hjs]
    exact compare_ofInt ⟨hilow, his⟩ ⟨hjlow, hjs⟩
  · rw [compareWords, signed?_of_lt hilow his, signed?_of_le hjl,
      unsigned?_of_nonneg (by omega) hjhigh]
    rcases Int.lt_or_le i 0 with hineg | hinonneg
    · rw [unsigned?_of_neg hineg]
      exact (Int.compare_eq_lt.mpr (by omega)).symm
    · rw [unsigned?_of_nonneg hinonneg hihigh]
      exact compare_ofNat ⟨hinonneg, hihigh⟩ ⟨by omega, hjhigh⟩
  · rw [compareWords, signed?_of_le hil, signed?_of_lt hjlow hjs,
      unsigned?_of_nonneg (by omega) hihigh]
    rcases Int.lt_or_le j 0 with hjneg | hjnonneg
    · rw [unsigned?_of_neg hjneg]
      exact (Int.compare_eq_gt.mpr (by omega)).symm
    · rw [unsigned?_of_nonneg hjnonneg hjhigh]
      exact compare_ofNat ⟨by omega, hihigh⟩ ⟨hjnonneg, hjhigh⟩
  · rw [compareWords, signed?_of_le hil, signed?_of_le hjl,
      unsigned?_of_nonneg (by omega) hihigh, unsigned?_of_nonneg (by omega) hjhigh]
    exact compare_ofNat ⟨by omega, hihigh⟩ ⟨by omega, hjhigh⟩

end

/-- The words of two numbers decide as the numbers themselves do. -/
theorem compareWords_eq_compare {x y : JsonNumber} (hx : x.InRange) (hy : y.InRange) :
    x.compareWords y = x.compare y := by
  cases x with
  | int i =>
      cases y with
      | int j => exact compareWords_int hx hy
      | float b =>
          unfold compareWords
          cases signed? (.int i) <;> cases unsigned? (.int i) <;> rfl
  | float a =>
      cases y with
      | int j =>
          unfold compareWords
          cases signed? (.int j) <;> cases unsigned? (.int j) <;> rfl
      | float b => rfl

end JsonNumber

/-! ## Values -/

namespace Json

theorem alike_then_swap (a b : Json) :
    (if b.alike a then some Ordering.eq else none) =
      (if a.alike b then some Ordering.eq else none).map Ordering.swap := by
  rw [alike_comm b a]
  split <;> rfl

theorem compare?_swap (a b : Json) :
    b.compare? a = (a.compare? b).map Ordering.swap := by
  cases a with
  | null => cases b <;> rfl
  | bool x =>
      cases b with
      | null => rfl
      | bool y => exact congrArg some Std.OrientedOrd.eq_swap
      | number n => rfl
      | text | array | object =>
          simp only [compare?]
          exact alike_then_swap _ _
  | number x =>
      cases b with
      | null => rfl
      | bool c => exact congrArg some Ordering.swap_swap.symm
      | number y => exact congrArg some (JsonNumber.compare_swap x y).symm
      | text s => rfl
      | array | object =>
          simp only [compare?]
          exact alike_then_swap _ _
  | text x =>
      cases b with
      | null => rfl
      | number n => exact congrArg some Ordering.swap_swap.symm
      | text y => exact congrArg some Std.OrientedOrd.eq_swap
      | bool | array | object =>
          simp only [compare?]
          exact alike_then_swap _ _
  | array | object =>
      cases b with
      | null => rfl
      | bool | number | text | array | object =>
          simp only [compare?]
          exact alike_then_swap _ _

theorem compare?_self {a : Json} (h : a ≠ .null) :
    a.compare? a = some .eq := by
  cases a with
  | null => exact absurd rfl h
  | bool x => exact congrArg some Std.ReflOrd.compare_self
  | number x => exact congrArg some (JsonNumber.compare_self x)
  | text x => exact congrArg some Std.ReflOrd.compare_self
  | array x => exact if_pos (alike_self _)
  | object x => exact if_pos (alike_self _)

/-- Keys that join in one direction join in the other. -/
theorem equals_comm (a b : Json) :
    a.equals b = b.equals a := by
  unfold equals
  rw [compare?_swap a b]
  cases a.compare? b with
  | none => rfl
  | some order => cases order <;> rfl

end Json

/-- Comparing the other way round swaps the result, a value is equal to itself unless it is null,
and numbers are compared by their words.  So integers have their exact order, also when one of
them is given as a text. -/
theorem values_compare_exactly (a b : Json) :
    b.compare? a = (a.compare? b).map Ordering.swap ∧
      (a ≠ .null → a.compare? a = some .eq) ∧
      (∀ x y : JsonNumber, x.InRange → y.InRange →
        Json.compare? (.number x) (.number y) = some (x.compareWords y) ∧
          ∀ s : String, JsonNumber.ofChars? (trim s.toList) = some y →
            Json.compare? (.number x) (.text s) = some (x.compareWords y)) ∧
      ∀ i j : Int, FitsWord i → FitsWord j →
        Json.compare? (.number (.int i)) (.number (.int j)) = some (compare i j) ∧
          ∀ s : String, IsDecimalText j s →
            Json.compare? (.number (.int i)) (.text s) = some (compare i j) ∧
              Json.compare? (.text s) (.number (.int i)) = some (compare j i) := by
  refine ⟨Json.compare?_swap a b, Json.compare?_self, ?_, ?_⟩
  · intro x y hx hy
    rw [JsonNumber.compareWords_eq_compare hx hy]
    refine ⟨rfl, fun s hs => congrArg some ?_⟩
    rw [JsonNumber.compareText, hs]
  · intro i j _ hj
    refine ⟨rfl, fun s hs => ?_⟩
    have hnumber : Json.compare? (.number (.int i)) (.text s) = some (compare i j) :=
      congrArg some (JsonNumber.compareText_of_isDecimalText (.int i) hj hs)
    refine ⟨hnumber, ?_⟩
    rw [Json.compare?_swap, hnumber, Option.map_some, Int.compare_swap]

/-- Beyond `2 ^ 53` a text is told apart from the integer before it, and the largest unsigned word
is above a negative number. -/
theorem large_integers_compare_exactly :
    let low : Int := 2 ^ 53
    let largest : JsonNumber := .int (2 ^ 64 - 1)
    let text : String := "\u00a09007199254740993\n"
    FitsWord low ∧ FitsWord (low + 1) ∧ IsDecimalText (low + 1) text ∧
      Json.compare? (.number (.int low)) (.text text) = some .lt ∧
      Json.compare? (.text text) (.number (.int low)) = some .gt ∧
      Json.compare? (.text text) (.text text) = some .eq ∧
      (JsonNumber.int (-1)).InRange ∧ largest.InRange ∧
      Json.compare? (.number (.int (-1))) (.number largest) = some .lt := by
  intro low largest text
  have hlow : FitsWord low := by decide +kernel
  have hhigh : FitsWord (low + 1) := by decide +kernel
  have hnegative : (JsonNumber.int (-1)).InRange := ⟨by decide, by decide⟩
  have hlargest : largest.InRange := ⟨by decide, by decide⟩
  have htext : IsDecimalText (low + 1) text :=
    ⟨['\u00a0'], ['\n'], by decide +kernel, List.forall_mem_singleton.mpr rfl,
      List.forall_mem_singleton.mpr rfl⟩
  obtain ⟨_, hself, hwords, hexact⟩ := values_compare_exactly (.text text) (.number (.int low))
  obtain ⟨hbefore, hafter⟩ := (hexact low (low + 1) hlow hhigh).2 text htext
  exact ⟨hlow, hhigh, htext, hbefore.trans (by decide), hafter.trans (by decide), hself (by simp),
    hnegative, hlargest, (hwords (.int (-1)) largest hnegative hlargest).1.trans (by decide)⟩

end QueryShape
