import QueryShape.Proofs.ListAndRecord
import QueryShape.Proofs.NumeralGrammar
import QueryShape.Proofs.ValueOrder

/-!
# Strings beside integers

A string stands for a number if it is the text of a numeral between blanks and the numeral has a
value.  A string that stands for none is compared with the decimal text of the number beside it.
The decimal text of an integer of 64 bits stands for the integer itself, so it is not such a
string, and the comparison of the texts never finds them equal.  Then neither joins nor lists nor
searches by key can pair the two.
-/

namespace QueryShape

/-- A string that stands for a number. -/
def JsonNumber.ReadFrom (n : JsonNumber) (s : String) : Prop :=
  ∃ numeral, Numeral.NumeralText numeral (trim s.toList) ∧ numeral.number? = some n

/-- One value as a key passes over the other one, wherever it occurs. -/
structure NeverMatch (key other : Json) : Prop where
  lists :
    ∀ (before after : List Json) (negated : Bool),
      inList key (before ++ other :: after) negated = inList key (before ++ after) negated
  loads :
    ∀ (relation : Relation) (columns : List String) (before after : List Record)
      (candidate parent : Record), parent.column relation.parentKey = key →
        candidate.column relation.relatedKey = other →
          relation.pick columns (before ++ candidate :: after) parent =
            relation.pick columns (before ++ after) parent
  tests :
    ∀ (rows others : RowSource) (correlation : Correlation) (before after : List Row)
      (related row : Row), row.column correlation.parentKey = key →
        related.column correlation.relatedKey = other →
          rows correlation.relatedTable = before ++ related :: after →
            others correlation.relatedTable = before ++ after →
              ∀ (column : String) (test : ColumnTest),
                relatedHolds rows correlation column test row =
                  relatedHolds others correlation column test row
  ids :
    ∀ (store : Store) (model : String) (definition : Model) (record : Record),
      store.schema.model model = .ok definition →
        store.find model key = .ok (some record) →
          Fields.get? record.attributes definition.primaryKey ≠ some other

/-! ## What a string stands for -/

namespace JsonNumber

theorem readFrom_iff {n : JsonNumber} {s : String} :
    n.ReadFrom s ↔ ofChars? (trim s.toList) = some n := by
  simp only [ReadFrom, ofChars?, Option.bind_eq_bind, Option.bind_eq_some_iff,
    Numeral.ofChars?_eq_some_iff]

theorem compareText_of_readFrom {n : JsonNumber} {s : String} (h : n.ReadFrom s)
    (m : JsonNumber) :
    m.compareText s = m.compare n := by
  rw [compareText, readFrom_iff.mp h]

theorem compareText_of_not_readFrom {s : String} (h : ∀ n : JsonNumber, ¬ n.ReadFrom s)
    (m : JsonNumber) :
    m.compareText s = Ord.compare m.render s := by
  have hnone : ofChars? (trim s.toList) = none := by
    rw [Option.eq_none_iff_forall_ne_some]
    intro n hn
    exact h n (readFrom_iff.mpr hn)
  rw [compareText, hnone]

theorem readFrom_toString {i : Int} (hi : FitsWord i) :
    (JsonNumber.int i).ReadFrom (toString i) :=
  readFrom_iff.mpr (ofChars?_trim_of_padded (.refl _) (ofChars?_toString hi))

theorem compare_toString_ne_eq {i : Int} (hi : FitsWord i) {s : String}
    (h : ∀ n : JsonNumber, ¬ n.ReadFrom s) :
    Ord.compare (toString i) s ≠ .eq := by
  intro heq
  have hsame : toString i = s := Std.LawfulEqOrd.eq_of_compare heq
  apply h (.int i)
  rw [← hsame]
  exact readFrom_toString hi

theorem compareText_eq_iff {i : Int} (hi : FitsWord i) (s : String) :
    (JsonNumber.int i).compareText s = .eq ↔
      ∃ n : JsonNumber, n.ReadFrom s ∧ compare (.int i) n = .eq := by
  constructor
  · intro h
    by_cases hread : ∃ n : JsonNumber, n.ReadFrom s
    · obtain ⟨n, hn⟩ := hread
      rw [compareText_of_readFrom hn] at h
      exact ⟨n, hn, h⟩
    · rw [not_exists] at hread
      rw [compareText_of_not_readFrom hread, render_int] at h
      exact absurd h (compare_toString_ne_eq hi hread)
  · rintro ⟨n, hn, h⟩
    rw [compareText_of_readFrom hn, h]

end JsonNumber

/-! ## Keys -/

namespace Json

theorem number_equals_text_iff (m : JsonNumber) (s : String) :
    (Json.number m).equals (.text s) = true ↔ m.compareText s = .eq := by
  simp [equals, compare?]

theorem neverMatch_of_equals {key other : Json} (hkey : key ≠ .null)
    (h : key.equals other = false) :
    NeverMatch key other where
  lists before after negated := by
    have hnull : key.isNull = false := by
      cases key with
      | null => exact absurd rfl hkey
      | bool | number | text | array | object => rfl
    have hany : (before ++ other :: after).any key.equals = (before ++ after).any key.equals := by
      rw [List.any_append, List.any_cons, h, Bool.false_or, ← List.any_append]
    unfold inList
    rw [hany, hnull]
    cases hlist : before ++ after with
    | nil => simp
    | cons => simp
  loads relation columns before after candidate parent hparent hcandidate := by
    have hnone : ¬ candidate.hasKey relation.relatedKey key = true := by
      rw [Record.hasKey, hcandidate, equals_comm, h]
      exact Bool.false_ne_true
    have hfound :
        (before ++ candidate :: after).filter (·.hasKey relation.relatedKey key) =
          (before ++ after).filter (·.hasKey relation.relatedKey key) := by
      rw [List.filter_append, List.filter_cons, if_neg hnone, ← List.filter_append]
    simp only [Relation.pick, hparent, hfound]
  tests rows others correlation before after related row hrow hrelated hrows hothers column
      test := by
    have hnone : other.equals key = false := by rw [equals_comm, h]
    simp only [relatedHolds, hrow, hrows, hothers, List.any_append, List.any_cons, hrelated, hnone,
      Bool.false_and, Bool.false_or]
  ids store model definition record hdefinition hfind hkeyed := by
    rw [Store.find_eq hdefinition, Except.ok.injEq, Option.map_eq_some_iff] at hfind
    obtain ⟨row, hrow, rfl⟩ := hfind
    have hfound := List.find?_some hrow
    have hattribute : Fields.get? row definition.primaryKey = some other := hkeyed
    rw [Model.identifies, hattribute, Option.getD_some, equals_comm, h] at hfound
    cases hfound

end Json

/-- An integer equals exactly the strings that stand for an equal number.  The comparison of the
texts, which is left for strings that stand for none, never comes out equal. -/
theorem integer_equals_text_iff {i : Int} (hi : FitsWord i) (s : String) :
    ((Json.number (.int i)).equals (.text s) = true ↔
        ∃ n : JsonNumber, n.ReadFrom s ∧ JsonNumber.compare (.int i) n = .eq) ∧
      ((Json.text s).equals (.number (.int i)) = true ↔
        ∃ n : JsonNumber, n.ReadFrom s ∧ JsonNumber.compare (.int i) n = .eq) ∧
      ((∀ n : JsonNumber, ¬ n.ReadFrom s) →
        Json.compare? (.number (.int i)) (.text s) = some (compare (toString i) s) ∧
          Json.compare? (.text s) (.number (.int i)) = some (compare s (toString i)) ∧
          compare (toString i) s ≠ .eq ∧ compare s (toString i) ≠ .eq ∧
          NeverMatch (.number (.int i)) (.text s) ∧ NeverMatch (.text s) (.number (.int i))) := by
  have hequals :
      (Json.number (.int i)).equals (.text s) = true ↔
        ∃ n : JsonNumber, n.ReadFrom s ∧ JsonNumber.compare (.int i) n = .eq := by
    rw [Json.number_equals_text_iff, JsonNumber.compareText_eq_iff hi]
  refine ⟨hequals, ?_, ?_⟩
  · rw [Json.equals_comm]
    exact hequals
  · intro hread
    have hcompare :
        Json.compare? (.number (.int i)) (.text s) = some (compare (toString i) s) := by
      rw [← JsonNumber.render_int, ← JsonNumber.compareText_of_not_readFrom hread]
      rfl
    have hswap : compare s (toString i) = (compare (toString i) s).swap :=
      Std.OrientedOrd.eq_swap
    have hne : compare (toString i) s ≠ .eq := JsonNumber.compare_toString_ne_eq hi hread
    have hunequal : (Json.number (.int i)).equals (.text s) = false := by
      rw [Bool.eq_false_iff, ne_eq, hequals]
      rintro ⟨n, hn, _⟩
      exact hread n hn
    refine ⟨hcompare, ?_, hne, ?_, ?_, ?_⟩
    · rw [Json.compare?_swap, hcompare, Option.map_some, hswap]
    · rw [hswap, ne_eq, Ordering.swap_eq_eq]
      exact hne
    · exact Json.neverMatch_of_equals (by simp) hunequal
    · exact Json.neverMatch_of_equals (by simp) (by rw [Json.equals_comm, hunequal])

/-- The lowest integer equals a numeral with a power of ten, but no text that goes on after it. -/
theorem lowest_integer_equals_numerals_only :
    let lowest : Int := -2 ^ 63
    let numeral : String := " -922337203685477580.8e+1\n"
    let text : String := "-9223372036854775808 rows"
    FitsWord lowest ∧ (Json.number (.int lowest)).equals (.text numeral) = true ∧
      (∃ n : JsonNumber, n.ReadFrom numeral ∧ JsonNumber.compare (.int lowest) n = .eq) ∧
      (∀ n : JsonNumber, ¬ n.ReadFrom text) ∧
      (Json.text text).equals (.number (.int lowest)) = false ∧
      NeverMatch (.number (.int lowest)) (.text text) := by
  intro lowest numeral text
  have hlowest : FitsWord lowest := by decide +kernel
  have hequals : (Json.number (.int lowest)).equals (.text numeral) = true := by decide +kernel
  have hread : ∀ n : JsonNumber, ¬ n.ReadFrom text := by
    intro n hn
    have hnone : JsonNumber.ofChars? (trim text.toList) = none := by decide +kernel
    rw [JsonNumber.readFrom_iff, hnone] at hn
    cases hn
  have htext := (integer_equals_text_iff hlowest text).2
  refine ⟨hlowest, hequals, (integer_equals_text_iff hlowest numeral).1.mp hequals, hread, ?_, ?_⟩
  · rw [Bool.eq_false_iff, ne_eq, htext.1]
    rintro ⟨n, hn, _⟩
    exact hread n hn
  · exact (htext.2 hread).2.2.2.2.1

end QueryShape
