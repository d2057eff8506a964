import QueryShape.Filter.Apply
import QueryShape.Proofs.Outcomes

/-!
# The predicates of conditions

A condition denotes a predicate when its arguments have one of the admissible forms.
The rules below list those forms for each kind of condition, and nothing else is
accepted: adding a condition succeeds exactly with the predicate that it denotes.
-/

namespace QueryShape

/-- A value alone asks for equality; otherwise an operator stands before it. -/
inductive ComparisonArgs : List Json → Comparison → Json → Prop
  | equality (value : Json) :
      ComparisonArgs [value] .eq value
  | operator {token : String} {op : Comparison} (value : Json)
      (htoken : Comparison.ofToken? token = some op) :
      ComparisonArgs [.text token, value] op value

/-- Comparisons with null that ask whether a column is null. -/
def Comparison.TestsNull (op : Comparison) (value : Json) : Prop :=
  (op = .eq ∨ op = .ne) ∧ value = .null

/-- What a comparison asks of a column of related rows. -/
inductive Comparison.Asks : Comparison → Json → ColumnTest → Prop
  | isNull : Asks .eq .null (.null false)
  | isNotNull : Asks .ne .null (.null true)
  | compare {op : Comparison} {value : Json} (hvalue : ¬ op.TestsNull value) :
      Asks op value (.compare op value)

/-- How rows of the related model belong to a row of the model that has the relation. -/
def Relation.correlation (relation : Relation) (parent : String) : Correlation where
  parentTable := parent
  parentKey := relation.parentKey
  relatedTable := relation.model
  relatedKey := relation.relatedKey

inductive Condition.Denotes (scope : Scope) : Condition → Predicate → Prop
  | isNull {column : String} {args : List Json}
      (hcolumn : isIdentifier column) (hargs : ComparisonArgs args .eq .null) :
      Denotes scope ⟨.compare, .text column :: args⟩ (.null column false)
  | isNotNull {column : String} {args : List Json}
      (hcolumn : isIdentifier column) (hargs : ComparisonArgs args .ne .null) :
      Denotes scope ⟨.compare, .text column :: args⟩ (.null column true)
  | compare {column : String} {args : List Json} {op : Comparison} {value : Json}
      (hcolumn : isIdentifier column) (hargs : ComparisonArgs args op value)
      (hvalue : ¬ op.TestsNull value) :
      Denotes scope ⟨.compare, .text column :: args⟩ (.compare column op value)
  | null {column : String} (hcolumn : isIdentifier column) :
      Denotes scope ⟨.null, [.text column]⟩ (.null column false)
  | notNull {column : String} (hcolumn : isIdentifier column) :
      Denotes scope ⟨.notNull, [.text column]⟩ (.null column true)
  | isIn {column : String} {values : List Json} (hcolumn : isIdentifier column) :
      Denotes scope ⟨.isIn, [.text column, .array values]⟩ (.isIn column values false)
  | notIn {column : String} {values : List Json} (hcolumn : isIdentifier column) :
      Denotes scope ⟨.notIn, [.text column, .array values]⟩ (.isIn column values true)
  | related {schema : Schema} {model name column : String} {relation : Relation}
      {args : List Json} {op : Comparison} {value : Json} {test : ColumnTest}
      (hscope : scope = .model schema model)
      (hrelation : schema.relation model name = .ok relation)
      (hcolumn : isIdentifier column) (hargs : ComparisonArgs args op value)
      (htest : op.Asks value test) :
      Denotes scope ⟨.relation, .text name :: .text column :: args⟩
        (.related name (relation.correlation model) column test)

theorem ColumnTest.ofComparison_of_not_testsNull {op : Comparison} {value : Json}
    (h : ¬ op.TestsNull value) :
    ColumnTest.ofComparison op value = .compare op value := by
  unfold ColumnTest.ofComparison
  split
  next => exact absurd ⟨.inl rfl, rfl⟩ h
  next => exact absurd ⟨.inr rfl, rfl⟩ h
  next => rfl

theorem Comparison.asks_ofComparison (op : Comparison) (value : Json) :
    op.Asks value (.ofComparison op value) := by
  by_cases h : op.TestsNull value
  · obtain ⟨rfl | rfl, rfl⟩ := h
    · exact .isNull
    · exact .isNotNull
  · rw [ColumnTest.ofComparison_of_not_testsNull h]
    exact .compare h

theorem Comparison.Asks.test_eq {op : Comparison} {value : Json} {test : ColumnTest}
    (h : op.Asks value test) :
    test = .ofComparison op value := by
  cases h with
  | isNull | isNotNull => rfl
  | compare hvalue => exact (ColumnTest.ofComparison_of_not_testsNull hvalue).symm

theorem identifier_eq_ok_iff {s name : String} :
    identifier s = .ok name ↔ isIdentifier s ∧ s = name := by
  by_cases h : isIdentifier s <;> simp [identifier, h]

theorem identifier_map_eq_ok_iff {α : Type} {column : String} {build : String → α} {result : α} :
    (do return build (← identifier column)) = .ok result ↔
      isIdentifier column ∧ result = build column := by
  simp only [bind_eq_ok_iff, identifier_eq_ok_iff, pure_eq_ok_iff]
  constructor
  · rintro ⟨_, ⟨hcolumn, rfl⟩, rfl⟩
    exact ⟨hcolumn, rfl⟩
  · rintro ⟨hcolumn, rfl⟩
    exact ⟨column, ⟨hcolumn, rfl⟩, rfl⟩

namespace Predicate

theorem ofComparison_eq_ok_iff {column : String} {op : Comparison} {value : Json}
    {predicate : Predicate} :
    ofComparison column op value = .ok predicate ↔
      isIdentifier column ∧ predicate = .compare column op value :=
  identifier_map_eq_ok_iff

theorem ofNull_eq_ok_iff {column : String} {negated : Bool} {predicate : Predicate} :
    ofNull column negated = .ok predicate ↔
      isIdentifier column ∧ predicate = .null column negated :=
  identifier_map_eq_ok_iff

theorem ofList_eq_ok_iff {column : String} {values : List Json} {negated : Bool}
    {predicate : Predicate} :
    ofList column values negated = .ok predicate ↔
      isIdentifier column ∧ predicate = .isIn column values negated :=
  identifier_map_eq_ok_iff

end Predicate

theorem Scope.related_eq_ok_iff {scope : Scope} {name column : String} {op : Comparison}
    {value : Json} {predicate : Predicate} :
    scope.related name column op value = .ok predicate ↔
      ∃ schema model relation,
        scope = .model schema model ∧ schema.relation model name = .ok relation ∧
          isIdentifier column ∧
          predicate =
            .related name (relation.correlation model) column (.ofComparison op value) := by
  cases scope with
  | plain => simp [Scope.related]
  | model schema model =>
      simp only [Scope.related, bind_eq_ok_iff, identifier_eq_ok_iff, pure_eq_ok_iff]
      constructor
      · rintro ⟨relation, hrelation, _, ⟨hcolumn, rfl⟩, rfl⟩
        exact ⟨schema, model, relation, rfl, hrelation, hcolumn, rfl⟩
      · rintro ⟨_, _, relation, hscope, hrelation, hcolumn, rfl⟩
        cases hscope
        exact ⟨relation, hrelation, column, ⟨hcolumn, rfl⟩, rfl⟩

namespace Condition

theorem nameArg_eq_ok_iff {kind : ConditionKind} {args : List Json} {index : Nat}
    {role : ArgumentRole} {name : String} :
    nameArg kind args index role = .ok name ↔ args[index]? = some (.text name) := by
  unfold nameArg
  cases harg : args[index]? with
  | none => simp
  | some arg => cases arg <;> simp [Json.text?]

theorem expectCount_eq_ok_iff {kind : ConditionKind} {args : List Json} {count : Nat}
    {done : Unit} :
    expectCount kind args count = .ok done ↔ args.length = count := by
  by_cases h : args.length = count <;> simp [expectCount, h]

theorem comparison_eq_ok_iff {kind : ConditionKind} {args : List Json} {offset : Nat}
    {op : Comparison} {value : Json} :
    comparison kind args offset = .ok (op, value) ↔
      ComparisonArgs (args.drop offset) op value := by
  unfold comparison
  constructor
  · intro h
    split at h
    next given hargs =>
      cases h
      rw [hargs]
      exact .equality _
    next token given hargs =>
      rw [hargs]
      cases token with
      | text token =>
          cases hop : Comparison.ofToken? token with
          | none => simp [Json.text?, hop] at h
          | some found =>
              simp only [Json.text?, Option.bind_eq_bind, Option.bind_some, hop, Except.ok.injEq,
                Prod.mk.injEq] at h
              obtain ⟨rfl, rfl⟩ := h
              exact .operator given hop
      | null | bool | number | array | object => simp [Json.text?] at h
    next => cases h
  · intro h
    cases hargs : args.drop offset with
    | nil =>
        rw [hargs] at h
        cases h
    | cons first rest =>
        rw [hargs] at h
        cases h with
        | equality => rfl
        | operator _ htoken => simp [Json.text?, htoken]

theorem comparePredicate_eq_ok_iff {column : String} {op : Comparison} {value : Json}
    {predicate : Predicate} :
    comparePredicate column op value = .ok predicate ↔
      isIdentifier column ∧
        (op = .eq ∧ value = .null ∧ predicate = .null column false ∨
          op = .ne ∧ value = .null ∧ predicate = .null column true ∨
          ¬ op.TestsNull value ∧ predicate = .compare column op value) := by
  unfold comparePredicate
  split
  next => simp [Predicate.ofNull_eq_ok_iff, Comparison.TestsNull]
  next => simp [Predicate.ofNull_eq_ok_iff, Comparison.TestsNull]
  next heq hne =>
    have hvalue : ¬ op.TestsNull value := by
      rintro ⟨rfl | rfl, rfl⟩
      · exact heq rfl rfl
      · exact hne rfl rfl
    rw [Predicate.ofComparison_eq_ok_iff]
    constructor
    · rintro ⟨hcolumn, rfl⟩
      exact ⟨hcolumn, .inr (.inr ⟨hvalue, rfl⟩)⟩
    · rintro ⟨hcolumn, ⟨rfl, rfl, _⟩ | ⟨rfl, rfl, _⟩ | ⟨_, rfl⟩⟩
      · exact absurd ⟨.inl rfl, rfl⟩ hvalue
      · exact absurd ⟨.inr rfl, rfl⟩ hvalue
      · exact ⟨hcolumn, rfl⟩

theorem getElem?_zero_eq_some_iff {α : Type} {l : List α} {a : α} :
    l[0]? = some a ↔ ∃ rest, l = a :: rest := by
  cases l <;> simp [eq_comm]

theorem nullPredicate_eq_ok_iff {kind : ConditionKind} {args : List Json} {negated : Bool}
    {predicate : Predicate} :
    nullPredicate kind args negated = .ok predicate ↔
      ∃ column, args = [.text column] ∧ isIdentifier column ∧
        predicate = .null column negated := by
  simp only [nullPredicate, bind_eq_ok_iff, expectCount_eq_ok_iff, nameArg_eq_ok_iff,
    Predicate.ofNull_eq_ok_iff]
  constructor
  · rintro ⟨_, hcount, column, hname, hcolumn, rfl⟩
    obtain ⟨rest, rfl⟩ := getElem?_zero_eq_some_iff.mp hname
    have hrest : rest = [] := by simpa using hcount
    subst hrest
    exact ⟨column, rfl, hcolumn, rfl⟩
  · rintro ⟨column, rfl, hcolumn, rfl⟩
    exact ⟨(), rfl, column, rfl, hcolumn, rfl⟩

theorem listPredicate_eq_ok_iff {kind : ConditionKind} {args : List Json} {negated : Bool}
    {predicate : Predicate} :
    listPredicate kind args negated = .ok predicate ↔
      ∃ column values, args = [.text column, .array values] ∧ isIdentifier column ∧
        predicate = .isIn column values negated := by
  simp only [listPredicate, bind_eq_ok_iff, expectCount_eq_ok_iff, nameArg_eq_ok_iff]
  constructor
  · rintro ⟨_, hcount, column, hname, h⟩
    obtain ⟨rest, rfl⟩ := getElem?_zero_eq_some_iff.mp hname
    split at h
    next values hvalues =>
      obtain ⟨more, rfl⟩ := getElem?_zero_eq_some_iff.mp (by simpa using hvalues)
      have hmore : more = [] := by simpa using hcount
      subst hmore
      obtain ⟨hcolumn, rfl⟩ := Predicate.ofList_eq_ok_iff.mp h
      exact ⟨column, values, rfl, hcolumn, rfl⟩
    next => cases h
  · rintro ⟨column, values, rfl, hcolumn, rfl⟩
    exact ⟨(), rfl, column, rfl, Predicate.ofList_eq_ok_iff.mpr ⟨hcolumn, rfl⟩⟩

theorem compare_eq_ok_iff {scope : Scope} {combinator : Combinator} {args : List Json}
    {predicate : Predicate} :
    Condition.predicate scope combinator ⟨.compare, args⟩ = .ok predicate ↔
      ∃ column rest op value, args = .text column :: rest ∧ ComparisonArgs rest op value ∧
        comparePredicate column op value = .ok predicate := by
  simp only [Condition.predicate, bind_eq_ok_iff, nameArg_eq_ok_iff]
  constructor
  · rintro ⟨column, hname, ⟨op, value⟩, hargs, h⟩
    obtain ⟨rest, rfl⟩ := getElem?_zero_eq_some_iff.mp hname
    exact ⟨column, rest, op, value, rfl, comparison_eq_ok_iff.mp hargs, h⟩
  · rintro ⟨column, rest, op, value, rfl, hargs, h⟩
    exact ⟨column, rfl, (op, value), comparison_eq_ok_iff.mpr hargs, h⟩

theorem relation_eq_ok_iff {scope : Scope} {combinator : Combinator} {args : List Json}
    {predicate : Predicate} :
    Condition.predicate scope combinator ⟨.relation, args⟩ = .ok predicate ↔
      ∃ name column rest op value, args = .text name :: .text column :: rest ∧
        ComparisonArgs rest op value ∧ scope.related name column op value = .ok predicate := by
  cases scope with
  | plain => simp [Condition.predicate, Scope.testsRelations, Scope.related]
  | model schema model =>
      simp only [Condition.predicate, Scope.testsRelations, if_true, relationPredicate,
        bind_eq_ok_iff, nameArg_eq_ok_iff]
      constructor
      · rintro ⟨name, hname, column, hcolumn, ⟨op, value⟩, hargs, h⟩
        obtain ⟨rest, rfl⟩ := getElem?_zero_eq_some_iff.mp hname
        obtain ⟨rest, rfl⟩ := getElem?_zero_eq_some_iff.mp (by simpa using hcolumn)
        exact ⟨name, column, rest, op, value, rfl, comparison_eq_ok_iff.mp hargs, h⟩
      · rintro ⟨name, column, rest, op, value, rfl, hargs, h⟩
        exact ⟨name, rfl, column, rfl, (op, value), comparison_eq_ok_iff.mpr hargs, h⟩

theorem Denotes.of_predicate {scope : Scope} {combinator : Combinator} {condition : Condition}
    {predicate : Predicate}
    (h : condition.predicate scope combinator = .ok predicate) :
    condition.Denotes scope predicate := by
  obtain ⟨kind, args⟩ := condition
  cases kind with
  | compare =>
      obtain ⟨column, rest, op, value, rfl, hargs, h⟩ := compare_eq_ok_iff.mp h
      obtain ⟨hcolumn, ⟨rfl, rfl, rfl⟩ | ⟨rfl, rfl, rfl⟩ | ⟨hvalue, rfl⟩⟩ :=
        comparePredicate_eq_ok_iff.mp h
      · exact .isNull hcolumn hargs
      · exact .isNotNull hcolumn hargs
      · exact .compare hcolumn hargs hvalue
  | null =>
      obtain ⟨column, rfl, hcolumn, rfl⟩ := nullPredicate_eq_ok_iff.mp h
      exact .null hcolumn
  | notNull =>
      obtain ⟨column, rfl, hcolumn, rfl⟩ := nullPredicate_eq_ok_iff.mp h
      exact .notNull hcolumn
  | isIn =>
      obtain ⟨column, values, rfl, hcolumn, rfl⟩ := listPredicate_eq_ok_iff.mp h
      exact .isIn hcolumn
  | notIn =>
      obtain ⟨column, values, rfl, hcolumn, rfl⟩ := listPredicate_eq_ok_iff.mp h
      exact .notIn hcolumn
  | relation =>
      obtain ⟨name, column, rest, op, value, rfl, hargs, h⟩ := relation_eq_ok_iff.mp h
      obtain ⟨schema, model, relation, hscope, hrelation, hcolumn, rfl⟩ :=
        Scope.related_eq_ok_iff.mp h
      exact .related hscope hrelation hcolumn hargs (op.asks_ofComparison value)

theorem Denotes.predicate_eq {scope : Scope} {condition : Condition} {predicate : Predicate}
    (h : condition.Denotes scope predicate) (combinator : Combinator) :
    condition.predicate scope combinator = .ok predicate := by
  cases h with
  | isNull hcolumn hargs =>
      refine compare_eq_ok_iff.mpr ⟨_, _, _, _, rfl, hargs, ?_⟩
      exact comparePredicate_eq_ok_iff.mpr ⟨hcolumn, .inl ⟨rfl, rfl, rfl⟩⟩
  | isNotNull hcolumn hargs =>
      refine compare_eq_ok_iff.mpr ⟨_, _, _, _, rfl, hargs, ?_⟩
      exact comparePredicate_eq_ok_iff.mpr ⟨hcolumn, .inr (.inl ⟨rfl, rfl, rfl⟩)⟩
  | compare hcolumn hargs hvalue =>
      refine compare_eq_ok_iff.mpr ⟨_, _, _, _, rfl, hargs, ?_⟩
      exact comparePredicate_eq_ok_iff.mpr ⟨hcolumn, .inr (.inr ⟨hvalue, rfl⟩)⟩
  | null hcolumn => exact nullPredicate_eq_ok_iff.mpr ⟨_, rfl, hcolumn, rfl⟩
  | notNull hcolumn => exact nullPredicate_eq_ok_iff.mpr ⟨_, rfl, hcolumn, rfl⟩
  | isIn hcolumn => exact listPredicate_eq_ok_iff.mpr ⟨_, _, rfl, hcolumn, rfl⟩
  | notIn hcolumn => exact listPredicate_eq_ok_iff.mpr ⟨_, _, rfl, hcolumn, rfl⟩
  | related hscope hrelation hcolumn hargs htest =>
      rw [htest.test_eq]
      refine relation_eq_ok_iff.mpr ⟨_, _, _, _, _, rfl, hargs, ?_⟩
      exact Scope.related_eq_ok_iff.mpr ⟨_, _, _, hscope, hrelation, hcolumn, rfl⟩

/-- The combinator of a condition decides only how a failure is worded. -/
theorem predicate_eq_ok_iff {scope : Scope} {combinator : Combinator} {condition : Condition}
    {predicate : Predicate} :
    condition.predicate scope combinator = .ok predicate ↔ condition.Denotes scope predicate :=
  ⟨Denotes.of_predicate, fun h => h.predicate_eq combinator⟩

end Condition

end QueryShape
