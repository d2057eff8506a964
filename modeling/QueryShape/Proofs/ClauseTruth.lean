import QueryShape.Proofs.ClauseRoundTrip
import QueryShape.Proofs.ClauseText
import QueryShape.Proofs.RepeatedNames
import QueryShape.Proofs.SharedPatterns

/-!
# Clauses select what their text says

Whatever calls build a query, its clause with placeholders is a text of the grammar, and
the clause selects the rows for which the one reading of this text is true.  The reading
may only name the conditions by their texts; their truth values are those of the predicates
that stand in the same places.
-/

namespace QueryShape

/-- A clause and its text agree on the rows that they select. -/
structure Clause.SelectsAsWritten (clause : Clause) : Prop where
  /-- The empty clause, which has no text, selects every row. -/
  empty : clause = [] → ∀ rows row, Clause.holds rows row clause = true
  reads : clause ≠ [] → ∃ reading, SqlExpression (Clause.write placeholder clause) reading
  truth : ∀ reading, SqlExpression (Clause.write placeholder clause) reading →
    ∃ origin : SqlFormula Predicate,
      origin.written = reading ∧ origin.leaves = Clause.conditions clause ∧
        ∀ rows row, Clause.holds rows row clause = origin.truth (Predicate.holds rows row)
  never : ∀ condition ∈ Clause.conditions clause, condition.write placeholder = "0 = 1" →
    ∀ rows row, condition.holds rows row = false
  always : ∀ condition ∈ Clause.conditions clause, condition.write placeholder = "1 = 1" →
    ∀ rows row, condition.holds rows row = true
  /-- The combinator of the first term of a level is neither written nor tested. -/
  first : ∀ other : Clause, Clause.unled other = Clause.unled clause →
    Clause.write placeholder other = Clause.write placeholder clause ∧
      ∀ rows row, Clause.holds rows row other = Clause.holds rows row clause
  /-- Neither skipping terms nor sharing patterns changes what is found. -/
  search : ∀ rows (table : List Row) (cache : PatternCache), cache.Sound →
    (∀ row, (Clause.search rows row clause cache).1 = Clause.holds rows row clause) ∧
      (Clause.searchRows rows clause table cache).1 =
        table.filter fun row => Clause.holds rows row clause

theorem SqlFactor.ne_empty {text : String} {formula : SqlFormula String}
    (h : SqlFactor text formula) (rest : String) :
    text ++ rest ≠ "" := by
  intro heq
  have hlength := congrArg (fun s => s.toList.length) heq
  cases h with
  | condition h =>
      obtain ⟨_, _, ⟨word, _, _, rfl⟩, _, rfl⟩ := h.scanned
      simp at hlength
  | parenthesized _ => simp at hlength

theorem SqlExpression.ne_empty {text : String} {formula : SqlFormula String}
    (h : SqlExpression text formula) :
    text ≠ "" := by
  cases h with
  | runs hfactor _ _ => exact hfactor.ne_empty _

theorem Clause.WellFormed.selectsAsWritten {scope : Scope} {clause : Clause}
    (h : Clause.WellFormed scope clause) (hscope : scope.NamesIdentifiers) :
    Clause.SelectsAsWritten clause where
  empty := by
    intro hempty rows row
    rw [hempty, Clause.holds]
  reads hne := ⟨_, Clause.WellFormed.sqlExpression hscope clause hne h⟩
  truth := by
    intro reading hreading
    have hne : clause ≠ [] := by
      rintro rfl
      exact hreading.ne_empty rfl
    have hwritten := Clause.WellFormed.sqlExpression hscope clause hne h
    refine ⟨Clause.formula clause, hwritten.formula_unique hreading,
      Clause.leaves_formula clause hne h, ?_⟩
    intro rows row
    exact (Clause.truth_formula rows row clause).symm
  never := by
    intro condition hmem hwrite rows row
    obtain ⟨hcondition, hgroup⟩ := Clause.WellFormed.of_mem_conditions clause h hmem
    obtain ⟨column, rfl⟩ := hcondition.eq_isIn_of_emptyList false hgroup hwrite
    rfl
  always := by
    intro condition hmem hwrite rows row
    obtain ⟨hcondition, hgroup⟩ := Clause.WellFormed.of_mem_conditions clause h hmem
    obtain ⟨column, rfl⟩ := hcondition.eq_isIn_of_emptyList true hgroup hwrite
    rfl
  first := by
    intro other hsame
    refine ⟨?_, ?_⟩
    · rw [← Clause.write_unled placeholder other, hsame, Clause.write_unled]
    · intro rows row
      rw [← Clause.holds_unled rows row other, hsame, Clause.holds_unled]
  search := by
    intro rows table cache hcache
    refine ⟨?_, (Clause.searchRows_eq_filter rows clause table hcache).1⟩
    intro row
    exact (Clause.tells_search rows row clause cache hcache).1

theorem built_clause_selects_as_written :
    (∀ table fresh query, SelectQuery.ofTable table = .ok fresh →
        Backend.plain.Reaches fresh query → Clause.SelectsAsWritten query.clause) ∧
      ∀ schema model fresh query, schema.NamesIdentifiers →
        ModelQuery.ofModel schema model = .ok fresh →
          (Backend.relational schema).Reaches fresh query →
            Clause.SelectsAsWritten query.select.clause := by
  constructor
  · intro table fresh query hfresh hreach
    obtain ⟨_, rfl⟩ := identifier_map_eq_ok_iff.mp hfresh
    have hkeeps := hreach.keeps Backend.plain_lawful
    exact (hkeeps.wellFormed trivial).selectsAsWritten trivial
  · intro schema model fresh query hnames hfresh hreach
    simp only [ModelQuery.ofModel, bind_eq_ok_iff, pure_eq_ok_iff] at hfresh
    obtain ⟨_, _, select, hselect, rfl⟩ := hfresh
    obtain ⟨hmodel, rfl⟩ := identifier_map_eq_ok_iff.mp hselect
    have hkeeps := hreach.keeps (Backend.relational_lawful schema)
    exact (hkeeps.wellFormed trivial).selectsAsWritten ⟨hnames, hmodel⟩

/-- The names that a schema lists can be looked through. -/
theorem Schema.namesIdentifiers_of_forall_mem {schema : Schema}
    (h : ∀ entry ∈ schema.models, ∀ named ∈ entry.2.relations,
      isIdentifier named.2.model ∧ isIdentifier named.2.foreignKey ∧
        isIdentifier named.2.localKey) :
    schema.NamesIdentifiers := by
  intro model name relation hrelation
  simp only [Schema.relation, Schema.model, bind_eq_ok_iff] at hrelation
  obtain ⟨definition, hdefinition, hrelation⟩ := hrelation
  split at hdefinition
  next found hfound =>
    cases hdefinition
    split at hrelation
    next known hknown =>
      cases hrelation
      exact h _ (Fields.mem_of_get? hfound) _ (Fields.mem_of_get? hknown)
    next => cases hrelation
  next => cases hdefinition

/-- Without relations the calls stop at the second one. -/
theorem author_clause_selects_as_written :
    Clause.SelectsAsWritten
        (BuildStep.runAll .plain authorSteps authorQuery.select).state.clause ∧
      Clause.SelectsAsWritten
        (BuildStep.runAll (.relational authorSchema) authorSteps authorQuery).state.select.clause :=
  ⟨built_clause_selects_as_written.1 "authors" authorQuery.select _ rfl
      (Backend.reaches_runAll Backend.plain_lawful authorSteps authorQuery.select),
    built_clause_selects_as_written.2 authorSchema "authors" authorQuery _
      (Schema.namesIdentifiers_of_forall_mem (by decide)) rfl
      (Backend.reaches_runAll (Backend.relational_lawful authorSchema) authorSteps authorQuery)⟩

end QueryShape
