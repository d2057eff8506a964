import QueryShape.Proofs.FilterTranslation
import QueryShape.Store.Basic

/-!
# What filters ask of rows

A filter is read as it is written: a chain is a list of runs between its `or`s, and a
row satisfies it when it satisfies all terms of one run.  A group is a chain of its
own, and the test of a relation looks for a related row.  The clause that a filter
denotes selects exactly the rows that satisfy the filter.
-/

namespace QueryShape

/-- The rows that belong to a row by a relation; a null key belongs to nothing. -/
def Store.related (store : Store) (relation : Relation) (row : Row) : List Row :=
  let key := row.column relation.parentKey
  if key.isNull then []
  else
    (store.rows relation.model).filter fun related =>
      (related.column relation.relatedKey).equals key

def comparisonArgs? : List Json → Option (Comparison × Json)
  | [value] => some (.eq, value)
  | [.text token, value] => (Comparison.ofToken? token).map (·, value)
  | _ => none

def Comparison.test : Comparison → Json → Json → Bool
  | .eq, actual, .null => actual.isNull
  | .ne, actual, .null => !actual.isNull
  | op, actual, expected => op.holds actual expected

/-- Whether a row of a model satisfies a condition. -/
def Condition.holds (store : Store) (model : String) (row : Row) : Condition → Bool
  | ⟨.compare, .text column :: args⟩ =>
    (comparisonArgs? args).any fun (op, value) => op.test (row.column column) value
  | ⟨.null, [.text column]⟩ => (row.column column).isNull
  | ⟨.notNull, [.text column]⟩ => !(row.column column).isNull
  | ⟨.isIn, [.text column, .array values]⟩ => inList (row.column column) values false
  | ⟨.notIn, [.text column, .array values]⟩ => inList (row.column column) values true
  | ⟨.relation, .text name :: .text column :: args⟩ =>
    match store.schema.relation model name with
    | .ok relation =>
      (comparisonArgs? args).any fun (op, value) =>
        (store.related relation row).any fun related => op.test (related.column column) value
    | .error _ => false
  | _ => false

/-- Puts a truth value before runs: `and` in the first of them, `or` in a run of its own. -/
def Combinator.joinRuns (truth : Bool) : Combinator → List (List Bool) → List (List Bool)
  | .and, run :: runs => (truth :: run) :: runs
  | .and, [] => [[truth]]
  | .or, runs => [truth] :: runs

def anyRun (runs : List (List Bool)) : Bool :=
  runs.any fun run => run.all id

mutual

def FilterTerm.holds (store : Store) (model : String) (row : Row) : FilterTerm → Bool
  | .condition condition => condition.holds store model row
  | .group chain => anyRun (chain.runs store model row)

/-- The truth values of the terms of a chain, in runs between its `or`s. -/
def FilterChain.runs (store : Store) (model : String) (row : Row) :
    FilterChain → List (List Bool)
  | .one term => [[term.holds store model row]]
  | .join term next rest =>
    next.joinRuns (term.holds store model row) (rest.runs store model row)

end

/-- Whether a row of a model satisfies a filter; every row satisfies the empty one. -/
def Filter.holds (store : Store) (model : String) (row : Row) : Filter → Bool
  | .empty => true
  | .chain terms => anyRun (terms.runs store model row)

/-! ## Conditions -/

theorem ComparisonArgs.comparisonArgs?_eq {args : List Json} {op : Comparison} {value : Json}
    (h : ComparisonArgs args op value) :
    comparisonArgs? args = some (op, value) := by
  cases h with
  | equality => rfl
  | operator value htoken => simp [comparisonArgs?, htoken]

theorem Comparison.test_of_not_testsNull {op : Comparison} {value : Json}
    (h : ¬ op.TestsNull value) (actual : Json) :
    op.test actual value = op.holds actual value := by
  unfold Comparison.test
  split
  next => exact absurd ⟨.inl rfl, rfl⟩ h
  next => exact absurd ⟨.inr rfl, rfl⟩ h
  next => rfl

theorem Comparison.Asks.holds_eq {op : Comparison} {value : Json} {test : ColumnTest}
    (h : op.Asks value test) (actual : Json) :
    test.holds actual = op.test actual value := by
  cases h with
  | isNull | isNotNull => simp [ColumnTest.holds, Comparison.test]
  | compare hvalue =>
      rw [Comparison.test_of_not_testsNull hvalue]
      rfl

theorem relatedHolds_eq_any_related (store : Store) (relation : Relation) (parent column : String)
    (test : ColumnTest) (row : Row) :
    relatedHolds store.rows (relation.correlation parent) column test row =
      (store.related relation row).any fun related => test.holds (related.column column) := by
  unfold relatedHolds Store.related
  by_cases hnull : (row.column relation.parentKey).isNull
  · simp [Relation.correlation, hnull]
  · simp [Relation.correlation, hnull, List.any_filter]

theorem Condition.Denotes.holds_eq {store : Store} {model : String} {condition : Condition}
    {predicate : Predicate} (h : condition.Denotes (.model store.schema model) predicate)
    (row : Row) :
    predicate.holds store.rows row = condition.holds store model row := by
  cases h with
  | isNull hcolumn hargs =>
      simp [Predicate.holds, Condition.holds, hargs.comparisonArgs?_eq, Comparison.test]
  | isNotNull hcolumn hargs =>
      simp [Predicate.holds, Condition.holds, hargs.comparisonArgs?_eq, Comparison.test]
  | compare hcolumn hargs hvalue =>
      simp [Predicate.holds, Condition.holds, hargs.comparisonArgs?_eq,
        Comparison.test_of_not_testsNull hvalue]
  | null hcolumn => simp [Predicate.holds, Condition.holds]
  | notNull hcolumn => simp [Predicate.holds, Condition.holds]
  | isIn hcolumn => simp [Predicate.holds, Condition.holds]
  | notIn hcolumn => simp [Predicate.holds, Condition.holds]
  | related hscope hrelation hcolumn hargs htest =>
      cases hscope
      simp [Predicate.holds, Condition.holds, hrelation, hargs.comparisonArgs?_eq,
        relatedHolds_eq_any_related, htest.holds_eq]

/-! ## Chains -/

theorem anyRun_joinRuns_and (truth more : Bool) (next : Combinator) (runs : List (List Bool)) :
    anyRun (Combinator.and.joinRuns truth (next.joinRuns more runs)) =
      anyRun (next.joinRuns (truth && more) runs) := by
  cases next with
  | and => cases runs <;> simp [Combinator.joinRuns, anyRun, Bool.and_assoc]
  | or => simp [Combinator.joinRuns, anyRun]

theorem anyRun_joinRuns_or (truth : Bool) (runs : List (List Bool)) :
    anyRun (Combinator.or.joinRuns truth runs) = (truth || anyRun runs) := by
  simp [Combinator.joinRuns, anyRun]

theorem Clause.holdsFrom_and (rows : RowSource) (row : Row) (held : Bool) (predicate : Predicate)
    (rest : Clause) :
    Clause.holdsFrom rows row held ((.and, predicate) :: rest) =
      Clause.holdsFrom rows row (held && predicate.holds rows row) rest := by
  rw [Clause.holdsFrom]

theorem Clause.holdsFrom_or (rows : RowSource) (row : Row) (held : Bool) (predicate : Predicate)
    (rest : Clause) :
    Clause.holdsFrom rows row held ((.or, predicate) :: rest) =
      (held || Clause.holdsFrom rows row (predicate.holds rows row) rest) := by
  rw [Clause.holdsFrom]

theorem FilterChain.anyRun_joinRuns_true (store : Store) (model : String) (row : Row)
    (chain : FilterChain) :
    anyRun (Combinator.and.joinRuns true (chain.runs store model row)) =
      anyRun (chain.runs store model row) := by
  cases chain with
  | one term => simp [FilterChain.runs, Combinator.joinRuns, anyRun]
  | join term next rest => rw [FilterChain.runs, anyRun_joinRuns_and, Bool.true_and]

theorem FilterChain.Denotes.holds_eq_holdsFrom {scope : Scope} {chain : FilterChain}
    {clause : Clause} (h : chain.Denotes scope .and clause) (rows : RowSource) (row : Row) :
    Clause.holds rows row clause = Clause.holdsFrom rows row true clause := by
  cases h with
  | one h => rw [Clause.holds, Clause.holdsFrom_and, Bool.true_and]
  | join h hrest => rw [Clause.holds, Clause.holdsFrom_and, Bool.true_and]

mutual

theorem FilterTerm.Denotes.holds_eq {store : Store} {model : String} (row : Row) :
    ∀ {term : FilterTerm} {predicate : Predicate},
      term.Denotes (.model store.schema model) predicate →
        predicate.holds store.rows row = term.holds store model row
  | .condition condition, _, .condition h => by
      rw [FilterTerm.holds]
      exact h.holds_eq row
  | .group chain, _, .group h => by
      rw [FilterTerm.holds, Predicate.holds, h.holds_eq_holdsFrom,
        FilterChain.Denotes.holdsFrom_eq row h, chain.anyRun_joinRuns_true]

/-- The run that is under way counts as if it were written before the chain. -/
theorem FilterChain.Denotes.holdsFrom_eq {store : Store} {model : String} (row : Row) :
    ∀ {chain : FilterChain} {combinator : Combinator} {clause : Clause},
      chain.Denotes (.model store.schema model) combinator clause → ∀ held : Bool,
        Clause.holdsFrom store.rows row held clause =
          anyRun (combinator.joinRuns held (chain.runs store model row))
  | .one term, .and, _, .one h, held => by
      rw [Clause.holdsFrom_and, FilterTerm.Denotes.holds_eq row h]
      simp [Clause.holdsFrom, FilterChain.runs, Combinator.joinRuns, anyRun]
  | .one term, .or, _, .one h, held => by
      rw [Clause.holdsFrom_or, FilterTerm.Denotes.holds_eq row h]
      simp [Clause.holdsFrom, FilterChain.runs, Combinator.joinRuns, anyRun]
  | .join term next rest, .and, _, .join h hrest, held => by
      rw [Clause.holdsFrom_and, FilterTerm.Denotes.holds_eq row h,
        FilterChain.Denotes.holdsFrom_eq row hrest, FilterChain.runs, anyRun_joinRuns_and]
  | .join term next rest, .or, _, .join h hrest, held => by
      rw [Clause.holdsFrom_or, FilterTerm.Denotes.holds_eq row h,
        FilterChain.Denotes.holdsFrom_eq row hrest, FilterChain.runs, anyRun_joinRuns_or]

end

theorem Filter.Denotes.holds_eq {store : Store} {model : String} {filter : Filter}
    {clause : Clause} (h : filter.Denotes (.model store.schema model) clause) (row : Row) :
    Clause.holds store.rows row clause = filter.holds store model row := by
  cases h with
  | empty => rw [Clause.holds, Filter.holds]
  | @chain terms _ h =>
      rw [Filter.holds, h.holds_eq_holdsFrom, h.holdsFrom_eq row, terms.anyRun_joinRuns_true]

end QueryShape
