import QueryShape.Proofs.SqlGrammar

/-!
# What the text of a clause says

The text of a clause with placeholders has one reading, and this reading has its
conditions where the clause has its predicates.  Under the truth values of the predicates
it is true for exactly the rows that the clause selects, although the clause is worked off
from left to right and knows no precedence.
-/

namespace QueryShape

/-! ## Predicates for conditions -/

namespace SqlFormula

/-- Puts a formula after an `or`, if something stands before it. -/
def joined {α : Type} : Option (SqlFormula α) → SqlFormula α → SqlFormula α
  | none, formula => formula
  | some before, formula => .or before formula

end SqlFormula

mutual

/-- What the text of a predicate says, with predicates for conditions. -/
def Predicate.formula : Predicate → SqlFormula Predicate
  | .group terms => Clause.formula terms
  | predicate => .atom predicate

/-- The empty clause, which is never written, stands as a condition of its own. -/
def Clause.formula : List (Combinator × Predicate) → SqlFormula Predicate
  | [] => .atom (.group [])
  | (_, predicate) :: rest => Clause.formulaFrom none predicate.formula rest

/-- Goes on from the runs that are complete and the run that is under way. -/
def Clause.formulaFrom (before : Option (SqlFormula Predicate)) (run : SqlFormula Predicate) :
    List (Combinator × Predicate) → SqlFormula Predicate
  | [] => SqlFormula.joined before run
  | (.and, predicate) :: rest => Clause.formulaFrom before (.and run predicate.formula) rest
  | (.or, predicate) :: rest =>
    Clause.formulaFrom (some (SqlFormula.joined before run)) predicate.formula rest

end

mutual

/-- The predicates inside all groups from left to right. -/
def Predicate.conditions : Predicate → List Predicate
  | .group terms => Clause.conditions terms
  | predicate => [predicate]

def Clause.conditions : List (Combinator × Predicate) → List Predicate
  | [] => []
  | (_, predicate) :: rest => predicate.conditions ++ Clause.conditions rest

end

/-! ## Truth -/

namespace SqlFormula

theorem truth_joined {α : Type} (holds : α → Bool) (before : Option (SqlFormula α))
    (formula : SqlFormula α) :
    (joined before formula).truth holds = (before.any (·.truth holds) || formula.truth holds) := by
  cases before with
  | none => rfl
  | some before => rfl

theorem leaves_joined {α : Type} (before : Option (SqlFormula α)) (formula : SqlFormula α) :
    (joined before formula).leaves = before.toList.flatMap leaves ++ formula.leaves := by
  cases before with
  | none => rfl
  | some before => simp [joined, leaves]

end SqlFormula

mutual

theorem Predicate.truth_formula (rows : RowSource) (row : Row) :
    ∀ predicate : Predicate,
      predicate.formula.truth (Predicate.holds rows row) = predicate.holds rows row
  | .compare _ _ _ | .null _ _ | .isIn _ _ _ | .related _ _ _ _ => rfl
  | .group terms => by
      rw [Predicate.formula, Predicate.holds]
      exact Clause.truth_formula rows row terms

theorem Clause.truth_formula (rows : RowSource) (row : Row) :
    ∀ clause : List (Combinator × Predicate),
      (Clause.formula clause).truth (Predicate.holds rows row) = Clause.holds rows row clause
  | [] => rfl
  | (_, predicate) :: rest => by
      rw [Clause.formula, Clause.holds, Clause.truth_formulaFrom rows row rest,
        Predicate.truth_formula rows row predicate]
      exact Bool.false_or _

/-- A complete run that holds decides, and the run under way counts as far as it goes. -/
theorem Clause.truth_formulaFrom (rows : RowSource) (row : Row) :
    ∀ (rest : List (Combinator × Predicate)) {before : Option (SqlFormula Predicate)}
      {run : SqlFormula Predicate},
      (Clause.formulaFrom before run rest).truth (Predicate.holds rows row) =
        (before.any (·.truth (Predicate.holds rows row)) ||
          Clause.holdsFrom rows row (run.truth (Predicate.holds rows row)) rest)
  | [], before, run => by
      rw [Clause.formulaFrom, Clause.holdsFrom]
      exact SqlFormula.truth_joined _ before run
  | (.and, predicate) :: rest, before, run => by
      rw [Clause.formulaFrom, Clause.holdsFrom, Clause.truth_formulaFrom rows row rest,
        SqlFormula.truth, Predicate.truth_formula rows row predicate]
  | (.or, predicate) :: rest, before, run => by
      rw [Clause.formulaFrom, Clause.holdsFrom, Clause.truth_formulaFrom rows row rest,
        Predicate.truth_formula rows row predicate, Option.any_some, SqlFormula.truth_joined,
        Bool.or_assoc]

end

mutual

theorem Predicate.leaves_formula {scope : Scope} :
    ∀ predicate : Predicate, predicate.WellFormed scope →
      predicate.formula.leaves = predicate.conditions
  | .compare _ _ _, _ | .null _ _, _ | .isIn _ _ _, _ | .related _ _ _ _, _ => rfl
  | .group terms, h => by
      rw [Predicate.WellFormed] at h
      rw [Predicate.formula, Predicate.conditions]
      exact Clause.leaves_formula terms h.1 h.2

theorem Clause.leaves_formula {scope : Scope} :
    ∀ clause : List (Combinator × Predicate), clause ≠ [] → Clause.WellFormed scope clause →
      (Clause.formula clause).leaves = Clause.conditions clause
  | [], hne, _ => absurd rfl hne
  | (_, predicate) :: rest, _, h => by
      rw [Clause.WellFormed] at h
      rw [Clause.formula, Clause.conditions, Clause.leaves_formulaFrom rest h.2,
        Predicate.leaves_formula predicate h.1]
      rfl

theorem Clause.leaves_formulaFrom {scope : Scope} :
    ∀ (rest : List (Combinator × Predicate)), Clause.WellFormed scope rest →
      ∀ {before : Option (SqlFormula Predicate)} {run : SqlFormula Predicate},
        (Clause.formulaFrom before run rest).leaves =
          before.toList.flatMap SqlFormula.leaves ++ run.leaves ++ Clause.conditions rest
  | [], _, before, run => by
      rw [Clause.formulaFrom, Clause.conditions, List.append_nil]
      exact SqlFormula.leaves_joined before run
  | (.and, predicate) :: rest, h, before, run => by
      rw [Clause.WellFormed] at h
      rw [Clause.formulaFrom, Clause.conditions, Clause.leaves_formulaFrom rest h.2,
        SqlFormula.leaves, Predicate.leaves_formula predicate h.1]
      simp only [List.append_assoc]
  | (.or, predicate) :: rest, h, before, run => by
      rw [Clause.WellFormed] at h
      rw [Clause.formulaFrom, Clause.conditions, Clause.leaves_formulaFrom rest h.2,
        Predicate.leaves_formula predicate h.1, Option.toList_some, List.flatMap_singleton,
        SqlFormula.leaves_joined]
      simp only [List.append_assoc]

end

/-! ## Readings -/

/-- The reading of a formula over predicates. -/
abbrev SqlFormula.written (formula : SqlFormula Predicate) : SqlFormula String :=
  formula.map (Predicate.write placeholder)

theorem SqlFormula.written_joined (before : Option (SqlFormula Predicate))
    (formula : SqlFormula Predicate) :
    (joined before formula).written = joined (before.map written) formula.written := by
  cases before with
  | none => rfl
  | some before => rfl

theorem Clause.writeRest_and (value : Json → String) (predicate : Predicate) (rest : Clause) :
    Clause.writeRest value ((.and, predicate) :: rest) =
      " AND " ++ (predicate.write value ++ Clause.writeRest value rest) := by
  have hword : " " ++ Combinator.and.sql ++ " " = " AND " := by decide
  rw [Clause.writeRest, hword, String.append_assoc]

theorem Clause.writeRest_or (value : Json → String) (predicate : Predicate) (rest : Clause) :
    Clause.writeRest value ((.or, predicate) :: rest) =
      " OR " ++ (predicate.write value ++ Clause.writeRest value rest) := by
  have hword : " " ++ Combinator.or.sql ++ " " = " OR " := by decide
  rw [Clause.writeRest, hword, String.append_assoc]

mutual

theorem Predicate.WellFormed.sqlFactor {scope : Scope} (hscope : scope.NamesIdentifiers) :
    ∀ predicate : Predicate, predicate.WellFormed scope →
      SqlFactor (predicate.write placeholder) predicate.formula.written
  | .compare _ _ _, h => .condition (h.sqlCondition hscope rfl)
  | .null _ _, h => .condition (h.sqlCondition hscope rfl)
  | .isIn _ _ _, h => .condition (h.sqlCondition hscope rfl)
  | .related _ _ _ _, h => .condition (h.sqlCondition hscope rfl)
  | .group terms, h => by
      rw [Predicate.WellFormed] at h
      rw [Predicate.formula, Predicate.write]
      exact .parenthesized (Clause.WellFormed.sqlExpression hscope terms h.1 h.2)

theorem Clause.WellFormed.sqlExpression {scope : Scope} (hscope : scope.NamesIdentifiers) :
    ∀ clause : List (Combinator × Predicate), clause ≠ [] → Clause.WellFormed scope clause →
      SqlExpression (Clause.write placeholder clause) (Clause.formula clause).written
  | [], hne, _ => absurd rfl hne
  | (_, predicate) :: rest, _, h => by
      rw [Clause.WellFormed] at h
      obtain ⟨run, others, left, htext, hrun, hothers⟩ :=
        Clause.WellFormed.sqlRest hscope rest h.2 none predicate.formula
      rw [Clause.write, Clause.formula, htext]
      exact .runs (Predicate.WellFormed.sqlFactor hscope predicate h.1) hrun hothers

/-- The rest of a clause is the rest of the run that is under way and then other runs. -/
theorem Clause.WellFormed.sqlRest {scope : Scope} (hscope : scope.NamesIdentifiers) :
    ∀ rest : List (Combinator × Predicate), Clause.WellFormed scope rest →
      ∀ (before : Option (SqlFormula Predicate)) (under : SqlFormula Predicate),
        ∃ run others left, Clause.writeRest placeholder rest = run ++ others ∧
          SqlRun under.written run left ∧
            SqlRuns (SqlFormula.joined (before.map SqlFormula.written) left) others
              (Clause.formulaFrom before under rest).written
  | [], _, before, under => by
      refine ⟨"", "", under.written, rfl, .done, ?_⟩
      rw [Clause.formulaFrom, SqlFormula.written_joined]
      exact .done
  | (.and, predicate) :: rest, h, before, under => by
      rw [Clause.WellFormed] at h
      obtain ⟨run, others, left, htext, hrun, hothers⟩ :=
        Clause.WellFormed.sqlRest hscope rest h.2 before (.and under predicate.formula)
      refine ⟨" AND " ++ (predicate.write placeholder ++ run), others, left, ?_, ?_, hothers⟩
      · rw [Clause.writeRest_and, htext]
        simp only [String.append_assoc]
      · exact .and (Predicate.WellFormed.sqlFactor hscope predicate h.1) hrun
  | (.or, predicate) :: rest, h, before, under => by
      rw [Clause.WellFormed] at h
      obtain ⟨run, others, left, htext, hrun, hothers⟩ :=
        Clause.WellFormed.sqlRest hscope rest h.2 (some (SqlFormula.joined before under))
          predicate.formula
      rw [Option.map_some, SqlFormula.written_joined] at hothers
      refine ⟨"", " OR " ++ (predicate.write placeholder ++ (run ++ others)), under.written, ?_,
        .done, ?_⟩
      · rw [Clause.writeRest_or, htext, String.empty_append]
      · exact .or (Predicate.WellFormed.sqlFactor hscope predicate h.1) hrun hothers

end

example :
    Clause.formula [(.or, .null "a" false), (.or, .null "b" false), (.and, .null "c" false)] =
      .or (.atom (.null "a" false)) (.and (.atom (.null "b" false)) (.atom (.null "c" false))) :=
  rfl

/-! ## Comparisons of two digits -/

mutual

theorem Predicate.WellFormed.of_mem_conditions {scope : Scope} {condition : Predicate} :
    ∀ predicate : Predicate, predicate.WellFormed scope → condition ∈ predicate.conditions →
      condition.WellFormed scope ∧ condition.isGroup = false
  | .compare _ _ _, h, hmem | .null _ _, h, hmem | .isIn _ _ _, h, hmem
  | .related _ _ _ _, h, hmem => by
      rw [List.mem_singleton.mp hmem]
      exact ⟨h, rfl⟩
  | .group terms, h, hmem => by
      rw [Predicate.WellFormed] at h
      rw [Predicate.conditions] at hmem
      exact Clause.WellFormed.of_mem_conditions terms h.2 hmem

theorem Clause.WellFormed.of_mem_conditions {scope : Scope} {condition : Predicate} :
    ∀ clause : List (Combinator × Predicate), Clause.WellFormed scope clause →
      condition ∈ Clause.conditions clause →
        condition.WellFormed scope ∧ condition.isGroup = false
  | [], _, hmem => nomatch hmem
  | (_, predicate) :: rest, h, hmem => by
      rw [Clause.WellFormed] at h
      rw [Clause.conditions, List.mem_append] at hmem
      rcases hmem with hmem | hmem
      · exact Predicate.WellFormed.of_mem_conditions predicate h.1 hmem
      · exact Clause.WellFormed.of_mem_conditions rest h.2 hmem

end

/-- The text of membership in the empty list. -/
def emptyListText (negated : Bool) : String :=
  if negated then "1 = 1" else "0 = 1"

theorem emptyListText_inj {negated other : Bool} :
    emptyListText negated = emptyListText other ↔ negated = other := by
  cases negated <;> cases other <;> decide

theorem isIdentifier_append_ne {column : String} (h : isIdentifier column) (rest : String)
    (negated : Bool) :
    column ++ rest ≠ emptyListText negated := by
  intro heq
  obtain ⟨c, cs, hcs, hc⟩ := exists_isNameStart_of_isIdentifier h
  have htexts := congrArg String.toList heq
  rw [String.toList_append, hcs] at htexts
  cases negated with
  | false =>
      have hdigit : c = '0' := (List.cons.inj htexts).1
      rw [hdigit] at hc
      exact absurd hc (by decide)
  | true =>
      have hdigit : c = '1' := (List.cons.inj htexts).1
      rw [hdigit] at hc
      exact absurd hc (by decide)

/-- No other condition is written as a comparison of two digits. -/
theorem Predicate.WellFormed.eq_isIn_of_emptyList {scope : Scope} {predicate : Predicate}
    (h : predicate.WellFormed scope) (negated : Bool) (hgroup : predicate.isGroup = false)
    (hwrite : predicate.write placeholder = emptyListText negated) :
    ∃ column, predicate = .isIn column [] negated := by
  cases predicate with
  | compare column op expected =>
      simp only [Predicate.write, String.append_assoc] at hwrite
      exact absurd hwrite (isIdentifier_append_ne h _ negated)
  | null column isNegated =>
      rw [Predicate.write] at hwrite
      exact absurd hwrite (isIdentifier_append_ne h _ negated)
  | isIn column values isNegated =>
      rw [Predicate.write] at hwrite
      cases values with
      | nil =>
          have hnegated : emptyListText isNegated = emptyListText negated := hwrite
          rw [emptyListText_inj.mp hnegated]
          exact ⟨column, rfl⟩
      | cons first rest =>
          rw [writeList, if_neg (by simp), String.append_assoc, String.append_assoc] at hwrite
          exact absurd hwrite (isIdentifier_append_ne h _ negated)
  | related name correlation column test =>
      have hword : isIdentifier "EXISTS" := by decide
      have hsplit : "EXISTS (" = "EXISTS" ++ " (" := by decide
      rw [Predicate.write, hsplit] at hwrite
      simp only [String.append_assoc] at hwrite
      exact absurd hwrite (isIdentifier_append_ne hword _ negated)
  | group terms => cases hgroup

/-! ## First combinators -/

mutual

/-- The same predicate with `and` before the first term of every level. -/
def Predicate.unled : Predicate → Predicate
  | .group terms => .group (Clause.unled terms)
  | predicate => predicate

def Clause.unled : List (Combinator × Predicate) → List (Combinator × Predicate)
  | [] => []
  | (_, predicate) :: rest => (.and, predicate.unled) :: Clause.unledRest rest

def Clause.unledRest : List (Combinator × Predicate) → List (Combinator × Predicate)
  | [] => []
  | (combinator, predicate) :: rest => (combinator, predicate.unled) :: Clause.unledRest rest

end

mutual

theorem Predicate.write_unled (value : Json → String) :
    ∀ predicate : Predicate, predicate.unled.write value = predicate.write value
  | .compare _ _ _ | .null _ _ | .isIn _ _ _ | .related _ _ _ _ => rfl
  | .group terms => by
      rw [Predicate.unled, Predicate.write, Predicate.write, Clause.write_unled value terms]

theorem Clause.write_unled (value : Json → String) :
    ∀ clause : List (Combinator × Predicate),
      Clause.write value (Clause.unled clause) = Clause.write value clause
  | [] => rfl
  | (_, predicate) :: rest => by
      rw [Clause.unled, Clause.write, Clause.write, Predicate.write_unled value predicate,
        Clause.writeRest_unled value rest]

theorem Clause.writeRest_unled (value : Json → String) :
    ∀ rest : List (Combinator × Predicate),
      Clause.writeRest value (Clause.unledRest rest) = Clause.writeRest value rest
  | [] => rfl
  | (_, predicate) :: rest => by
      rw [Clause.unledRest, Clause.writeRest, Clause.writeRest,
        Predicate.write_unled value predicate, Clause.writeRest_unled value rest]

end

mutual

theorem Predicate.holds_unled (rows : RowSource) (row : Row) :
    ∀ predicate : Predicate, predicate.unled.holds rows row = predicate.holds rows row
  | .compare _ _ _ | .null _ _ | .isIn _ _ _ | .related _ _ _ _ => rfl
  | .group terms => by
      rw [Predicate.unled, Predicate.holds, Predicate.holds, Clause.holds_unled rows row terms]

theorem Clause.holds_unled (rows : RowSource) (row : Row) :
    ∀ clause : List (Combinator × Predicate),
      Clause.holds rows row (Clause.unled clause) = Clause.holds rows row clause
  | [] => rfl
  | (_, predicate) :: rest => by
      rw [Clause.unled, Clause.holds, Clause.holds, Predicate.holds_unled rows row predicate,
        Clause.holdsFrom_unledRest rows row rest]

theorem Clause.holdsFrom_unledRest (rows : RowSource) (row : Row) :
    ∀ (rest : List (Combinator × Predicate)) {held : Bool},
      Clause.holdsFrom rows row held (Clause.unledRest rest) =
        Clause.holdsFrom rows row held rest
  | [], _ => rfl
  | (.and, predicate) :: rest, held => by
      rw [Clause.unledRest, Clause.holdsFrom, Clause.holdsFrom,
        Predicate.holds_unled rows row predicate, Clause.holdsFrom_unledRest rows row rest]
  | (.or, predicate) :: rest, held => by
      rw [Clause.unledRest, Clause.holdsFrom, Clause.holdsFrom,
        Predicate.holds_unled rows row predicate, Clause.holdsFrom_unledRest rows row rest]

end

end QueryShape
