import QueryShape.Match.Evaluate
import QueryShape.Proofs.SqlConditions

/-!
# The grammar of where clauses

An expression is read as SQL reads it: parentheses first, then `AND`, then `OR`, and each
of the two from left to right.  The rules carry along the formula that has been read so
far, which is the left operand of the next word.  No text has two readings, since a factor
ends where its text says so and a run ends where no `AND` follows.
-/

namespace QueryShape

/-- A formula over conditions of any kind. -/
inductive SqlFormula (α : Type) where
  | atom (condition : α)
  | and (left right : SqlFormula α)
  | or (left right : SqlFormula α)

namespace SqlFormula

variable {α β : Type}

def map (f : α → β) : SqlFormula α → SqlFormula β
  | .atom condition => .atom (f condition)
  | .and left right => .and (left.map f) (right.map f)
  | .or left right => .or (left.map f) (right.map f)

/-- The conditions from left to right. -/
def leaves : SqlFormula α → List α
  | .atom condition => [condition]
  | .and left right => left.leaves ++ right.leaves
  | .or left right => left.leaves ++ right.leaves

def truth (holds : α → Bool) : SqlFormula α → Bool
  | .atom condition => holds condition
  | .and left right => left.truth holds && right.truth holds
  | .or left right => left.truth holds || right.truth holds

end SqlFormula

mutual

inductive SqlFactor : String → SqlFormula String → Prop
  | condition {text : String} (h : SqlCondition text) : SqlFactor text (.atom text)
  | parenthesized {text : String} {formula : SqlFormula String}
      (h : SqlExpression text formula) :
      SqlFactor ("(" ++ text ++ ")") formula

/-- Goes on with factors after `AND`s, given what is read of the run. -/
inductive SqlRun : SqlFormula String → String → SqlFormula String → Prop
  | done {left : SqlFormula String} : SqlRun left "" left
  | and {left right formula : SqlFormula String} {factor rest : String}
      (hfactor : SqlFactor factor right) (hrest : SqlRun (.and left right) rest formula) :
      SqlRun left (" AND " ++ (factor ++ rest)) formula

/-- Goes on with runs after `OR`s, given what is read of the expression. -/
inductive SqlRuns : SqlFormula String → String → SqlFormula String → Prop
  | done {left : SqlFormula String} : SqlRuns left "" left
  | or {left first right formula : SqlFormula String} {factor run rest : String}
      (hfactor : SqlFactor factor first) (hrun : SqlRun first run right)
      (hrest : SqlRuns (.or left right) rest formula) :
      SqlRuns left (" OR " ++ (factor ++ (run ++ rest))) formula

inductive SqlExpression : String → SqlFormula String → Prop
  | runs {first left formula : SqlFormula String} {factor run rest : String}
      (hfactor : SqlFactor factor first) (hrun : SqlRun first run left)
      (hrest : SqlRuns left rest formula) :
      SqlExpression (factor ++ (run ++ rest)) formula

end

/-! ## Readings are unique -/

def StartsWith (mark text : String) : Prop :=
  ∃ rest, text = mark ++ rest

/-- Neither a run nor an expression goes on. -/
structure EndsExpression (text : String) : Prop where
  notAnd : ¬ StartsWith " AND " text
  notOr : ¬ StartsWith " OR " text

theorem endsExpression_parenthesis (text : String) :
    EndsExpression (")" ++ text) where
  notAnd := by
    intro h
    obtain ⟨rest, heq⟩ := h
    exact absurd (congrArg String.toList heq) (by simp)
  notOr := by
    intro h
    obtain ⟨rest, heq⟩ := h
    exact absurd (congrArg String.toList heq) (by simp)

theorem endsExpression_empty :
    EndsExpression "" where
  notAnd := by
    intro h
    obtain ⟨rest, heq⟩ := h
    exact absurd (congrArg String.toList heq) (by simp)
  notOr := by
    intro h
    obtain ⟨rest, heq⟩ := h
    exact absurd (congrArg String.toList heq) (by simp)

/-- After a run comes an `OR` or what ends the expression. -/
theorem SqlRuns.not_startsWith_and {left formula : SqlFormula String} {text rest : String}
    (h : SqlRuns left text formula) (hrest : EndsExpression rest) :
    ¬ StartsWith " AND " (text ++ rest) := by
  cases h with
  | done =>
      rw [String.empty_append]
      exact hrest.notAnd
  | or _ _ _ =>
      intro h
      obtain ⟨more, heq⟩ := h
      exact absurd (congrArg String.toList heq) (by simp)

mutual

theorem SqlFactor.unique {text : String} {formula : SqlFormula String} :
    SqlFactor text formula →
      ∀ {other rest later : String} {second : SqlFormula String}, SqlFactor other second →
        text ++ rest = other ++ later → text = other ∧ formula = second
  | .condition h, _, rest, later, _, hother, heq => by
      cases hother with
      | condition hcondition =>
          have hsame := prefixFree_sqlCondition h hcondition heq
          exact ⟨hsame, congrArg SqlFormula.atom hsame⟩
      | parenthesized _ =>
          rw [String.append_assoc, String.append_assoc] at heq
          exact absurd heq (h.ne_parenthesis _ _)
  | .parenthesized h, _, rest, later, _, hother, heq => by
      cases hother with
      | condition hcondition =>
          rw [String.append_assoc, String.append_assoc] at heq
          exact absurd heq.symm (hcondition.ne_parenthesis _ _)
      | parenthesized hexpression =>
          simp only [String.append_assoc, String.append_right_inj] at heq
          obtain ⟨rfl, hformula⟩ := h.unique hexpression (endsExpression_parenthesis rest)
            (endsExpression_parenthesis later) heq
          exact ⟨rfl, hformula⟩
termination_by structural h => h

theorem SqlRun.unique {left formula : SqlFormula String} {text : String} :
    SqlRun left text formula →
      ∀ {other rest later : String} {second : SqlFormula String}, SqlRun left other second →
        ¬ StartsWith " AND " rest → ¬ StartsWith " AND " later →
          text ++ rest = other ++ later → text = other ∧ formula = second
  | .done, _, rest, later, _, hother, hrest, hlater, heq => by
      -- A run that is longer would find its `AND` in what follows the shorter one.
      cases hother with
      | done => exact ⟨rfl, rfl⟩
      | and _ _ =>
          rw [String.empty_append, String.append_assoc] at heq
          exact absurd ⟨_, heq⟩ hrest
  | .and hfactor hmore, _, rest, later, _, hother, hrest, hlater, heq => by
      cases hother with
      | done =>
          rw [String.empty_append, String.append_assoc] at heq
          exact absurd ⟨_, heq.symm⟩ hlater
      | and hsecond hothers =>
          simp only [String.append_assoc, String.append_right_inj] at heq
          obtain ⟨rfl, rfl⟩ := hfactor.unique hsecond heq
          rw [String.append_right_inj] at heq
          obtain ⟨rfl, hformula⟩ := hmore.unique hothers hrest hlater heq
          exact ⟨rfl, hformula⟩
termination_by structural h => h

theorem SqlRuns.unique {left formula : SqlFormula String} {text : String} :
    SqlRuns left text formula →
      ∀ {other rest later : String} {second : SqlFormula String}, SqlRuns left other second →
        EndsExpression rest → EndsExpression later →
          text ++ rest = other ++ later → text = other ∧ formula = second
  | .done, _, rest, later, _, hother, hrest, hlater, heq => by
      cases hother with
      | done => exact ⟨rfl, rfl⟩
      | or _ _ _ =>
          rw [String.empty_append, String.append_assoc] at heq
          exact absurd ⟨_, heq⟩ hrest.notOr
  | .or hfactor hrun hmore, _, rest, later, _, hother, hrest, hlater, heq => by
      cases hother with
      | done =>
          rw [String.empty_append, String.append_assoc] at heq
          exact absurd ⟨_, heq.symm⟩ hlater.notOr
      | or hsecond hothers hlast =>
          simp only [String.append_assoc, String.append_right_inj] at heq
          obtain ⟨rfl, rfl⟩ := hfactor.unique hsecond heq
          rw [String.append_right_inj] at heq
          obtain ⟨rfl, rfl⟩ := hrun.unique hothers (hmore.not_startsWith_and hrest)
            (hlast.not_startsWith_and hlater) heq
          rw [String.append_right_inj] at heq
          obtain ⟨rfl, hformula⟩ := hmore.unique hlast hrest hlater heq
          exact ⟨rfl, hformula⟩
termination_by structural h => h

theorem SqlExpression.unique {text : String} {formula : SqlFormula String} :
    SqlExpression text formula →
      ∀ {other rest later : String} {second : SqlFormula String}, SqlExpression other second →
        EndsExpression rest → EndsExpression later →
          text ++ rest = other ++ later → text = other ∧ formula = second
  | .runs hfactor hrun hmore, _, rest, later, _, hother, hrest, hlater, heq => by
      cases hother with
      | runs hsecond hothers hlast =>
          simp only [String.append_assoc] at heq
          obtain ⟨rfl, rfl⟩ := hfactor.unique hsecond heq
          rw [String.append_right_inj] at heq
          obtain ⟨rfl, rfl⟩ := hrun.unique hothers (hmore.not_startsWith_and hrest)
            (hlast.not_startsWith_and hlater) heq
          rw [String.append_right_inj] at heq
          obtain ⟨rfl, hformula⟩ := hmore.unique hlast hrest hlater heq
          exact ⟨rfl, hformula⟩
termination_by structural h => h

end

theorem SqlExpression.formula_unique {text : String} {formula second : SqlFormula String}
    (h : SqlExpression text formula) (hsecond : SqlExpression text second) :
    formula = second :=
  (h.unique hsecond endsExpression_empty endsExpression_empty rfl).2

end QueryShape
