import Mathlib.Data.List.Basic
import QueryShape.Match.Evaluate

/-!
# Membership in lists

In SQL a comparison with null is neither true nor false but unknown, and a value is in a
list when it equals some element.  If it equals none, but some comparison is unknown, so is
the membership; its negation is then unknown too and selects no row.  A test that a row is
in a list follows this rule.  A test that it is not ignores the nulls of the list: it gives
what the rule gives for the list without them.
-/

namespace QueryShape

/-- A truth value of SQL. -/
inductive SqlTruth where
  | yes
  | no
  | unknown
deriving DecidableEq

namespace SqlTruth

def not : SqlTruth → SqlTruth
  | .yes => .no
  | .no => .yes
  | .unknown => .unknown

def or : SqlTruth → SqlTruth → SqlTruth
  | .yes, _ => .yes
  | _, .yes => .yes
  | .no, .no => .no
  | _, _ => .unknown

theorem not_eq_yes_iff {truth : SqlTruth} :
    truth.not = .yes ↔ truth = .no := by
  cases truth <;> decide

theorem or_eq_yes_iff {truth other : SqlTruth} :
    truth.or other = .yes ↔ truth = .yes ∨ other = .yes := by
  cases truth <;> cases other <;> decide

theorem or_eq_no_iff {truth other : SqlTruth} :
    truth.or other = .no ↔ truth = .no ∧ other = .no := by
  cases truth <;> cases other <;> decide

end SqlTruth

def sqlEquals (actual listed : Json) : SqlTruth :=
  if actual.isNull || listed.isNull then .unknown
  else if actual.equals listed then .yes
  else .no

/-- Whether a value equals the first element of a list or the second one and so on. -/
def sqlIsIn (actual : Json) : List Json → SqlTruth
  | [] => .no
  | listed :: rest => (sqlEquals actual listed).or (sqlIsIn actual rest)

/-- A row has a value in a column, and neither it nor an element of a list is null, and it equals
no element. -/
def Row.NotAmong (row : Row) (column : String) (values : List Json) : Prop :=
  ∃ value, row.get? (lastSegment column) = some value ∧ value ≠ .null ∧ .null ∉ values ∧
    ∀ listed ∈ values, value.equals listed = false

/-! ## Comparisons with null -/

namespace Json

theorem isNull_eq_true_iff {value : Json} :
    value.isNull = true ↔ value = .null := by
  cases value <;> simp [isNull]

theorem isNull_eq_false_iff {value : Json} :
    value.isNull = false ↔ value ≠ .null := by
  rw [← Bool.not_eq_true, isNull_eq_true_iff]

theorem ne_null_of_equals {actual listed : Json} (h : actual.equals listed = true) :
    actual ≠ .null ∧ listed ≠ .null := by
  constructor
  · rintro rfl
    rw [null_equals] at h
    cases h
  · rintro rfl
    rw [equals_null] at h
    cases h

end Json

theorem Row.notAmong_iff {row : Row} {column : String} {values : List Json} :
    row.NotAmong column values ↔
      row.column column ≠ .null ∧ .null ∉ values ∧
        ∀ listed ∈ values, (row.column column).equals listed = false := by
  unfold Row.NotAmong Row.column
  cases row.get? (lastSegment column) <;> simp

theorem Row.notAmong_filter_iff {row : Row} {column : String} {values : List Json} :
    row.NotAmong column (values.filter fun listed => !listed.isNull) ↔
      row.column column ≠ .null ∧
        ∀ listed ∈ values, (row.column column).equals listed = false := by
  have hnull : Json.null ∉ values.filter fun listed => !listed.isNull := by
    simp [Json.isNull]
  rw [Row.notAmong_iff]
  simp only [hnull, not_false_eq_true, true_and, List.mem_filter, Bool.not_eq_true']
  refine and_congr_right fun _ => ⟨?_, fun hdiffer listed h => hdiffer listed h.1⟩
  intro hdiffer listed hlisted
  cases hlistedNull : listed.isNull with
  | true =>
      -- The filter leaves out only elements that equal nothing.
      rw [Json.isNull_eq_true_iff.mp hlistedNull]
      exact Json.equals_null _
  | false => exact hdiffer listed ⟨hlisted, hlistedNull⟩

/-! ## The rule of SQL -/

theorem sqlEquals_eq_yes_iff {actual listed : Json} :
    sqlEquals actual listed = .yes ↔ actual.equals listed = true := by
  unfold sqlEquals
  constructor
  · intro h
    split at h
    next => cases h
    next =>
      split at h
      next hequal => exact hequal
      next => cases h
  · intro h
    obtain ⟨hactual, hlisted⟩ := Json.ne_null_of_equals h
    simp [Json.isNull_eq_false_iff.mpr hactual, Json.isNull_eq_false_iff.mpr hlisted, h]

theorem sqlEquals_eq_no_iff {actual listed : Json} :
    sqlEquals actual listed = .no ↔
      actual ≠ .null ∧ listed ≠ .null ∧ actual.equals listed = false := by
  unfold sqlEquals
  rw [← Json.isNull_eq_false_iff, ← Json.isNull_eq_false_iff]
  cases actual.isNull <;> cases listed.isNull <;> simp

theorem sqlIsIn_eq_yes_iff {actual : Json} {values : List Json} :
    sqlIsIn actual values = .yes ↔ ∃ listed ∈ values, actual.equals listed = true := by
  induction values with
  | nil => simp [sqlIsIn]
  | cons listed rest ih =>
      rw [sqlIsIn, SqlTruth.or_eq_yes_iff, sqlEquals_eq_yes_iff, ih, List.exists_mem_cons_iff]

theorem sqlIsIn_eq_no_iff {actual : Json} {values : List Json} :
    sqlIsIn actual values = .no ↔ ∀ listed ∈ values, sqlEquals actual listed = .no := by
  induction values with
  | nil => simp [sqlIsIn]
  | cons listed rest ih =>
      rw [sqlIsIn, SqlTruth.or_eq_no_iff, ih, List.forall_mem_cons]

theorem Row.notAmong_iff_sql {row : Row} {column : String} {values : List Json}
    (hvalues : values ≠ []) :
    row.NotAmong column values ↔ (sqlIsIn (row.column column) values).not = .yes := by
  rw [Row.notAmong_iff, SqlTruth.not_eq_yes_iff, sqlIsIn_eq_no_iff]
  simp only [sqlEquals_eq_no_iff]
  constructor
  · rintro ⟨hactual, hnull, hdiffer⟩ listed hlisted
    exact ⟨hactual, ne_of_mem_of_not_mem hlisted hnull, hdiffer listed hlisted⟩
  · intro h
    obtain ⟨first, hfirst⟩ := List.exists_mem_of_ne_nil values hvalues
    exact ⟨(h first hfirst).1, fun hnull => (h .null hnull).2.1 rfl,
      fun listed hlisted => (h listed hlisted).2.2⟩

/-! ## Tests of lists -/

theorem inList_eq_true_iff {actual : Json} {values : List Json} {negated : Bool}
    (hvalues : values ≠ []) :
    inList actual values negated = true ↔
      actual ≠ .null ∧ values.any actual.equals = !negated := by
  have hempty : values.isEmpty = false := List.isEmpty_eq_false_iff.mpr hvalues
  unfold inList
  rw [← Json.isNull_eq_false_iff]
  cases actual.isNull <;> cases values.any actual.equals <;> cases negated <;> simp [hempty]

/-- A row passes the test of a list exactly if the rule of SQL says that it is in the list. -/
theorem isIn_holds_iff_sql (rows : RowSource) (row : Row) (column : String)
    (values : List Json) :
    (Predicate.isIn column values false).holds rows row = true ↔
      sqlIsIn (row.column column) values = .yes := by
  rw [Predicate.holds, sqlIsIn_eq_yes_iff]
  by_cases hvalues : values = []
  · subst hvalues
    simp [inList]
  · rw [inList_eq_true_iff hvalues, Bool.not_false, List.any_eq_true]
    refine and_iff_right_of_imp ?_
    rintro ⟨listed, _, hequal⟩
    exact (Json.ne_null_of_equals hequal).1

theorem notIn_holds_iff_equals_none {rows : RowSource} {row : Row} {column : String}
    {values : List Json} (hvalues : values ≠ []) :
    (Predicate.isIn column values true).holds rows row = true ↔
      row.column column ≠ .null ∧
        ∀ listed ∈ values, (row.column column).equals listed = false := by
  rw [Predicate.holds, inList_eq_true_iff hvalues]
  simp

/-- The test that a row is not in a list is the rule for the list without its nulls, so it differs
from the rule exactly if it passes and some element is null. -/
theorem notIn_holds_iff {rows : RowSource} {row : Row} {column : String} {values : List Json}
    (hvalues : values ≠ []) :
    ((Predicate.isIn column values true).holds rows row = true ↔
        row.NotAmong column (values.filter fun listed => !listed.isNull)) ∧
      (row.NotAmong column values ↔
        (Predicate.isIn column values true).holds rows row = true ∧ .null ∉ values) ∧
      (row.NotAmong column values ↔ (sqlIsIn (row.column column) values).not = .yes) := by
  refine ⟨?_, ?_, Row.notAmong_iff_sql hvalues⟩
  · rw [notIn_holds_iff_equals_none hvalues, Row.notAmong_filter_iff]
  · rw [notIn_holds_iff_equals_none hvalues, Row.notAmong_iff, and_right_comm, and_assoc]

theorem aged_row_not_in_list :
    let row : Row := [("age", .number (.int 5))]
    let values : List Json := [.text " 6", .bool true]
    values ≠ [] ∧ row.NotAmong "users.age" values ∧
      (Predicate.isIn "users.age" values true).holds (fun _ => []) row = true := by
  intro row values
  have hvalues : values ≠ [] := List.cons_ne_nil _ _
  have hrule := @notIn_holds_iff (fun _ => []) row "users.age" values hvalues
  have hheld : (Predicate.isIn "users.age" values true).holds (fun _ => []) row = true := by
    decide +kernel
  exact ⟨hvalues, hrule.2.1.mpr ⟨hheld, by decide +kernel⟩, hheld⟩

/-- The null beside the number makes the membership unknown, but the row passes. -/
theorem row_not_in_list_with_null :
    let row : Row := [("age", .number (.int 5))]
    let values : List Json := [.null, .number (.int 1)]
    (Predicate.isIn "age" values true).holds (fun _ => []) row = true ∧
      ¬ row.NotAmong "age" values ∧ sqlIsIn (row.column "age") values = .unknown := by
  intro row values
  refine ⟨by decide +kernel, ?_, by decide +kernel⟩
  rintro ⟨_, _, _, hnull, _⟩
  exact hnull List.mem_cons_self

end QueryShape
