import QueryShape.Query.Select

/-!
# The pieces of a query in SQL

The text of a query is made of pieces: fixed words, names, and values.  Which pieces there
are, and in which order, does not depend on how values are written, so every way of writing
them gives the same words and names around the same values.  With a placeholder for every
value, the values of the pieces are the list that goes with the text.
-/

namespace QueryShape

inductive SqlPiece where
  | words (text : String)
  | named (name : String)
  | given (value : Json)
deriving DecidableEq

namespace SqlPiece

def write (value : Json → String) : SqlPiece → String
  | .words text => text
  | .named name => name
  | .given expected => value expected

def value? : SqlPiece → Option Json
  | .given expected => some expected
  | .words _ | .named _ => none

/-- The text of pieces in a row. -/
def writeAll (value : Json → String) (pieces : List SqlPiece) : String :=
  String.join (pieces.map (write value))

/-- The values among pieces from left to right. -/
def values (pieces : List SqlPiece) : List Json :=
  pieces.filterMap value?

@[simp] theorem writeAll_nil (value : Json → String) :
    writeAll value [] = "" := rfl

@[simp] theorem writeAll_cons (value : Json → String) (piece : SqlPiece)
    (rest : List SqlPiece) :
    writeAll value (piece :: rest) = piece.write value ++ writeAll value rest := by
  rw [writeAll, List.map_cons, String.join_cons, writeAll]

@[simp] theorem writeAll_append (value : Json → String) (pieces more : List SqlPiece) :
    writeAll value (pieces ++ more) = writeAll value pieces ++ writeAll value more := by
  rw [writeAll, List.map_append, String.join_append, writeAll, writeAll]

@[simp] theorem values_nil : values [] = [] := rfl

@[simp] theorem values_cons_words (text : String) (rest : List SqlPiece) :
    values (.words text :: rest) = values rest := rfl

@[simp] theorem values_cons_named (name : String) (rest : List SqlPiece) :
    values (.named name :: rest) = values rest := rfl

@[simp] theorem values_cons_given (expected : Json) (rest : List SqlPiece) :
    values (.given expected :: rest) = expected :: values rest := rfl

@[simp] theorem values_append (pieces more : List SqlPiece) :
    values (pieces ++ more) = values pieces ++ values more :=
  List.filterMap_append

/-- Pieces with commas between them. -/
def commaSeparated (pieces : List SqlPiece) : List SqlPiece :=
  pieces.intersperse (.words ", ")

theorem writeAll_commaSeparated (value : Json → String) (pieces : List SqlPiece) :
    writeAll value (commaSeparated pieces) = ", ".intercalate (pieces.map (write value)) := by
  induction pieces with
  | nil => rfl
  | cons piece rest ih =>
      cases rest with
      | nil => simp [commaSeparated]
      | cons next rest =>
          rw [commaSeparated] at ih ⊢
          rw [List.intersperse_cons_cons, writeAll_cons, writeAll_cons, ih]
          simp only [List.map_cons, String.intercalate_cons_cons, String.append_assoc, write]

theorem filterMap_commaSeparated {α : Type} {select : SqlPiece → Option α}
    (h : ∀ text, select (.words text) = none) (pieces : List SqlPiece) :
    (commaSeparated pieces).filterMap select = pieces.filterMap select := by
  induction pieces with
  | nil => rfl
  | cons piece rest ih =>
      cases rest with
      | nil => rfl
      | cons next rest =>
          rw [commaSeparated] at ih ⊢
          rw [List.intersperse_cons_cons]
          cases hpiece : select piece with
          | none =>
              rw [List.filterMap_cons_none hpiece, List.filterMap_cons_none (h _), ih,
                List.filterMap_cons_none hpiece]
          | some found =>
              rw [List.filterMap_cons_some hpiece, List.filterMap_cons_none (h _), ih,
                List.filterMap_cons_some hpiece]

end SqlPiece

/-! ## The pieces of clauses and queries -/

def ColumnTest.pieces : ColumnTest → List SqlPiece
  | .compare op expected => [.words (" " ++ op.sql ++ " "), .given expected]
  | .null negated => [.words (nullTest negated)]

def Correlation.pieces (correlation : Correlation) : List SqlPiece :=
  [.words "SELECT * FROM ", .named correlation.relatedTable, .words " WHERE ",
    .named correlation.relatedTable, .words ".", .named correlation.relatedKey, .words " = ",
    .named correlation.parentTable, .words ".", .named correlation.parentKey]

def listPieces (column : String) (values : List Json) (negated : Bool) : List SqlPiece :=
  if values.isEmpty then
    [.words (if negated then "1 = 1" else "0 = 1")]
  else
    [.named column, .words (if negated then " NOT IN (" else " IN (")] ++
      SqlPiece.commaSeparated (values.map .given) ++ [.words ")"]

mutual

def Predicate.pieces : Predicate → List SqlPiece
  | .compare column op expected =>
    [.named column, .words (" " ++ op.sql ++ " "), .given expected]
  | .null column negated => [.named column, .words (nullTest negated)]
  | .isIn column values negated => listPieces column values negated
  | .related _ correlation column test =>
    [.words "EXISTS ("] ++ correlation.pieces ++ [.words " AND ", .named column] ++ test.pieces ++
      [.words ")"]
  | .group terms => [.words "("] ++ Clause.pieces terms ++ [.words ")"]

def Clause.pieces : List (Combinator × Predicate) → List SqlPiece
  | [] => []
  | (_, predicate) :: rest => predicate.pieces ++ Clause.restPieces rest

def Clause.restPieces : List (Combinator × Predicate) → List SqlPiece
  | [] => []
  | (combinator, predicate) :: rest =>
    [.words (" " ++ combinator.sql ++ " ")] ++ predicate.pieces ++ Clause.restPieces rest

end

/-- The star is no name. -/
def columnPiece (column : String) : SqlPiece :=
  if column = "*" then .words "*" else .named column

namespace SelectQuery

def columnPieces (query : SelectQuery) : List SqlPiece :=
  if query.columns.isEmpty then [.words "*"]
  else SqlPiece.commaSeparated (query.columns.map columnPiece)

def clausePieces (query : SelectQuery) : List SqlPiece :=
  if query.clause.isEmpty then [] else [.words " WHERE "] ++ Clause.pieces query.clause

def pieces (query : SelectQuery) : List SqlPiece :=
  [.words "SELECT "] ++ query.columnPieces ++ [.words " FROM ", .named query.table] ++
    query.clausePieces

end SelectQuery

/-! ## Texts -/

section

variable (value : Json → String)

theorem ColumnTest.write_eq_pieces (test : ColumnTest) :
    test.write value = SqlPiece.writeAll value test.pieces := by
  cases test with
  | compare op expected =>
      simp [ColumnTest.write, ColumnTest.pieces, SqlPiece.write]
  | null negated => simp [ColumnTest.write, ColumnTest.pieces, SqlPiece.write]

theorem Correlation.write_eq_pieces (correlation : Correlation) :
    correlation.write = SqlPiece.writeAll value correlation.pieces := by
  obtain ⟨parentTable, parentKey, relatedTable, relatedKey⟩ := correlation
  unfold Correlation.write Correlation.pieces
  simp only [SqlPiece.writeAll_cons, SqlPiece.writeAll_nil, SqlPiece.write]
  simp only [String.append_assoc, String.append_empty]

theorem writeList_eq_pieces (column : String) (values : List Json) (negated : Bool) :
    writeList value column values negated =
      SqlPiece.writeAll value (listPieces column values negated) := by
  have hvalues : (values.map SqlPiece.given).map (SqlPiece.write value) = values.map value := by
    rw [List.map_map]
    rfl
  unfold writeList listPieces
  split
  next => cases negated <;> simp [SqlPiece.write]
  next =>
    simp only [SqlPiece.writeAll_append, SqlPiece.writeAll_cons, SqlPiece.writeAll_nil,
      SqlPiece.writeAll_commaSeparated, hvalues, SqlPiece.write, String.append_empty]

mutual

theorem Predicate.write_eq_pieces :
    ∀ predicate : Predicate, predicate.write value = SqlPiece.writeAll value predicate.pieces
  | .compare column op expected => by
      simp [Predicate.write, Predicate.pieces, SqlPiece.write, String.append_assoc]
  | .null column negated => by simp [Predicate.write, Predicate.pieces, SqlPiece.write]
  | .isIn column values negated => by
      rw [Predicate.write, Predicate.pieces]
      exact writeList_eq_pieces value column values negated
  | .related _ correlation column test => by
      simp [Predicate.write, Predicate.pieces, SqlPiece.write, String.append_assoc,
        correlation.write_eq_pieces value, test.write_eq_pieces value]
  | .group terms => by
      simp [Predicate.write, Predicate.pieces, SqlPiece.write, String.append_assoc,
        Clause.write_eq_pieces terms]

theorem Clause.write_eq_pieces :
    ∀ clause : List (Combinator × Predicate),
      Clause.write value clause = SqlPiece.writeAll value (Clause.pieces clause)
  | [] => rfl
  | (_, predicate) :: rest => by
      rw [Clause.write, Clause.pieces, SqlPiece.writeAll_append, Predicate.write_eq_pieces,
        Clause.writeRest_eq_pieces]

theorem Clause.writeRest_eq_pieces :
    ∀ clause : List (Combinator × Predicate),
      Clause.writeRest value clause = SqlPiece.writeAll value (Clause.restPieces clause)
  | [] => rfl
  | (combinator, predicate) :: rest => by
      simp [Clause.writeRest, Clause.restPieces, SqlPiece.write, String.append_assoc,
        Predicate.write_eq_pieces predicate, Clause.writeRest_eq_pieces rest]

end

theorem columnPiece_write (column : String) :
    (columnPiece column).write value = column := by
  unfold columnPiece
  split
  next hstar => exact hstar.symm
  next => rfl

theorem SelectQuery.write_eq_pieces (query : SelectQuery) :
    query.write value = SqlPiece.writeAll value query.pieces := by
  have hcolumns :
      (if query.columns.isEmpty then "*" else ", ".intercalate query.columns) =
        SqlPiece.writeAll value query.columnPieces := by
    unfold columnPieces
    split
    next => simp [SqlPiece.write]
    next =>
      have hnames :
          (query.columns.map columnPiece).map (SqlPiece.write value) = query.columns := by
        rw [List.map_map]
        exact List.map_id'' (columnPiece_write value) query.columns
      rw [SqlPiece.writeAll_commaSeparated, hnames]
  have hclause :
      (if query.clause.isEmpty then "" else " WHERE " ++ Clause.write value query.clause) =
        SqlPiece.writeAll value query.clausePieces := by
    unfold clausePieces
    split
    next => rfl
    next => simp [SqlPiece.write, Clause.write_eq_pieces]
  rw [SelectQuery.write, hcolumns, hclause]
  simp [pieces, SqlPiece.write, String.append_assoc]

end

/-! ## Values -/

theorem ColumnTest.values_pieces (test : ColumnTest) :
    SqlPiece.values test.pieces = test.values := by
  cases test <;> rfl

theorem values_listPieces (column : String) (values : List Json) (negated : Bool) :
    SqlPiece.values (listPieces column values negated) = values := by
  have hvalues : SqlPiece.values (SqlPiece.commaSeparated (values.map .given)) = values := by
    rw [SqlPiece.values, SqlPiece.filterMap_commaSeparated (fun _ => rfl), List.filterMap_map]
    exact List.filterMap_some
  unfold listPieces
  split
  next hempty => rw [List.isEmpty_iff.mp hempty]; rfl
  next => simp [hvalues]

mutual

theorem Predicate.values_pieces :
    ∀ predicate : Predicate, SqlPiece.values predicate.pieces = predicate.values
  | .compare _ _ _ | .null _ _ => rfl
  | .isIn column values negated => values_listPieces column values negated
  | .related _ correlation column test => by
      simp [Predicate.pieces, Predicate.values, Correlation.pieces, test.values_pieces]
  | .group terms => by simp [Predicate.pieces, Predicate.values, Clause.values_pieces terms]

theorem Clause.values_pieces :
    ∀ clause : List (Combinator × Predicate),
      SqlPiece.values (Clause.pieces clause) = Clause.values clause
  | [] => rfl
  | (_, predicate) :: rest => by
      rw [Clause.pieces, SqlPiece.values_append, Predicate.values_pieces,
        Clause.values_restPieces, Clause.values]

theorem Clause.values_restPieces :
    ∀ clause : List (Combinator × Predicate),
      SqlPiece.values (Clause.restPieces clause) = Clause.values clause
  | [] => rfl
  | (_, predicate) :: rest => by
      simp [Clause.restPieces, Clause.values, Predicate.values_pieces predicate,
        Clause.values_restPieces rest]

end

theorem SelectQuery.values_columnPieces (query : SelectQuery) :
    SqlPiece.values query.columnPieces = [] := by
  unfold columnPieces
  split
  next => rfl
  next =>
    rw [SqlPiece.values, SqlPiece.filterMap_commaSeparated (fun _ => rfl), List.filterMap_map,
      List.filterMap_eq_nil_iff]
    intro column _
    simp only [Function.comp, columnPiece]
    split <;> rfl

theorem SelectQuery.values_pieces (query : SelectQuery) :
    SqlPiece.values query.pieces = query.values := by
  have hclause : SqlPiece.values query.clausePieces = query.values := by
    unfold clausePieces SelectQuery.values
    split
    next hempty => rw [List.isEmpty_iff.mp hempty]; rfl
    next => simp [Clause.values_pieces]
  simp [pieces, query.values_columnPieces, hclause]

end QueryShape
