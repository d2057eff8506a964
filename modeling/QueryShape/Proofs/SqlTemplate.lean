import QueryShape.Proofs.SqlPieces

/-!
# Queries as templates

What stands around the values of a query in SQL is a template: a text before the first value
and one after each of them.  The text with placeholders is the template with a question mark
for every value, the text with literals is the same template with the literals, and the list
of values has them in the order in which the template takes them.

The template knows where a value stands but not which.  So queries that differ in their
values only, with lists of the same lengths, have one template and one text with
placeholders.
-/

namespace QueryShape

structure SqlTemplate where
  first : String
  others : List String
deriving DecidableEq

namespace SqlTemplate

/-- Puts one text before each of the others. -/
def fill (template : SqlTemplate) (texts : List String) : String :=
  template.first ++ String.join (List.zipWith (· ++ ·) texts template.others)

def prepend (text : String) (template : SqlTemplate) : SqlTemplate :=
  { template with first := text ++ template.first }

def ofPieces : List SqlPiece → SqlTemplate
  | [] => ⟨"", []⟩
  | .words text :: rest => (ofPieces rest).prepend text
  | .named name :: rest => (ofPieces rest).prepend name
  | .given _ :: rest => ⟨"", (ofPieces rest).first :: (ofPieces rest).others⟩

theorem fill_prepend (text : String) (template : SqlTemplate) (texts : List String) :
    (template.prepend text).fill texts = text ++ template.fill texts := by
  rw [fill, fill, prepend, String.append_assoc]

theorem fill_ofPieces (value : Json → String) (pieces : List SqlPiece) :
    (ofPieces pieces).fill ((SqlPiece.values pieces).map value) =
      SqlPiece.writeAll value pieces := by
  induction pieces with
  | nil => rfl
  | cons piece rest ih =>
      cases piece with
      | words text =>
          rw [ofPieces, SqlPiece.values_cons_words, fill_prepend, ih, SqlPiece.writeAll_cons]
          rfl
      | named name =>
          rw [ofPieces, SqlPiece.values_cons_named, fill_prepend, ih, SqlPiece.writeAll_cons]
          rfl
      | given expected =>
          rw [SqlPiece.writeAll_cons, ← ih, ofPieces, SqlPiece.values_cons_given, List.map_cons,
            fill, fill, List.zipWith_cons_cons, String.join_cons, String.empty_append,
            String.append_assoc]
          rfl

theorem length_others_ofPieces (pieces : List SqlPiece) :
    (ofPieces pieces).others.length = (SqlPiece.values pieces).length := by
  induction pieces with
  | nil => rfl
  | cons piece rest ih =>
      cases piece with
      | words text => exact ih
      | named name => exact ih
      | given expected => simpa [ofPieces] using ih

end SqlTemplate

/-! ## Queries without their values -/

def SqlPiece.unfilled : SqlPiece → SqlPiece
  | .given _ => .given .null
  | piece => piece

theorem SqlTemplate.ofPieces_unfilled (pieces : List SqlPiece) :
    ofPieces (pieces.map SqlPiece.unfilled) = ofPieces pieces := by
  induction pieces with
  | nil => rfl
  | cons piece rest ih => cases piece <;> simp [ofPieces, SqlPiece.unfilled, ih]

theorem SqlPiece.map_unfilled_commaSeparated (pieces : List SqlPiece) :
    (commaSeparated pieces).map unfilled = commaSeparated (pieces.map unfilled) := by
  induction pieces with
  | nil => rfl
  | cons piece rest ih =>
      cases rest with
      | nil => rfl
      | cons next rest =>
          rw [commaSeparated, List.map_cons] at ih ⊢
          rw [List.intersperse_cons_cons, List.map_cons, List.map_cons, ih]
          rfl

def ColumnTest.unfilled : ColumnTest → ColumnTest
  | .compare op _ => .compare op .null
  | .null negated => .null negated

mutual

def Predicate.unfilled : Predicate → Predicate
  | .compare column op _ => .compare column op .null
  | .null column negated => .null column negated
  | .isIn column values negated => .isIn column (values.map fun _ => .null) negated
  | .related name correlation column test => .related name correlation column test.unfilled
  | .group terms => .group (Clause.unfilled terms)

/-- The clause with null for every value. -/
def Clause.unfilled : List (Combinator × Predicate) → List (Combinator × Predicate)
  | [] => []
  | (combinator, predicate) :: rest => (combinator, predicate.unfilled) :: Clause.unfilled rest

end

/-- The query with null for every value; its table, columns and forms of predicates stay. -/
def SelectQuery.unfilled (query : SelectQuery) : SelectQuery :=
  { query with clause := Clause.unfilled query.clause }

theorem listPieces_unfilled (column : String) (values : List Json) (negated : Bool) :
    listPieces column (values.map fun _ => .null) negated =
      (listPieces column values negated).map SqlPiece.unfilled := by
  have hempty : (values.map fun _ => Json.null).isEmpty = values.isEmpty := List.isEmpty_map
  have hgiven :
      (values.map SqlPiece.given).map SqlPiece.unfilled =
        (values.map fun _ => Json.null).map SqlPiece.given := by
    rw [List.map_map, List.map_map]
    rfl
  unfold listPieces
  rw [hempty]
  split
  next => rfl
  next =>
    simp only [List.map_append, SqlPiece.map_unfilled_commaSeparated, hgiven]
    rfl

mutual

theorem Predicate.pieces_unfilled :
    ∀ predicate : Predicate, predicate.unfilled.pieces = predicate.pieces.map SqlPiece.unfilled
  | .compare _ _ _ | .null _ _ => rfl
  | .isIn column values negated => listPieces_unfilled column values negated
  | .related _ correlation column test => by
      have htest : test.unfilled.pieces = test.pieces.map SqlPiece.unfilled := by
        cases test <;> rfl
      simp only [Predicate.unfilled, Predicate.pieces, List.map_append, htest]
      rfl
  | .group terms => by
      simp only [Predicate.unfilled, Predicate.pieces, List.map_append,
        Clause.pieces_unfilled terms]
      rfl

theorem Clause.pieces_unfilled :
    ∀ clause : List (Combinator × Predicate),
      Clause.pieces (Clause.unfilled clause) = (Clause.pieces clause).map SqlPiece.unfilled
  | [] => rfl
  | (_, predicate) :: rest => by
      rw [Clause.unfilled, Clause.pieces, Clause.pieces, List.map_append,
        Predicate.pieces_unfilled predicate, Clause.restPieces_unfilled rest]

theorem Clause.restPieces_unfilled :
    ∀ clause : List (Combinator × Predicate),
      Clause.restPieces (Clause.unfilled clause) =
        (Clause.restPieces clause).map SqlPiece.unfilled
  | [] => rfl
  | (_, predicate) :: rest => by
      simp only [Clause.unfilled, Clause.restPieces, List.map_append,
        Predicate.pieces_unfilled predicate, Clause.restPieces_unfilled rest]
      rfl

end

namespace SelectQuery

theorem columnPieces_unfilled (query : SelectQuery) :
    query.columnPieces.map SqlPiece.unfilled = query.columnPieces := by
  unfold columnPieces
  split
  next => rfl
  next =>
    rw [SqlPiece.map_unfilled_commaSeparated, List.map_map]
    congr 1
    refine List.map_congr_left fun column _ => ?_
    simp only [Function.comp, columnPiece]
    split <;> rfl

theorem pieces_unfilled (query : SelectQuery) :
    query.unfilled.pieces = query.pieces.map SqlPiece.unfilled := by
  have hclause : query.unfilled.clausePieces = query.clausePieces.map SqlPiece.unfilled := by
    obtain ⟨table, columns, clause⟩ := query
    cases clause with
    | nil => rfl
    | cons term rest =>
        simp only [clausePieces, unfilled, Clause.pieces_unfilled]
        rfl
  simp only [pieces, List.map_append, query.columnPieces_unfilled, hclause]
  rfl

/-- What stands around the values of a query. -/
def template (query : SelectQuery) : SqlTemplate :=
  .ofPieces query.pieces

theorem write_eq_fill (value : Json → String) (query : SelectQuery) :
    query.write value = query.template.fill (query.values.map value) := by
  rw [template, ← query.values_pieces, SqlTemplate.fill_ofPieces, write_eq_pieces]

theorem length_others_template (query : SelectQuery) :
    query.template.others.length = query.values.length := by
  rw [template, SqlTemplate.length_others_ofPieces, values_pieces]

theorem template_unfilled (query : SelectQuery) :
    query.unfilled.template = query.template := by
  rw [template, pieces_unfilled, SqlTemplate.ofPieces_unfilled, template]

theorem template_eq_of_unfilled_eq {query other : SelectQuery}
    (h : other.unfilled = query.unfilled) :
    other.template = query.template := by
  rw [← other.template_unfilled, h, query.template_unfilled]

/-- With placeholders only the number of the values shows. -/
theorem sql_eq_of_template_eq {query other : SelectQuery} (h : other.template = query.template) :
    other.sql = query.sql := by
  have hlength : other.values.length = query.values.length := by
    rw [← other.length_others_template, h, query.length_others_template]
  have hplaceholders : other.values.map placeholder = query.values.map placeholder := by
    have hmarks (values : List Json) :
        values.map placeholder = List.replicate values.length "?" :=
      List.map_const'
    rw [hmarks, hmarks, hlength]
  rw [sql, sql, write_eq_fill, write_eq_fill, h, hplaceholders]

end SelectQuery

/-- The three views of one template, which other values leave as it is. -/
theorem sql_fills_template (query : SelectQuery) :
    ∃ template : SqlTemplate,
      template.others.length = query.values.length ∧
        query.sql = template.fill (query.values.map fun _ => "?") ∧
          query.inline = template.fill (query.values.map sqlLiteral) ∧
            ∀ other : SelectQuery, other.unfilled = query.unfilled →
              other.values.length = query.values.length ∧ other.sql = query.sql ∧
                other.inline = template.fill (other.values.map sqlLiteral) := by
  refine ⟨query.template, query.length_others_template, query.write_eq_fill placeholder,
    query.write_eq_fill sqlLiteral, ?_⟩
  intro other hother
  have htemplate : other.template = query.template :=
    SelectQuery.template_eq_of_unfilled_eq hother
  refine ⟨?_, SelectQuery.sql_eq_of_template_eq htemplate, ?_⟩
  · rw [← other.length_others_template, htemplate, query.length_others_template]
  · rw [← htemplate]
    exact other.write_eq_fill sqlLiteral

/-- Books by their title, their id and the name of their author. -/
def booksQuery (title first second name : Json) : SelectQuery where
  table := "books"
  columns := ["id", "title"]
  clause :=
    [(.and, .compare "title" .like title),
      (.or, .group
        [(.and, .isIn "id" [first, second] true),
          (.or, .related "author" ⟨"books", "author_id", "authors", "id"⟩ "name"
            (.compare .ne name))])]

/-- Marks, quotes and structures among the values do not change what stands around them. -/
theorem books_queries_share_template :
    let query : SelectQuery := booksQuery (.text "?%") (.number (.int 1)) .null (.bool true)
    let other : SelectQuery :=
      booksQuery (.text "it's") (.text "") (.array [.number (.int 1)]) (.text "?")
    let template : SqlTemplate :=
      { first := "SELECT id, title FROM books WHERE title LIKE "
        others :=
          [" OR (id NOT IN (", ", ",
            ") OR EXISTS (SELECT * FROM authors WHERE authors.id = books.author_id AND name != ",
            "))"] }
    other.unfilled = query.unfilled ∧ other.values ≠ query.values ∧
      other.values.length = query.values.length ∧ other.sql = query.sql ∧
      query.sql = template.fill ["?", "?", "?", "?"] ∧
      query.inline = template.fill ["'?%'", "1", "NULL", "TRUE"] ∧
      other.inline = template.fill ["'it''s'", "''", "'[1]'", "'?'"] := by
  intro query other template
  have hunfilled : other.unfilled = query.unfilled := rfl
  have hvalues : other.values ≠ query.values := by decide +kernel
  obtain ⟨_, _, _, _, hothers⟩ := sql_fills_template query
  obtain ⟨hlength, hsql, _⟩ := hothers other hunfilled
  refine ⟨hunfilled, hvalues, hlength, hsql, ?_, ?_, ?_⟩
  all_goals decide +kernel

end QueryShape
