import QueryShape.Proofs.BuiltQueries
import QueryShape.Proofs.ClauseTruth
import QueryShape.Proofs.SqlPieces

/-!
# Names in SQL

Every name that a request brings is checked before it becomes part of a query, and so is the
name of the table.  The names that a test for a related row takes from the schema are not
checked.  So the names in the text of a built query are identifiers if and only if those of
the correlations in its clause are.  In this case a question mark stands for a value and for
nothing else.  A schema that names its relations with identifiers leaves no other case.
-/

namespace QueryShape

mutual

def Predicate.correlations : Predicate → List Correlation
  | .compare _ _ _ | .null _ _ | .isIn _ _ _ => []
  | .related _ correlation _ _ => [correlation]
  | .group terms => Clause.correlations terms

/-- The correlations of the tests for related rows, at every depth. -/
def Clause.correlations : List (Combinator × Predicate) → List Correlation
  | [] => []
  | (_, predicate) :: rest => predicate.correlations ++ Clause.correlations rest

end

structure Correlation.NamesIdentifiers (correlation : Correlation) : Prop where
  relatedTable : isIdentifier correlation.relatedTable
  relatedKey : isIdentifier correlation.relatedKey
  parentTable : isIdentifier correlation.parentTable
  parentKey : isIdentifier correlation.parentKey

/-- A name is an identifier, and words hold no question mark. -/
def SqlPiece.Sound : SqlPiece → Prop
  | .words text => '?' ∉ text.toList
  | .named name => isIdentifier name
  | .given _ => True

namespace SqlPiece

/-! ## Question marks -/

theorem not_mem_of_isIdentifier {c : Char} (hc : isWordChar c = false) {name : String}
    (h : isIdentifier name) :
    c ∉ name.toList := by
  intro hmem
  have hword : isWordChar c = true := isWordChar_of_isIdentifier h c hmem
  rw [hc] at hword
  cases hword

theorem Sound.count_write {piece : SqlPiece} (h : piece.Sound) :
    (piece.write placeholder).toList.count '?' = piece.value?.toList.length := by
  cases piece with
  | words text => exact List.count_eq_zero_of_not_mem h
  | named name => exact List.count_eq_zero_of_not_mem (not_mem_of_isIdentifier (by decide) h)
  | given expected =>
      have hmark : "?".toList.count '?' = 1 := by decide
      exact hmark

theorem count_writeAll {pieces : List SqlPiece} (h : ∀ piece ∈ pieces, piece.Sound) :
    (writeAll placeholder pieces).toList.count '?' = (values pieces).length := by
  induction pieces with
  | nil => rfl
  | cons piece rest ih =>
      obtain ⟨hpiece, hrest⟩ := List.forall_mem_cons.mp h
      rw [writeAll_cons, String.toList_append, List.count_append, hpiece.count_write, ih hrest]
      cases piece with
      | words text => simp [value?]
      | named name => simp [value?]
      | given expected => simp [value?, Nat.add_comm]

/-! ## Sound pieces -/

theorem forall_mem_commaSeparated {property : SqlPiece → Prop} (hcomma : property (.words ", "))
    {pieces : List SqlPiece} (h : ∀ piece ∈ pieces, property piece) :
    ∀ piece ∈ commaSeparated pieces, property piece := by
  induction pieces with
  | nil => exact List.forall_mem_nil _
  | cons first rest ih =>
      obtain ⟨hfirst, hrest⟩ := List.forall_mem_cons.mp h
      cases rest with
      | nil => exact List.forall_mem_singleton.mpr hfirst
      | cons next rest =>
          rw [commaSeparated, List.intersperse_cons_cons]
          exact List.forall_mem_cons.mpr
            ⟨hfirst, List.forall_mem_cons.mpr ⟨hcomma, ih hrest⟩⟩

end SqlPiece

theorem sound_operator (op : Comparison) :
    (SqlPiece.words (" " ++ op.sql ++ " ")).Sound := by
  cases op <;> simp [SqlPiece.Sound, Comparison.sql]

theorem sound_combinator (combinator : Combinator) :
    (SqlPiece.words (" " ++ combinator.sql ++ " ")).Sound := by
  cases combinator <;> simp [SqlPiece.Sound, Combinator.sql]

theorem sound_nullTest (negated : Bool) :
    (SqlPiece.words (nullTest negated)).Sound := by
  cases negated <;> simp [SqlPiece.Sound, nullTest]

theorem ColumnTest.sound_pieces (test : ColumnTest) :
    ∀ piece ∈ test.pieces, piece.Sound := by
  cases test with
  | compare op expected =>
      simp only [ColumnTest.pieces, List.forall_mem_cons]
      exact ⟨sound_operator op, trivial, List.forall_mem_nil _⟩
  | null negated => exact List.forall_mem_singleton.mpr (sound_nullTest negated)

theorem Correlation.NamesIdentifiers.sound_pieces {correlation : Correlation}
    (h : correlation.NamesIdentifiers) :
    ∀ piece ∈ correlation.pieces, piece.Sound := by
  simp only [Correlation.pieces, List.forall_mem_cons, SqlPiece.Sound]
  exact ⟨by decide, h.relatedTable, by decide, h.relatedTable, by decide, h.relatedKey,
    by decide, h.parentTable, by decide, h.parentKey, List.forall_mem_nil _⟩

theorem sound_listPieces {column : String} (hcolumn : isIdentifier column) (values : List Json)
    (negated : Bool) :
    ∀ piece ∈ listPieces column values negated, piece.Sound := by
  have hvalues : ∀ piece ∈ SqlPiece.commaSeparated (values.map .given), piece.Sound := by
    refine SqlPiece.forall_mem_commaSeparated (by decide : '?' ∉ ", ".toList) ?_
    intro piece hpiece
    obtain ⟨expected, _, rfl⟩ := List.mem_map.mp hpiece
    trivial
  unfold listPieces
  split
  next =>
    refine List.forall_mem_singleton.mpr ?_
    cases negated <;> simp [SqlPiece.Sound]
  next =>
    have hopen : (SqlPiece.words (if negated then " NOT IN (" else " IN (")).Sound := by
      cases negated <;> simp [SqlPiece.Sound]
    have hclose : (SqlPiece.words ")").Sound := by
      simp [SqlPiece.Sound]
    simp only [List.forall_mem_append, List.forall_mem_cons]
    exact ⟨⟨⟨hcolumn, hopen, List.forall_mem_nil _⟩, hvalues⟩, hclose, List.forall_mem_nil _⟩

mutual

theorem Predicate.WellFormed.sound_pieces {scope : Scope} :
    ∀ predicate : Predicate, predicate.WellFormed scope →
      (∀ correlation ∈ predicate.correlations, correlation.NamesIdentifiers) →
        ∀ piece ∈ predicate.pieces, piece.Sound
  | .compare column op expected, h, _ => by
      simp only [Predicate.pieces, List.forall_mem_cons]
      exact ⟨h, sound_operator op, trivial, List.forall_mem_nil _⟩
  | .null column negated, h, _ => by
      simp only [Predicate.pieces, List.forall_mem_cons]
      exact ⟨h, sound_nullTest negated, List.forall_mem_nil _⟩
  | .isIn column values negated, h, _ => sound_listPieces h values negated
  | .related name correlation column test, h, hnames => by
      rw [Predicate.WellFormed] at h
      obtain ⟨_, _, _, _, _, _, _, hcolumn, _, _⟩ := h
      have hcorrelation : correlation.NamesIdentifiers := hnames _ List.mem_cons_self
      simp only [Predicate.pieces, List.forall_mem_append, List.forall_mem_cons, SqlPiece.Sound]
      exact ⟨⟨⟨⟨⟨by decide, List.forall_mem_nil _⟩, hcorrelation.sound_pieces⟩,
        by decide, hcolumn, List.forall_mem_nil _⟩, test.sound_pieces⟩,
        by decide, List.forall_mem_nil _⟩
  | .group terms, h, hnames => by
      rw [Predicate.WellFormed] at h
      simp only [Predicate.pieces, List.forall_mem_append, List.forall_mem_cons, SqlPiece.Sound]
      exact ⟨⟨⟨by decide, List.forall_mem_nil _⟩, Clause.WellFormed.sound_pieces terms h.2 hnames⟩,
        by decide, List.forall_mem_nil _⟩

theorem Clause.WellFormed.sound_pieces {scope : Scope} :
    ∀ clause : List (Combinator × Predicate), Clause.WellFormed scope clause →
      (∀ correlation ∈ Clause.correlations clause, correlation.NamesIdentifiers) →
        ∀ piece ∈ Clause.pieces clause, piece.Sound
  | [], _, _ => List.forall_mem_nil _
  | (_, predicate) :: rest, h, hnames => by
      rw [Clause.WellFormed] at h
      obtain ⟨hfirst, hrest⟩ := List.forall_mem_append.mp hnames
      exact List.forall_mem_append.mpr
        ⟨Predicate.WellFormed.sound_pieces predicate h.1 hfirst,
          Clause.WellFormed.sound_restPieces rest h.2 hrest⟩

theorem Clause.WellFormed.sound_restPieces {scope : Scope} :
    ∀ clause : List (Combinator × Predicate), Clause.WellFormed scope clause →
      (∀ correlation ∈ Clause.correlations clause, correlation.NamesIdentifiers) →
        ∀ piece ∈ Clause.restPieces clause, piece.Sound
  | [], _, _ => List.forall_mem_nil _
  | (combinator, predicate) :: rest, h, hnames => by
      rw [Clause.WellFormed] at h
      obtain ⟨hfirst, hrest⟩ := List.forall_mem_append.mp hnames
      simp only [Clause.restPieces, List.forall_mem_append, List.forall_mem_cons]
      exact ⟨⟨⟨sound_combinator combinator, List.forall_mem_nil _⟩,
        Predicate.WellFormed.sound_pieces predicate h.1 hfirst⟩,
        Clause.WellFormed.sound_restPieces rest h.2 hrest⟩

end

mutual

/-- Whatever a correlation names is a name in the text. -/
theorem Predicate.mem_pieces_of_correlation {correlation : Correlation} {piece : SqlPiece}
    (hpiece : piece ∈ correlation.pieces) :
    ∀ predicate : Predicate, correlation ∈ predicate.correlations → piece ∈ predicate.pieces
  | .related name other column test, h => by
      rw [Predicate.correlations, List.mem_singleton] at h
      subst h
      simp [Predicate.pieces, hpiece]
  | .group terms, h => by
      have hterms : piece ∈ Clause.pieces terms :=
        Clause.mem_pieces_of_correlation hpiece terms h
      simp [Predicate.pieces, hterms]

theorem Clause.mem_pieces_of_correlation {correlation : Correlation} {piece : SqlPiece}
    (hpiece : piece ∈ correlation.pieces) :
    ∀ clause : List (Combinator × Predicate),
      correlation ∈ Clause.correlations clause → piece ∈ Clause.pieces clause
  | (_, predicate) :: rest, h => by
      rw [Clause.pieces, List.mem_append]
      rcases List.mem_append.mp h with hfirst | hrest
      · exact .inl (Predicate.mem_pieces_of_correlation hpiece predicate hfirst)
      · exact .inr (Clause.mem_restPieces_of_correlation hpiece rest hrest)

theorem Clause.mem_restPieces_of_correlation {correlation : Correlation} {piece : SqlPiece}
    (hpiece : piece ∈ correlation.pieces) :
    ∀ clause : List (Combinator × Predicate),
      correlation ∈ Clause.correlations clause → piece ∈ Clause.restPieces clause
  | (_, predicate) :: rest, h => by
      rw [Clause.restPieces, List.mem_append, List.mem_append]
      rcases List.mem_append.mp h with hfirst | hrest
      · exact .inl (.inr (Predicate.mem_pieces_of_correlation hpiece predicate hfirst))
      · exact .inr (Clause.mem_restPieces_of_correlation hpiece rest hrest)

end

mutual

/-- The schema and the model of the scope are all that a correlation names. -/
theorem Predicate.WellFormed.namesIdentifiers {scope : Scope} (hscope : scope.NamesIdentifiers) :
    ∀ predicate : Predicate, predicate.WellFormed scope →
      ∀ correlation ∈ predicate.correlations, correlation.NamesIdentifiers
  | .compare _ _ _, _ | .null _ _, _ | .isIn _ _ _, _ => List.forall_mem_nil _
  | .related name correlation column test, h => by
      rw [Predicate.WellFormed] at h
      obtain ⟨schema, model, relation, _, _, rfl, hrelation, _, rfl, _⟩ := h
      obtain ⟨hschema, hmodel⟩ := hscope
      obtain ⟨htable, hforeign, hlocal⟩ := hschema model name relation hrelation
      obtain ⟨hparentKey, hrelatedKey⟩ := isIdentifier_parentKey hforeign hlocal
      exact List.forall_mem_singleton.mpr ⟨htable, hrelatedKey, hmodel, hparentKey⟩
  | .group terms, h => by
      rw [Predicate.WellFormed] at h
      exact Clause.WellFormed.namesIdentifiers hscope terms h.2

theorem Clause.WellFormed.namesIdentifiers {scope : Scope} (hscope : scope.NamesIdentifiers) :
    ∀ clause : List (Combinator × Predicate), Clause.WellFormed scope clause →
      ∀ correlation ∈ Clause.correlations clause, correlation.NamesIdentifiers
  | [], _ => List.forall_mem_nil _
  | (_, predicate) :: rest, h => by
      rw [Clause.WellFormed] at h
      exact List.forall_mem_append.mpr
        ⟨Predicate.WellFormed.namesIdentifiers hscope predicate h.1,
          Clause.WellFormed.namesIdentifiers hscope rest h.2⟩

end

/-! ## Built queries -/

def SelectQuery.NamesIdentifiers (query : SelectQuery) : Prop :=
  ∀ name, .named name ∈ query.pieces → isIdentifier name

theorem SelectQuery.sound_columnPieces {query : SelectQuery}
    (h : ∀ column ∈ query.columns, column = "*" ∨ isIdentifier column) :
    ∀ piece ∈ query.columnPieces, piece.Sound := by
  have hstar : (SqlPiece.words "*").Sound := by
    simp [SqlPiece.Sound]
  unfold columnPieces
  split
  next => exact List.forall_mem_singleton.mpr hstar
  next =>
    refine SqlPiece.forall_mem_commaSeparated (by decide : '?' ∉ ", ".toList) ?_
    intro piece hpiece
    obtain ⟨column, hcolumn, rfl⟩ := List.mem_map.mp hpiece
    unfold columnPiece
    split
    next => exact hstar
    next hne => exact (h column hcolumn).resolve_left hne

theorem SelectQuery.sound_pieces {query : SelectQuery}
    (hcolumns : ∀ column ∈ query.columns, column = "*" ∨ isIdentifier column)
    (htable : isIdentifier query.table)
    (hclause : ∀ piece ∈ Clause.pieces query.clause, piece.Sound) :
    ∀ piece ∈ query.pieces, piece.Sound := by
  have hwhere : ∀ piece ∈ query.clausePieces, piece.Sound := by
    unfold clausePieces
    split
    next => exact List.forall_mem_nil _
    next =>
      simp only [List.forall_mem_append, List.forall_mem_cons, SqlPiece.Sound]
      exact ⟨⟨by decide, List.forall_mem_nil _⟩, hclause⟩
  simp only [pieces, List.forall_mem_append, List.forall_mem_cons, SqlPiece.Sound]
  exact ⟨⟨⟨⟨by decide, List.forall_mem_nil _⟩, sound_columnPieces hcolumns⟩,
    by decide, htable, List.forall_mem_nil _⟩, hwhere⟩

theorem SelectQuery.count_sql {query : SelectQuery} (h : ∀ piece ∈ query.pieces, piece.Sound) :
    query.sql.toList.count '?' = query.values.length := by
  rw [sql, write_eq_pieces, SqlPiece.count_writeAll h, values_pieces]

namespace ModelQuery

variable {schema : Schema} {query : ModelQuery}

theorem Built.sound_pieces (h : query.Built schema)
    (hnames : ∀ correlation ∈ Clause.correlations query.select.clause,
      correlation.NamesIdentifiers) :
    ∀ piece ∈ query.select.pieces, piece.Sound :=
  SelectQuery.sound_pieces h.wellFormed.conforms.columns h.isIdentifier_model
    (Clause.WellFormed.sound_pieces _ h.wellFormed.conforms.clause hnames)

theorem correlations_of_namesIdentifiers (h : query.select.NamesIdentifiers) :
    ∀ correlation ∈ Clause.correlations query.select.clause, correlation.NamesIdentifiers := by
  intro correlation hmem
  have hnonempty : query.select.clause.isEmpty = false := by
    cases hclause : query.select.clause with
    | nil =>
        rw [hclause] at hmem
        cases hmem
    | cons term rest => rfl
  have hnamed (name : String) (hname : .named name ∈ correlation.pieces) : isIdentifier name := by
    have hclause : SqlPiece.named name ∈ Clause.pieces query.select.clause :=
      Clause.mem_pieces_of_correlation hname _ hmem
    apply h name
    simp [SelectQuery.pieces, SelectQuery.clausePieces, hnonempty, hclause]
  exact
    { relatedTable := hnamed _ (by simp [Correlation.pieces])
      relatedKey := hnamed _ (by simp [Correlation.pieces])
      parentTable := hnamed _ (by simp [Correlation.pieces])
      parentKey := hnamed _ (by simp [Correlation.pieces]) }

end ModelQuery

/-- The names in the text of a built query and of its loads are identifiers exactly when those of
the tested relations are; then no question mark is part of a name. -/
theorem built_names_identifiers_iff {schema : Schema} {query inner : ModelQuery}
    (hbuilt : query.Built schema) (hinner : query.Nests inner) :
    (inner.select.NamesIdentifiers ↔
        ∀ correlation ∈ Clause.correlations inner.select.clause,
          correlation.NamesIdentifiers) ∧
      (inner.select.NamesIdentifiers →
        inner.select.sql.toList.count '?' = inner.select.values.length) ∧
        (schema.NamesIdentifiers → inner.select.NamesIdentifiers) := by
  have h : inner.Built schema := hbuilt.of_nests hinner
  have hsound : (∀ correlation ∈ Clause.correlations inner.select.clause,
      correlation.NamesIdentifiers) → inner.select.NamesIdentifiers := by
    intro hnames name hname
    exact h.sound_pieces hnames _ hname
  refine ⟨⟨ModelQuery.correlations_of_namesIdentifiers, hsound⟩, ?_, ?_⟩
  · intro hnames
    have hcorrelations := ModelQuery.correlations_of_namesIdentifiers hnames
    exact SelectQuery.count_sql (h.sound_pieces hcorrelations)
  · intro hschema
    have hscope : Scope.NamesIdentifiers (.model schema inner.model) :=
      ⟨hschema, h.isIdentifier_model⟩
    exact hsound (Clause.WellFormed.namesIdentifiers hscope _ h.wellFormed.conforms.clause)

/-- Tests the books of an author and, inside their load, the author of a book. -/
def testingSteps : List BuildStep :=
  [.related .and "books" "title" .like (.text "?"),
    .load "books"
      [.project ["title", "*"], .group .or [.related .or "author" "name" .ne (.text "?")]]]

theorem library_sql_names_identifiers :
    let fresh : ModelQuery := { select := { table := "authors" } }
    let run := BuildStep.runAll (.relational libraryStore.schema) testingSteps fresh
    run.failure = none ∧
      run.state.select.sql.toList.count '?' = run.state.select.values.length ∧
        ∃ load ∈ run.state.eager,
          load.query.select.sql =
              "SELECT title, * FROM books WHERE (EXISTS (SELECT * FROM authors WHERE " ++
                "authors.id = books.author_id AND name != ?))" ∧
            load.query.select.NamesIdentifiers := by
  intro fresh run
  have hfresh : ModelQuery.ofModel libraryStore.schema "authors" = .ok fresh := rfl
  have hbuilt : run.state.Built libraryStore.schema :=
    ModelQuery.built_runAll hfresh testingSteps
  have hschema : libraryStore.schema.NamesIdentifiers :=
    Schema.namesIdentifiers_of_forall_mem (by decide)
  have htop := built_names_identifiers_iff hbuilt (.self run.state)
  refine ⟨rfl, htop.2.1 (htop.2.2 hschema), _, List.mem_cons_self, by decide, ?_⟩
  exact (built_names_identifiers_iff hbuilt (.load List.mem_cons_self (.self _))).2.2 hschema

/-- The related model of a relation has a name that is no identifier. -/
def markedSchema : Schema where
  models :=
    [("posts", { relations := [("author", ⟨.belongsTo, "users?", "author_id", "id"⟩)] }),
      ("users?", {})]

/-- The load of a relation is refused for the name of its model, but the test of the relation is
written with this name, so there are more question marks than values. -/
theorem related_test_writes_unchecked_name :
    let fresh : ModelQuery := { select := { table := "posts" } }
    let steps : List BuildStep := [.related .and "author" "name" .eq (.number (.int 1))]
    let run := BuildStep.runAll (.relational markedSchema) steps fresh
    ModelQuery.ofModel markedSchema "posts" = .ok fresh ∧
      fresh.load markedSchema "author" .ok = .error (.invalidIdentifier "users?") ∧
        run.failure = none ∧ run.state.Built markedSchema ∧
          ¬ run.state.select.NamesIdentifiers ∧
            run.state.select.sql.toList.count '?' = 3 ∧ run.state.select.values.length = 1 := by
  intro fresh steps run
  have hfresh : ModelQuery.ofModel markedSchema "posts" = .ok fresh := rfl
  have hunchecked : ¬ run.state.select.NamesIdentifiers := by
    intro hnames
    have hname : isIdentifier "users?" := hnames "users?" (by decide)
    exact absurd hname (by decide)
  exact ⟨hfresh, rfl, rfl, ModelQuery.built_runAll hfresh steps, hunchecked, by decide, rfl⟩

end QueryShape
