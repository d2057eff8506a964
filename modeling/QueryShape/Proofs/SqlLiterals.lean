import QueryShape.Proofs.LiteralReader
import QueryShape.Proofs.NumberTexts
import QueryShape.Proofs.SqlNames

/-!
# Literals of built queries

Strings are written between quotes, and so are the texts of arrays and objects; all else that is
written has no quotes.  Between two values there is always a word, so no quote follows a literal.
Therefore the text of a built query is read as its values were written: as many literals, in their
order, each for its own string.

What is read around the literals does not depend on the strings in them.  Whatever strings they
are given, they are read inside of literals and nowhere else.
-/

namespace QueryShape

/-! ## Values with and without quotes -/

/-- What a value between quotes stands for: a string for itself, a structure for its text. -/
def Json.quoted? : Json → Option String
  | .null | .bool _ | .number _ => none
  | .text s => some s
  | value => some value.render

theorem sqlLiteral_of_quoted? {value : Json} {s : String} (h : value.quoted? = some s) :
    sqlLiteral value = quotedLiteral s := by
  cases value with
  | null | bool _ | number _ => cases h
  | text _ | array _ | object _ =>
      cases h
      rfl

theorem quote_not_mem_sqlLiteral {value : Json} (h : value.quoted? = none) :
    '\'' ∉ (sqlLiteral value).toList := by
  cases value with
  | null => decide
  | bool b => cases b <;> decide
  | number n =>
      intro hmem
      have hchar : JsonLexeme.isNumeralChar '\'' = true := n.isNumeralChar_render '\'' hmem
      exact absurd hchar (by decide)
  | text _ | array _ | object _ => cases h

/-! ## Words between values -/

/-- Words have no quotes.  The flag tells that a value stands directly before the pieces; only a
word may follow it. -/
inductive SqlPiece.Spaced : Bool → List SqlPiece → Prop
  | nil {after : Bool} : Spaced after []
  | words {after : Bool} {text : String} {rest : List SqlPiece}
      (htext : text ≠ "" ∧ '\'' ∉ text.toList) (hrest : Spaced false rest) :
      Spaced after (.words text :: rest)
  | named {name : String} {rest : List SqlPiece} (hrest : Spaced false rest) :
      Spaced false (.named name :: rest)
  | given {value : Json} {rest : List SqlPiece} (hrest : Spaced true rest) :
      Spaced false (.given value :: rest)

namespace SqlPiece

theorem Spaced.weaken {pieces : List SqlPiece} (h : Spaced true pieces) :
    Spaced false pieces := by
  cases h with
  | nil => exact .nil
  | words htext hrest => exact .words htext hrest

theorem spaced_commaSeparated {pieces rest : List SqlPiece}
    (h : ∀ piece ∈ pieces, ∀ rest, Spaced true rest → Spaced false (piece :: rest))
    (hrest : Spaced true rest) :
    Spaced false (commaSeparated pieces ++ rest) := by
  induction pieces with
  | nil => exact hrest.weaken
  | cons piece more ih =>
      obtain ⟨hpiece, hmore⟩ := List.forall_mem_cons.mp h
      cases more with
      | nil => exact hpiece rest hrest
      | cons next more =>
          have hcomma :
              Spaced true (.words ", " :: (commaSeparated (next :: more) ++ rest)) :=
            .words (by decide) (ih hmore)
          rw [commaSeparated, List.intersperse_cons_cons]
          exact hpiece _ hcomma

end SqlPiece

open SqlPiece

variable {rest : List SqlPiece}

theorem ColumnTest.spaced_pieces (test : ColumnTest) (hrest : Spaced true rest) :
    Spaced false (test.pieces ++ rest) := by
  cases test with
  | compare op expected => exact .words (by cases op <;> decide) (.given hrest)
  | null negated => exact .words (by cases negated <;> decide) hrest.weaken

theorem Correlation.spaced_pieces (correlation : Correlation) (hrest : Spaced true rest) :
    Spaced false (correlation.pieces ++ rest) := by
  have hparent : Spaced false
      (.named correlation.parentTable :: .words "." :: .named correlation.parentKey :: rest) :=
    .named (.words (by decide) (.named hrest.weaken))
  have hrelated : Spaced false
      (.named correlation.relatedTable :: .words "." :: .named correlation.relatedKey ::
        .words " = " :: .named correlation.parentTable :: .words "." ::
          .named correlation.parentKey :: rest) :=
    .named (.words (by decide) (.named (.words (by decide) hparent)))
  exact .words (by decide) (.named (.words (by decide) hrelated))

theorem spaced_listPieces (column : String) (values : List Json) (negated : Bool)
    (hrest : Spaced true rest) :
    Spaced false (listPieces column values negated ++ rest) := by
  unfold listPieces
  split
  next => exact .words (by cases negated <;> decide) hrest.weaken
  next =>
    have hvalues :
        Spaced false (commaSeparated (values.map .given) ++ .words ")" :: rest) := by
      refine spaced_commaSeparated ?_ (.words (by decide) hrest.weaken)
      intro piece hpiece next hnext
      obtain ⟨value, _, rfl⟩ := List.mem_map.mp hpiece
      exact .given hnext
    rw [List.append_assoc, List.append_assoc]
    exact .named (.words (by cases negated <;> decide) hvalues)

mutual

theorem Predicate.spaced_pieces :
    ∀ (predicate : Predicate) {rest : List SqlPiece}, Spaced true rest →
      Spaced false (predicate.pieces ++ rest)
  | .compare column op expected, rest, hrest =>
      .named (.words (by cases op <;> decide) (.given hrest))
  | .null column negated, rest, hrest =>
      .named (.words (by cases negated <;> decide) hrest.weaken)
  | .isIn column values negated, rest, hrest => spaced_listPieces column values negated hrest
  | .related _ correlation column test, rest, hrest => by
      have hclose : Spaced true (.words ")" :: rest) := .words (by decide) hrest.weaken
      have htest : Spaced false (test.pieces ++ .words ")" :: rest) := test.spaced_pieces hclose
      have hcolumn :
          Spaced true (.words " AND " :: .named column :: (test.pieces ++ .words ")" :: rest)) :=
        .words (by decide) (.named htest)
      have hcorrelation := correlation.spaced_pieces hcolumn
      simp only [Predicate.pieces, List.append_assoc, List.cons_append, List.nil_append]
      exact .words (by decide) hcorrelation
  | .group terms, rest, hrest => by
      have hclose : Spaced true (.words ")" :: rest) := .words (by decide) hrest.weaken
      have hterms := Clause.spaced_pieces terms hclose
      simp only [Predicate.pieces, List.append_assoc, List.cons_append, List.nil_append]
      exact .words (by decide) hterms

theorem Clause.spaced_pieces :
    ∀ (clause : List (Combinator × Predicate)) {rest : List SqlPiece}, Spaced true rest →
      Spaced false (Clause.pieces clause ++ rest)
  | [], rest, hrest => hrest.weaken
  | (_, predicate) :: terms, rest, hrest => by
      have hterms := Clause.spaced_restPieces terms hrest
      rw [Clause.pieces, List.append_assoc]
      exact predicate.spaced_pieces hterms

theorem Clause.spaced_restPieces :
    ∀ (clause : List (Combinator × Predicate)) {rest : List SqlPiece}, Spaced true rest →
      Spaced true (Clause.restPieces clause ++ rest)
  | [], rest, hrest => hrest
  | (combinator, predicate) :: terms, rest, hrest => by
      have hterms := Clause.spaced_restPieces terms hrest
      rw [Clause.restPieces, List.append_assoc, List.append_assoc]
      exact .words (by cases combinator <;> decide) (predicate.spaced_pieces hterms)

end

theorem SelectQuery.spaced_pieces (query : SelectQuery) :
    Spaced false query.pieces := by
  have hclause : Spaced false query.clausePieces := by
    unfold clausePieces
    split
    next => exact .nil
    next =>
      have hterms := Clause.spaced_pieces query.clause .nil
      rw [List.append_nil] at hterms
      exact .words (by decide) hterms
  have hfrom :
      Spaced true (.words " FROM " :: .named query.table :: query.clausePieces) :=
    .words (by decide) (.named hclause)
  have hcolumns : Spaced false
      (query.columnPieces ++ .words " FROM " :: .named query.table :: query.clausePieces) := by
    unfold columnPieces
    split
    next => exact .words (by decide) hfrom.weaken
    next =>
      refine spaced_commaSeparated ?_ hfrom
      intro piece hpiece next hnext
      obtain ⟨column, _, rfl⟩ := List.mem_map.mp hpiece
      unfold columnPiece
      split
      next => exact .words (by decide) hnext.weaken
      next => exact .named hnext.weaken
  simp only [pieces, List.append_assoc, List.cons_append, List.nil_append]
  exact .words (by decide) hcolumns

/-! ## Reading pieces -/

/-- A value without quotes is a part of the text around the literals. -/
def SqlPiece.settled : SqlPiece → SqlPiece
  | .given value => if value.quoted?.isSome then .given value else .words (sqlLiteral value)
  | piece => piece

namespace SqlPiece

/-- The template around the literals of pieces, and what the literals stand for. -/
def reading (pieces : List SqlPiece) : SqlReading where
  outside := .ofPieces (pieces.map settled)
  literals := (values pieces).filterMap Json.quoted?

theorem reading_words (text : String) (rest : List SqlPiece) :
    reading (.words text :: rest) = (reading rest).prepend text := rfl

theorem reading_named (name : String) (rest : List SqlPiece) :
    reading (.named name :: rest) = (reading rest).prepend name := rfl

theorem reading_given_quoted {value : Json} {s : String} (h : value.quoted? = some s)
    (rest : List SqlPiece) :
    reading (.given value :: rest) = (reading rest).prependLiteral s := by
  simp [reading, settled, h, SqlTemplate.ofPieces, SqlReading.prependLiteral]

theorem reading_given_unquoted {value : Json} (h : value.quoted? = none)
    (rest : List SqlPiece) :
    reading (.given value :: rest) = (reading rest).prepend (sqlLiteral value) := by
  simp [reading, settled, h, SqlTemplate.ofPieces, SqlReading.prepend]

/-- The pieces that may stand directly after a value do not begin with a quote. -/
theorem Spaced.head?_writeAll {pieces : List SqlPiece} (h : Spaced true pieces) :
    (writeAll sqlLiteral pieces).toList.head? ≠ some '\'' := by
  cases h with
  | nil => simp
  | @words _ text rest htext hrest =>
      obtain ⟨c, cs, hcs⟩ :=
        List.exists_cons_of_ne_nil (fun hnil => htext.1 (String.toList_inj.mp hnil))
      have hc : c ≠ '\'' := by
        rintro rfl
        exact htext.2 (hcs ▸ List.mem_cons_self)
      simp [write, hcs, hc]

theorem Spaced.read?_writeAll {after : Bool} {pieces : List SqlPiece} (h : Spaced after pieces)
    (hnames : ∀ name, .named name ∈ pieces → '\'' ∉ name.toList) :
    SqlReading.read? (writeAll sqlLiteral pieces).toList = some (reading pieces) := by
  induction h with
  | nil => rfl
  | @words _ text rest htext _ ih =>
      have hread := ih fun name hname => hnames name (List.mem_cons_of_mem _ hname)
      rw [writeAll_cons, String.toList_append, write, SqlReading.read?_append htext.2, hread,
        reading_words]
      rfl
  | @named name rest _ ih =>
      have hread := ih fun other hother => hnames other (List.mem_cons_of_mem _ hother)
      have hname : '\'' ∉ name.toList := hnames name List.mem_cons_self
      rw [writeAll_cons, String.toList_append, write, SqlReading.read?_append hname, hread,
        reading_named]
      rfl
  | @given value rest hrest ih =>
      have hread := ih fun name hname => hnames name (List.mem_cons_of_mem _ hname)
      rw [writeAll_cons, String.toList_append, write]
      cases hvalue : value.quoted? with
      | none =>
          rw [SqlReading.read?_append (quote_not_mem_sqlLiteral hvalue), hread,
            reading_given_unquoted hvalue]
          rfl
      | some s =>
          rw [sqlLiteral_of_quoted? hvalue, SqlReading.read?_quotedLiteral s hrest.head?_writeAll,
            hread, reading_given_quoted hvalue]
          rfl

end SqlPiece

/-- The values are the same, or both are written between quotes. -/
def Json.SameUnquoted (value other : Json) : Prop :=
  value = other ∨ value.quoted?.isSome ∧ other.quoted?.isSome

theorem Json.SameUnquoted.settled {value other : Json} (h : value.SameUnquoted other) :
    (SqlPiece.given other).settled.unfilled = (SqlPiece.given value).settled.unfilled := by
  rcases h with rfl | ⟨hvalue, hother⟩
  · rfl
  · simp [SqlPiece.settled, SqlPiece.unfilled, hvalue, hother]

theorem SqlPiece.map_settled_unfilled {pieces others : List SqlPiece}
    (hpieces : others.map unfilled = pieces.map unfilled)
    (hvalues : List.Forall₂ Json.SameUnquoted (values pieces) (values others)) :
    (others.map settled).map unfilled = (pieces.map settled).map unfilled := by
  induction pieces generalizing others with
  | nil =>
      rw [List.map_nil, List.map_eq_nil_iff] at hpieces
      rw [hpieces]
  | cons piece rest ih =>
      cases others with
      | nil => cases hpieces
      | cons other others =>
          obtain ⟨hpiece, hrest⟩ := List.cons.inj hpieces
          cases piece with
          | words text =>
              cases other with
              | words other =>
                  cases hpiece
                  exact congrArg (_ :: ·) (ih hrest hvalues)
              | named _ | given _ => cases hpiece
          | named name =>
              cases other with
              | named other =>
                  cases hpiece
                  exact congrArg (_ :: ·) (ih hrest hvalues)
              | words _ | given _ => cases hpiece
          | given value =>
              cases other with
              | given other =>
                  cases hvalues with
                  | cons hvalue hvalues =>
                      exact List.cons_eq_cons.mpr ⟨hvalue.settled, ih hrest hvalues⟩
              | words _ | named _ => cases hpiece

/-! ## Built queries -/

namespace SelectQuery

/-- Reading the text gives the strings that were written, and around them a template that does not
depend on them. -/
def ReadsBack (query : SelectQuery) : Prop :=
  ∃ outside : SqlTemplate,
    SqlReading.ofText? query.inline = some ⟨outside, query.values.filterMap Json.quoted?⟩ ∧
      outside.fill ((query.values.filterMap Json.quoted?).map quotedLiteral) = query.inline ∧
        ∀ other : SelectQuery, other.unfilled = query.unfilled →
          List.Forall₂ Json.SameUnquoted query.values other.values →
            SqlReading.ofText? other.inline =
              some ⟨outside, other.values.filterMap Json.quoted?⟩

theorem NamesIdentifiers.of_unfilled_eq {query other : SelectQuery} (h : query.NamesIdentifiers)
    (hother : other.pieces.map SqlPiece.unfilled = query.pieces.map SqlPiece.unfilled) :
    other.NamesIdentifiers := by
  intro name hname
  have hmem : SqlPiece.named name ∈ query.pieces.map SqlPiece.unfilled :=
    hother ▸ List.mem_map_of_mem hname
  obtain ⟨piece, hpiece, heq⟩ := List.mem_map.mp hmem
  cases piece with
  | named _ =>
      cases heq
      exact h name hpiece
  | words _ | given _ => cases heq

theorem NamesIdentifiers.ofText?_inline {query : SelectQuery} (h : query.NamesIdentifiers) :
    SqlReading.ofText? query.inline =
      some ⟨.ofPieces (query.pieces.map SqlPiece.settled),
        query.values.filterMap Json.quoted?⟩ := by
  have hnames : ∀ name, .named name ∈ query.pieces → '\'' ∉ name.toList :=
    fun name hname => SqlPiece.not_mem_of_isIdentifier (by decide) (h name hname)
  have hread := query.spaced_pieces.read?_writeAll hnames
  rw [SqlReading.ofText?, inline, write_eq_pieces, hread, SqlPiece.reading, values_pieces]

theorem NamesIdentifiers.readsBack {query : SelectQuery} (h : query.NamesIdentifiers) :
    query.ReadsBack := by
  have hread := h.ofText?_inline
  refine ⟨_, hread, SqlReading.text_of_ofText? hread, ?_⟩
  intro other hother hvalues
  have hpieces : other.pieces.map SqlPiece.unfilled = query.pieces.map SqlPiece.unfilled := by
    rw [← pieces_unfilled, hother, pieces_unfilled]
  have hsettled :
      (other.pieces.map SqlPiece.settled).map SqlPiece.unfilled =
        (query.pieces.map SqlPiece.settled).map SqlPiece.unfilled := by
    rw [← query.values_pieces, ← other.values_pieces] at hvalues
    exact SqlPiece.map_settled_unfilled hpieces hvalues
  have hoperand : other.NamesIdentifiers := h.of_unfilled_eq hpieces
  rw [hoperand.ofText?_inline, ← SqlTemplate.ofPieces_unfilled, hsettled,
    SqlTemplate.ofPieces_unfilled]

end SelectQuery

theorem Backend.Reaches.columns {Q : Type} {backend : Backend Q} {start query : Q}
    (hreach : backend.Reaches start query) (hlawful : backend.Lawful)
    (hstart : ∀ column ∈ (backend.select start).columns, column = "*" ∨ isIdentifier column) :
    ∀ column ∈ (backend.select query).columns, column = "*" ∨ isIdentifier column := by
  induction hreach with
  | refl query => exact hstart
  | project _ h _ =>
      simp only [Backend.project, bind_eq_ok_iff, pure_eq_ok_iff] at h
      obtain ⟨select, hselect, rfl⟩ := h
      obtain ⟨hcolumns, rfl⟩ := SelectQuery.project_eq_ok_iff.mp hselect
      rw [hlawful.select_replace]
      exact hcolumns
  | compare _ h ih | null _ h ih | isIn _ h ih | related _ h ih =>
      simp only [Backend.compare, Backend.null, Backend.isIn, Backend.related, bind_eq_ok_iff,
        pure_eq_ok_iff] at h
      obtain ⟨_, _, rfl⟩ := h
      rw [Backend.add, hlawful.select_replace]
      exact ih hstart
  | group _ _ h ih _ =>
      simp only [Backend.group, bind_eq_ok_iff, pure_eq_ok_iff] at h
      obtain ⟨_, _, rfl⟩ := h
      rw [hlawful.select_replace]
      exact ih hstart
  | load _ _ h ih _ =>
      rw [hlawful.select_load h]
      exact ih hstart

/-- A query without relations has no name that has not been checked. -/
theorem SelectQuery.namesIdentifiers_of_reaches {table : String} {fresh query : SelectQuery}
    (hfresh : ofTable table = .ok fresh) (hreach : Backend.plain.Reaches fresh query) :
    query.NamesIdentifiers := by
  obtain ⟨htable, rfl⟩ := ofTable_eq_ok_iff.mp hfresh
  have hkeeps := hreach.keeps Backend.plain_lawful
  have heq : query.table = table := hkeeps.table_eq
  have hname : isIdentifier query.table := by
    rw [heq]
    exact htable
  have hcolumns : ∀ column ∈ query.columns, column = "*" ∨ isIdentifier column :=
    hreach.columns Backend.plain_lawful (List.forall_mem_nil _)
  have hclause : Clause.WellFormed .plain query.clause := hkeeps.wellFormed trivial
  have hscope : Scope.NamesIdentifiers .plain := trivial
  have hcorrelations : ∀ correlation ∈ Clause.correlations query.clause,
      correlation.NamesIdentifiers :=
    Clause.WellFormed.namesIdentifiers hscope query.clause hclause
  have hpieces := Clause.WellFormed.sound_pieces query.clause hclause hcorrelations
  intro name hmem
  exact SelectQuery.sound_pieces hcolumns hname hpieces (.named name) hmem

theorem ModelQuery.Built.namesIdentifiers {schema : Schema} {query : ModelQuery}
    (h : query.Built schema) (hschema : schema.NamesIdentifiers) :
    query.select.NamesIdentifiers := by
  have hscope : Scope.NamesIdentifiers (.model schema query.model) :=
    ⟨hschema, h.isIdentifier_model⟩
  have hcorrelations :=
    Clause.WellFormed.namesIdentifiers hscope query.select.clause h.wellFormed.conforms.clause
  intro name hmem
  exact h.sound_pieces hcorrelations (.named name) hmem

/-- The literals of a built query are read back as the strings that they were written for. -/
theorem built_literals_read_back :
    (∀ (table : String) (fresh query : SelectQuery), SelectQuery.ofTable table = .ok fresh →
        Backend.plain.Reaches fresh query → query.ReadsBack) ∧
      ∀ (schema : Schema) (query inner : ModelQuery), schema.NamesIdentifiers →
        query.Built schema → query.Nests inner → inner.select.ReadsBack := by
  refine ⟨?_, ?_⟩
  · intro table fresh query hfresh hreach
    exact (SelectQuery.namesIdentifiers_of_reaches hfresh hreach).readsBack
  · intro schema query inner hschema hbuilt hinner
    exact ((hbuilt.of_nests hinner).namesIdentifiers hschema).readsBack

/-- Compares with a string and with a list of values, one literal next to the other. -/
def quotingSteps (name : String) (tags : List Json) : List BuildStep :=
  [.project ["id", "*"], .compare .and "name" .eq (.text name),
    .group .or [.isIn .and "tag" tags false, .compare .or "age" .ge (.number (.int 3))]]

/-- A test and, inside of a load, another one, which compare with quotes. -/
def quotingTests : List BuildStep :=
  [.related .and "books" "title" .like (.text "'"),
    .load "books" [.group .and [.related .or "author" "name" .ne (.text "''")]]]

theorem quotes_in_values_read_back :
    let tags : List Json := [.text "'", .text "''", .array [.text "it's"], .null]
    let harmlessTags : List Json := [.text "a", .text "", .object [], .null]
    let run := BuildStep.runAll .plain (quotingSteps "' OR '1' = '1" tags) { table := "users" }
    let harmless := BuildStep.runAll .plain (quotingSteps "Ann" harmlessTags) { table := "users" }
    let tests := BuildStep.runAll (.relational libraryStore.schema) quotingTests
      { select := { table := "authors" } }
    let outside : SqlTemplate :=
      ⟨"SELECT id, * FROM users WHERE name = ",
        [" OR (tag IN (", ", ", ", ", ", NULL) OR age >= 3)"]⟩
    run.failure = none ∧
      run.state.inline =
          "SELECT id, * FROM users WHERE name = ''' OR ''1'' = ''1' OR " ++
            "(tag IN ('''', '''''', '[\"it''s\"]', NULL) OR age >= 3)" ∧
        SqlReading.ofText? run.state.inline =
            some ⟨outside, ["' OR '1' = '1", "'", "''", "[\"it's\"]"]⟩ ∧
          SqlReading.ofText? harmless.state.inline =
              some ⟨outside, ["Ann", "a", "", "\x7b\x7d"]⟩ ∧
            tests.failure = none ∧ tests.state.select.ReadsBack ∧
              ∃ load ∈ tests.state.eager, load.query.select.ReadsBack := by
  intro tags harmlessTags run harmless tests outside
  have hfresh : SelectQuery.ofTable "users" = .ok { table := "users" } := by
    rfl
  have hreach : Backend.plain.Reaches { table := "users" } run.state :=
    Backend.reaches_runAll Backend.plain_lawful _ _
  have hreads : run.state.ReadsBack :=
    built_literals_read_back.1 "users" { table := "users" } run.state hfresh hreach
  obtain ⟨around, hread, _, hothers⟩ := hreads
  have hknown :
      SqlReading.ofText? run.state.inline =
        some ⟨outside, ["' OR '1' = '1", "'", "''", "[\"it's\"]"]⟩ := by
    decide +kernel
  have haround : around = outside := by
    rw [hknown, Option.some.injEq, SqlReading.mk.injEq] at hread
    exact hread.1.symm
  have hvalues : List.Forall₂ Json.SameUnquoted run.state.values harmless.state.values :=
    .cons (.inr ⟨rfl, rfl⟩) (.cons (.inr ⟨rfl, rfl⟩) (.cons (.inr ⟨rfl, rfl⟩)
      (.cons (.inr ⟨rfl, rfl⟩) (.cons (.inl rfl) (.cons (.inl rfl) .nil)))))
  have hharmless := hothers harmless.state rfl hvalues
  rw [haround] at hharmless
  have hauthors : ModelQuery.ofModel libraryStore.schema "authors" =
      .ok { select := { table := "authors" } } := by
    rfl
  have hbuilt : tests.state.Built libraryStore.schema :=
    ModelQuery.built_runAll hauthors quotingTests
  have hschema : libraryStore.schema.NamesIdentifiers :=
    Schema.namesIdentifiers_of_forall_mem (by decide)
  have hself : tests.state.select.ReadsBack :=
    built_literals_read_back.2 _ tests.state tests.state hschema hbuilt (.self _)
  refine ⟨rfl, by decide +kernel, hknown, hharmless, rfl, hself, _, List.mem_cons_self, ?_⟩
  exact built_literals_read_back.2 _ tests.state _ hschema hbuilt
    (.load List.mem_cons_self (.self _))

end QueryShape
