import QueryShape.Proofs.BuilderReach
import QueryShape.Proofs.ListAnswers

/-!
# Well-formed queries

A model query conforms to a schema when the schema knows its model, its columns are
identifiers or the star, its clause is well formed in its scope, and its loads have
different names, each of them following the relation of its name to a query on the related
model.  It is well formed when it and the queries of its loads, at every level, conform.

A new query is well formed and every builder call keeps it so, whatever was built inside
groups and loads.  Of the query on which a group is built only the clause is kept, and of a
call that fails nothing is.
-/

namespace QueryShape

structure ModelQuery.Conforms (schema : Schema) (query : ModelQuery) : Prop where
  known : ∃ definition, schema.model query.model = .ok definition
  columns : ∀ column ∈ query.select.columns, column = "*" ∨ isIdentifier column
  clause : Clause.WellFormed (.model schema query.model) query.select.clause
  distinct : (query.eager.map EagerLoad.name).Nodup
  relations : ∀ load ∈ query.eager, schema.relation query.model load.name = .ok load.relation
  models : ∀ load ∈ query.eager, load.query.model = load.relation.model

inductive ModelQuery.WellFormed (schema : Schema) : ModelQuery → Prop
  | intro {query : ModelQuery} (conforms : query.Conforms schema)
      (loads : ∀ load ∈ query.eager, ModelQuery.WellFormed schema load.query) :
      ModelQuery.WellFormed schema query

/-! ## Columns -/

namespace SelectQuery

theorem checkColumn_eq_ok_iff {column : String} {done : Unit} :
    checkColumn column = .ok done ↔ column = "*" ∨ isIdentifier column := by
  by_cases h : column = "*" ∨ isIdentifier column <;> simp [checkColumn, h]

theorem project_eq_ok_iff {columns : List String} {select next : SelectQuery} :
    select.project columns = .ok next ↔
      (∀ column ∈ columns, column = "*" ∨ isIdentifier column) ∧
        next = { select with columns := columns } := by
  simp only [project, bind_eq_ok_iff, pure_eq_ok_iff, forM_eq_ok_iff, checkColumn_eq_ok_iff,
    exists_const]
  exact and_congr_right fun _ => eq_comm

end SelectQuery

/-! ## Single calls -/

namespace ModelQuery

variable {schema : Schema} {query : ModelQuery}

theorem WellFormed.conforms (h : query.WellFormed schema) :
    query.Conforms schema := by
  cases h with
  | intro conforms _ => exact conforms

theorem WellFormed.loads (h : query.WellFormed schema) :
    ∀ load ∈ query.eager, load.query.WellFormed schema := by
  cases h with
  | intro _ loads => exact loads

theorem wellFormed_of_table {table : String} {definition : Model}
    (h : schema.model table = .ok definition) :
    ModelQuery.WellFormed schema { select := { table := table } } := by
  have hconforms : Conforms schema { select := { table := table } } :=
    { known := ⟨definition, h⟩
      columns := List.forall_mem_nil _
      clause := trivial
      distinct := .nil
      relations := List.forall_mem_nil _
      models := List.forall_mem_nil _ }
  exact .intro hconforms (List.forall_mem_nil _)

theorem wellFormed_of_ofModel {model : String} (h : ofModel schema model = .ok query) :
    query.WellFormed schema := by
  obtain ⟨⟨definition, hdefinition⟩, _, rfl⟩ := ofModel_eq_ok_iff.mp h
  exact wellFormed_of_table hdefinition

theorem WellFormed.blank (h : query.WellFormed schema) :
    query.blank.WellFormed schema := by
  obtain ⟨definition, hdefinition⟩ := h.conforms.known
  exact wellFormed_of_table hdefinition

/-- Another select query on the same table leaves the loads as they are. -/
theorem WellFormed.replace (h : query.WellFormed schema) {select : SelectQuery}
    (htable : select.table = query.model)
    (hcolumns : ∀ column ∈ select.columns, column = "*" ∨ isIdentifier column)
    (hclause : Clause.WellFormed (.model schema query.model) select.clause) :
    ({ query with select := select } : ModelQuery).WellFormed schema := by
  have hmodel : ({ query with select := select } : ModelQuery).model = query.model := htable
  have hconforms : ({ query with select := select } : ModelQuery).Conforms schema :=
    { known := hmodel ▸ h.conforms.known
      columns := hcolumns
      clause := hmodel ▸ hclause
      distinct := h.conforms.distinct
      relations := hmodel ▸ h.conforms.relations
      models := h.conforms.models }
  exact .intro hconforms h.loads

theorem WellFormed.add (h : query.WellFormed schema) {predicate : Predicate}
    (hpredicate : predicate.WellFormed (.model schema query.model)) (combinator : Combinator) :
    ((Backend.relational schema).add combinator predicate query).WellFormed schema := by
  have hclause :
      Clause.WellFormed (.model schema query.model)
        (query.select.clause.add combinator predicate) :=
    Clause.wellFormed_add.mpr ⟨h.conforms.clause, hpredicate⟩
  exact h.replace rfl h.conforms.columns hclause

theorem WellFormed.addGroup (h : query.WellFormed schema) {inner : Clause}
    (hinner : Clause.WellFormed (.model schema query.model) inner) (combinator : Combinator) :
    ((Backend.relational schema).replace query
      (query.select.addGroup combinator inner)).WellFormed schema := by
  by_cases hempty : inner = []
  · have hsame : query.select.addGroup combinator inner = query.select := by
      rw [hempty]
      rfl
    have hquery : (Backend.relational schema).replace query query.select = query :=
      (Backend.relational_lawful schema).replace_select query
    rw [hsame, hquery]
    exact h
  · have hgroup : (Predicate.group inner).WellFormed (.model schema query.model) :=
      ⟨hempty, hinner⟩
    rw [SelectQuery.addGroup, Clause.addGroup_of_ne_nil hempty]
    exact h.add hgroup combinator

theorem WellFormed.register (h : query.WellFormed schema) {load : EagerLoad ModelQuery}
    (hrelation : schema.relation query.model load.name = .ok load.relation)
    (hmodel : load.query.model = load.relation.model) (hload : load.query.WellFormed schema) :
    (query.register load).WellFormed schema := by
  have hmem {other : EagerLoad ModelQuery} (hother : other ∈ (query.register load).eager) :
      other ∈ query.eager ∧ other.name ≠ load.name ∨ other = load := by
    simpa [ModelQuery.register] using hother
  have hdistinct : ((query.register load).eager.map EagerLoad.name).Nodup := by
    have hkept :
        ((query.eager.filter (·.name != load.name)).map EagerLoad.name).Nodup :=
      h.conforms.distinct.sublist (List.filter_sublist.map _)
    rw [ModelQuery.register, List.map_append, List.map_singleton, List.nodup_append]
    refine ⟨hkept, List.pairwise_singleton _ _, ?_⟩
    intro name hname other hother
    obtain ⟨kept, hkeptmem, rfl⟩ := List.mem_map.mp hname
    rw [List.mem_singleton.mp hother]
    simpa using (List.mem_filter.mp hkeptmem).2
  have hconforms : (query.register load).Conforms schema :=
    { known := h.conforms.known
      columns := h.conforms.columns
      clause := h.conforms.clause
      distinct := hdistinct
      relations := by
        intro other hother
        rcases hmem hother with ⟨hold, _⟩ | rfl
        · exact h.conforms.relations other hold
        · exact hrelation
      models := by
        intro other hother
        rcases hmem hother with ⟨hold, _⟩ | rfl
        · exact h.conforms.models other hold
        · exact hmodel }
  refine .intro hconforms ?_
  intro other hother
  rcases hmem hother with ⟨hold, _⟩ | rfl
  · exact h.loads other hold
  · exact hload

end ModelQuery

/-! ## Programs of calls -/

/-- The induction follows the calls, those inside groups and loads included. -/
theorem Backend.Reaches.wellFormed {schema : Schema} {start query : ModelQuery}
    (hreach : (Backend.relational schema).Reaches start query)
    (hstart : start.WellFormed schema) :
    query.model = start.model ∧ query.WellFormed schema := by
  induction hreach with
  | refl query => exact ⟨rfl, hstart⟩
  | project _ h ih =>
      obtain ⟨hmodel, hquery⟩ := ih hstart
      simp only [Backend.project, bind_eq_ok_iff, pure_eq_ok_iff] at h
      obtain ⟨select, hselect, rfl⟩ := h
      obtain ⟨hcolumns, rfl⟩ := SelectQuery.project_eq_ok_iff.mp hselect
      exact ⟨hmodel, hquery.replace rfl hcolumns hquery.conforms.clause⟩
  | compare _ h ih =>
      obtain ⟨hmodel, hquery⟩ := ih hstart
      simp only [Backend.compare, bind_eq_ok_iff, pure_eq_ok_iff,
        Predicate.ofComparison_eq_ok_iff] at h
      obtain ⟨predicate, ⟨hcolumn, rfl⟩, rfl⟩ := h
      refine ⟨hmodel, hquery.add ?_ _⟩
      exact hcolumn
  | null _ h ih =>
      obtain ⟨hmodel, hquery⟩ := ih hstart
      simp only [Backend.null, bind_eq_ok_iff, pure_eq_ok_iff, Predicate.ofNull_eq_ok_iff] at h
      obtain ⟨predicate, ⟨hcolumn, rfl⟩, rfl⟩ := h
      refine ⟨hmodel, hquery.add ?_ _⟩
      exact hcolumn
  | isIn _ h ih =>
      obtain ⟨hmodel, hquery⟩ := ih hstart
      simp only [Backend.isIn, bind_eq_ok_iff, pure_eq_ok_iff, Predicate.ofList_eq_ok_iff] at h
      obtain ⟨predicate, ⟨hcolumn, rfl⟩, rfl⟩ := h
      refine ⟨hmodel, hquery.add ?_ _⟩
      exact hcolumn
  | related _ h ih =>
      obtain ⟨hmodel, hquery⟩ := ih hstart
      simp only [Backend.related, bind_eq_ok_iff, pure_eq_ok_iff, Scope.related_eq_ok_iff] at h
      obtain ⟨predicate, ⟨_, _, relation, hscope, hrelation, hcolumn, rfl⟩, rfl⟩ := h
      refine ⟨hmodel, hquery.add ?_ _⟩
      exact ⟨_, _, relation, _, _, hscope, hrelation, hcolumn, rfl, rfl⟩
  | group _ _ h ih ihbuild =>
      obtain ⟨hmodel, hquery⟩ := ih hstart
      simp only [Backend.group, bind_eq_ok_iff, pure_eq_ok_iff] at h
      obtain ⟨built, hbuilt, rfl⟩ := h
      obtain ⟨hinner, hbuiltForm⟩ := ihbuild _ _ hbuilt hquery.blank
      have hclause := hbuiltForm.conforms.clause
      rw [hinner] at hclause
      exact ⟨hmodel, hquery.addGroup hclause _⟩
  | load _ _ h ih ihbuild =>
      obtain ⟨hmodel, hquery⟩ := ih hstart
      obtain ⟨load, rfl, hrelation, ⟨related, hrelated, hbuilt⟩, rfl⟩ :=
        ModelQuery.load_eq_ok_iff.mp h
      obtain ⟨hload, hloadForm⟩ :=
        ihbuild _ _ hbuilt (ModelQuery.wellFormed_of_ofModel hrelated)
      rw [ModelQuery.eq_of_ofModel hrelated] at hload
      exact ⟨hmodel, hquery.register hrelation hload hloadForm⟩

/-- Neither the calls nor the programs of calls lead out of the well-formed queries on a model. -/
theorem built_query_wellFormed {schema : Schema} {model : String} {fresh : ModelQuery}
    (h : ModelQuery.ofModel schema model = .ok fresh) :
    (∀ query, (Backend.relational schema).Reaches fresh query →
        query.model = model ∧ query.WellFormed schema) ∧
      ∀ steps,
        let left := (BuildStep.runAll (.relational schema) steps fresh).state
        left.model = model ∧ left.WellFormed schema := by
  have hreaches {query : ModelQuery} (hreach : (Backend.relational schema).Reaches fresh query) :
      query.model = model ∧ query.WellFormed schema := by
    obtain ⟨hmodel, hquery⟩ := hreach.wellFormed (ModelQuery.wellFormed_of_ofModel h)
    rw [ModelQuery.eq_of_ofModel h] at hmodel
    exact ⟨hmodel, hquery⟩
  refine ⟨fun query => hreaches, ?_⟩
  intro steps
  exact hreaches (Backend.reaches_runAll (Backend.relational_lawful schema) steps fresh)

/-- Loads within loads; the last step fails inside a load, after that had been begun anew. -/
def librarySteps : List BuildStep :=
  [.project ["authors.name", "*"],
    .load "books"
      [.group .or [.related .or "author" "name" .ne .null, .group .and []],
        .load "author" [.isIn .and "id" [] true],
        .load "author" [.project ["name"]]],
    .load "books" [.project ["title"], .null .and "no name" false]]

theorem library_query_wellFormed :
    let fresh : ModelQuery := { select := { table := "authors" } }
    let run := BuildStep.runAll (.relational libraryStore.schema) librarySteps fresh
    run.failure = some (.invalidIdentifier "no name") ∧
      run.state.eager.map (fun load => (load.name, load.query.eager.map EagerLoad.name)) =
        [("books", ["author"])] ∧
        run.state.model = "authors" ∧ run.state.WellFormed libraryStore.schema := by
  intro fresh run
  have hfresh : ModelQuery.ofModel libraryStore.schema "authors" = .ok fresh := by
    rfl
  exact ⟨rfl, rfl, (built_query_wellFormed hfresh).2 librarySteps⟩

end QueryShape
