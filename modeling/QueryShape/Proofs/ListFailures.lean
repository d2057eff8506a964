import QueryShape.Proofs.BuiltQueries

/-!
# Failures of requests for lists

A request for a list is read, and its query is built, before any row is read.  Both depend on
the schema and on the parameters only.  The query carries whatever its execution needs, so
nothing is looked up any more.  An execution that takes no more than names from the query and
looks every model and every relation up in the schema could fail at each relation test and at
each load, at every level.  For a built query it does not fail, and it finds the same records.
Stores with the same schema therefore refuse the same requests, with the same errors.
-/

namespace QueryShape

/-! ## Execution by names -/

mutual

def Predicate.lookUp (schema : Schema) (model : String) : Predicate → Except Error Predicate
  | .compare column op value => .ok (.compare column op value)
  | .null column negated => .ok (.null column negated)
  | .isIn column values negated => .ok (.isIn column values negated)
  | .related name _ column test => do
    let relation ← schema.relation model name
    return .related name (relation.correlation model) column test
  | .group terms => do return .group (← Clause.lookUp schema model terms)

/-- The clause with the correlations that the schema declares for the relations of a model. -/
def Clause.lookUp (schema : Schema) (model : String) :
    List (Combinator × Predicate) → Except Error Clause
  | [] => .ok []
  | (combinator, predicate) :: rest => do
    let predicate ← predicate.lookUp schema model
    let rest ← Clause.lookUp schema model rest
    return (combinator, predicate) :: rest

end

mutual

/-- The records of a model that a query finds, with its loads.  Models, and what relations join,
are those of the schema. -/
def ModelQuery.fetchByName (store : Store) (model : String) :
    ModelQuery → Except Error (List Record)
  | ⟨select, eager⟩ => do
    let _ ← store.schema.model model
    let clause ← Clause.lookUp store.schema model select.clause
    let selected := (store.rows model).filter fun row => Clause.holds store.rows row clause
    ModelQuery.attachByName store model eager
      (selected.map fun row => { model := model, attributes := row })

def ModelQuery.attachByName (store : Store) (model : String) :
    List (EagerLoad ModelQuery) → List Record → Except Error (List Record)
  | [], parents => .ok parents
  | ⟨name, _, query⟩ :: rest, parents => do
    let relation ← store.schema.relation model name
    let candidates ← query.fetchByName store relation.model
    ModelQuery.attachByName store model rest <| parents.map fun parent =>
      parent.setRelation name (relation.pick query.select.columns candidates parent)

end

def Store.getByName (store : Store) (query : ModelQuery) : Except Error (List Record) := do
  let records ← query.fetchByName store query.model
  return records.map fun record => record.project query.select.columns

/-! ## Names of well-formed queries -/

mutual

theorem Predicate.WellFormed.lookUp_eq_ok {schema : Schema} {model : String} :
    ∀ predicate : Predicate, predicate.WellFormed (.model schema model) →
      predicate.lookUp schema model = .ok predicate
  | .compare _ _ _, _ => rfl
  | .null _ _, _ => rfl
  | .isIn _ _ _, _ => rfl
  | .related name correlation column test, h => by
      rw [Predicate.WellFormed] at h
      obtain ⟨_, _, relation, _, _, hscope, hrelation, _, rfl, _⟩ := h
      cases hscope
      simp only [Predicate.lookUp, bind_eq_ok_iff, pure_eq_ok_iff]
      exact ⟨relation, hrelation, rfl⟩
  | .group terms, h => by
      rw [Predicate.WellFormed] at h
      have hterms : Clause.lookUp schema model terms = .ok terms :=
        Clause.WellFormed.lookUp_eq_ok terms h.2
      simp only [Predicate.lookUp, bind_eq_ok_iff, pure_eq_ok_iff]
      exact ⟨terms, hterms, rfl⟩

theorem Clause.WellFormed.lookUp_eq_ok {schema : Schema} {model : String} :
    ∀ clause : List (Combinator × Predicate), Clause.WellFormed (.model schema model) clause →
      Clause.lookUp schema model clause = .ok clause
  | [], _ => rfl
  | (combinator, predicate) :: rest, h => by
      rw [Clause.WellFormed] at h
      have hpredicate : predicate.lookUp schema model = .ok predicate :=
        Predicate.WellFormed.lookUp_eq_ok predicate h.1
      have hrest : Clause.lookUp schema model rest = .ok rest :=
        Clause.WellFormed.lookUp_eq_ok rest h.2
      simp only [Clause.lookUp, bind_eq_ok_iff, pure_eq_ok_iff]
      exact ⟨predicate, hpredicate, rest, hrest, rfl⟩

end

/-- A load that follows the relation of its name to a well-formed query on the related model. -/
structure EagerLoad.Follows (schema : Schema) (model : String) (load : EagerLoad ModelQuery) :
    Prop where
  relation_eq : schema.relation model load.name = .ok load.relation
  model_eq : load.query.model = load.relation.model
  wellFormed : load.query.WellFormed schema

theorem ModelQuery.WellFormed.follows {schema : Schema} {query : ModelQuery}
    (h : query.WellFormed schema) :
    ∀ load ∈ query.eager, load.Follows schema query.model := by
  intro load hload
  exact
    { relation_eq := h.conforms.relations load hload
      model_eq := h.conforms.models load hload
      wellFormed := h.loads load hload }

mutual

theorem ModelQuery.WellFormed.fetchByName_eq_ok {store : Store} :
    ∀ query : ModelQuery, query.WellFormed store.schema →
      query.fetchByName store query.model = .ok (query.fetch store)
  | ⟨select, eager⟩, h => by
      obtain ⟨definition, hdefinition⟩ := h.conforms.known
      have hclause : Clause.lookUp store.schema select.table select.clause = .ok select.clause :=
        Clause.WellFormed.lookUp_eq_ok select.clause h.conforms.clause
      unfold ModelQuery.fetchByName ModelQuery.fetch
      simp only [bind_eq_ok_iff]
      refine ⟨definition, hdefinition, select.clause, hclause, ?_⟩
      exact ModelQuery.attachByName_eq_ok eager h.follows _

/-- Attaching one load after another keeps to the relations of the schema. -/
theorem ModelQuery.attachByName_eq_ok {store : Store} {model : String} :
    ∀ loads : List (EagerLoad ModelQuery),
      (∀ load ∈ loads, load.Follows store.schema model) → ∀ parents,
        ModelQuery.attachByName store model loads parents =
          .ok (ModelQuery.attachAll store loads parents)
  | [], _, _ => rfl
  | ⟨name, relation, query⟩ :: rest, h, parents => by
      obtain ⟨hload, hrest⟩ := List.forall_mem_cons.mp h
      have hmodel : query.model = relation.model := hload.model_eq
      have hcandidates : query.fetchByName store relation.model = .ok (query.fetch store) := by
        rw [← hmodel]
        exact ModelQuery.WellFormed.fetchByName_eq_ok query hload.wellFormed
      unfold ModelQuery.attachByName ModelQuery.attachAll
      simp only [bind_eq_ok_iff]
      refine ⟨relation, hload.relation_eq, query.fetch store, hcandidates, ?_⟩
      exact ModelQuery.attachByName_eq_ok rest hrest _

end

theorem Store.getByName_of_wellFormed {store : Store} {query : ModelQuery}
    (h : query.WellFormed store.schema) :
    store.getByName query = .ok (store.get query) := by
  have hfetch : query.fetchByName store query.model = .ok (query.fetch store) :=
    ModelQuery.WellFormed.fetchByName_eq_ok query h
  rw [Store.getByName, hfetch]
  rfl

/-- A query that was not built may load what the schema does not declare. -/
example :
    let stray : EagerLoad ModelQuery :=
      { name := "pets", relation := ⟨.hasMany, "pets", "owner_id", "id"⟩
        query := { select := { table := "pets" } } }
    let query : ModelQuery := { select := { table := "authors" }, eager := [stray] }
    libraryStore.getByName query = .error (.unknownRelation "authors" "pets") :=
  rfl

/-! ## Plans of requests -/

namespace Service

/-- The request of some parameters and its query, for which no row is read. -/
def plan (service : Service) (schema : Schema) (params : Json) :
    Except Error (Request × ModelQuery) := do
  let request ← service.parse params
  let fresh ← ModelQuery.ofModel schema service.model
  let query ← (request.apply schema service.config.maxDepth fresh).result
  return (request, query)

/-- The answer to a request for a list, once the records are found. -/
def answerRecords (request : Request) (records : List Record) : Json :=
  answer (.array ((records.map (Record.shape request.columns request.relationships)).map .object))

variable {service : Service}

theorem built_of_plan {schema : Schema} {params : Json} {request : Request} {query : ModelQuery}
    (h : service.plan schema params = .ok (request, query)) :
    query.Built schema := by
  simp only [plan, bind_eq_ok_iff, pure_eq_ok_iff] at h
  obtain ⟨_, _, fresh, hfresh, _, hquery, hplan⟩ := h
  cases hplan
  exact ModelQuery.built_apply hfresh hquery

theorem answerAll_eq_map_plan (store : Store) (params : Json) :
    service.answerAll store params =
      (service.plan store.schema params).map fun planned =>
        answerRecords planned.1 (store.get planned.2) := by
  simp only [plan, map_bind_eq]
  rfl

/-- A request for a list fails exactly when it cannot be planned. -/
theorem answerAll_eq_error_iff {store : Store} {params : Json} {e : Error} :
    service.answerAll store params = .error e ↔ service.plan store.schema params = .error e := by
  rw [answerAll_eq_map_plan]
  exact map_eq_error_iff

end Service

/-- Rows decide nothing about the failures of requests for lists; once the query is built no
failure is left for its execution. -/
theorem list_failures_depend_on_schema :
    (∀ (service : Service) (first second : Store) (params : Json),
        first.schema = second.schema → ∀ e,
          service.answerAll first params = .error e ↔
            service.answerAll second params = .error e) ∧
      (∀ (service : Service) (store : Store) (params : Json),
        service.answerAll store params =
          service.plan store.schema params >>= fun planned =>
            (store.getByName planned.2).map (Service.answerRecords planned.1)) ∧
        ∀ (store : Store) (query : ModelQuery), query.Built store.schema →
          store.getByName query = .ok (store.get query) := by
  have hget (store : Store) (query : ModelQuery) (hbuilt : query.Built store.schema) :
      store.getByName query = .ok (store.get query) :=
    Store.getByName_of_wellFormed hbuilt.wellFormed
  refine ⟨?_, ?_, hget⟩
  · intro service first second params hschema e
    rw [Service.answerAll_eq_error_iff, Service.answerAll_eq_error_iff, hschema]
  · intro service store params
    rw [Service.answerAll_eq_map_plan]
    cases hplan : service.plan store.schema params with
    | error e => rfl
    | ok planned =>
        have hfound : store.getByName planned.2 = .ok (store.get planned.2) :=
          hget store planned.2 (Service.built_of_plan hplan)
        simp only [bind, Except.bind, hfound, Except.map]

/-- Asks for the books of an author with a relation of each book. -/
def nestedRelation (name : String) : Json :=
  .object
    [("_relationships", .array
      [.object [("name", .text "books"), ("relationships", .array [.text name])]])]

theorem library_list_failures :
    let bare : Store := { schema := libraryStore.schema }
    let fresh : ModelQuery := { select := { table := "authors" } }
    let built := (BuildStep.runAll (.relational libraryStore.schema) librarySteps fresh).state
    let failure : Except Error Json := .error (.unknownRelation "books" "publisher")
    libraryService.answerAll libraryStore (nestedRelation "publisher") = failure ∧
      libraryService.answerAll bare (nestedRelation "publisher") = failure ∧
        libraryStore.getByName built = .ok (libraryStore.get built) ∧
          (libraryStore.get built).length = 3 := by
  intro bare fresh built failure
  have hfailure : libraryService.answerAll libraryStore (nestedRelation "publisher") = failure :=
    rfl
  have hfresh : ModelQuery.ofModel libraryStore.schema "authors" = .ok fresh := rfl
  have hbuilt : built.Built libraryStore.schema := ModelQuery.built_runAll hfresh librarySteps
  obtain ⟨hsame, _, hget⟩ := list_failures_depend_on_schema
  exact ⟨hfailure, (hsame libraryService libraryStore bare _ rfl _).mp hfailure,
    hget libraryStore built hbuilt, rfl⟩

end QueryShape
