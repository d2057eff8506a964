import QueryShape.Proofs.ListAnswers

/-!
# Plain requests

A request is plain when it asks for no relationships and none of its conditions, at any
depth, tests a relation.  The conditions that test no relation have the same predicates in
every scope, so the terms of a plain filter are added alike, one after another and inside
groups, and end at the same fault.  Applied to a new query a plain request therefore leaves
the same select query and reports the same failure, whichever kind of backend is asked, and
no load is registered.

A plain backend refuses all other requests: relationships before anything is applied, and a
test of a relation at the latest where it stands.
-/

namespace QueryShape

namespace Request

/-- The conditions of a request at every depth of its filter. -/
def conditions (request : Request) : List Condition :=
  (request.filter.getD .empty).conditions

def TestsRelation (request : Request) : Prop :=
  ∃ condition ∈ request.conditions, condition.kind.testsRelation = true

instance (request : Request) : Decidable request.TestsRelation :=
  List.decidableBEx _ request.conditions

structure Plain (request : Request) : Prop where
  no_relationships : request.relationships = []
  no_tests : ¬ request.TestsRelation

end Request

/-! ## Filters that test no relation -/

theorem Condition.predicate_eq_of_testsRelation {condition : Condition}
    (h : condition.kind.testsRelation = false) (scope other : Scope) (combinator : Combinator) :
    condition.predicate scope combinator = condition.predicate other combinator := by
  obtain ⟨kind, args⟩ := condition
  cases kind with
  | relation => cases h
  | compare | null | notNull | isIn | notIn => rfl

section

variable (scope other : Scope) (limit : Nat)

mutual

/-- The failure and the terms that were added before it agree as well. -/
theorem FilterTerm.addTo_eq_of_testsRelation :
    ∀ {term : FilterTerm},
      (∀ condition ∈ term.conditions, condition.kind.testsRelation = false) →
        ∀ (room : Nat) (combinator : Combinator) (clause : Clause),
          term.addTo scope limit room combinator clause =
            term.addTo other limit room combinator clause
  | .condition condition, h, room, combinator, clause => by
      have hcondition : condition.kind.testsRelation = false := h condition List.mem_cons_self
      simp only [FilterTerm.addTo,
        Condition.predicate_eq_of_testsRelation hcondition scope other combinator]
  | .group chain, _, 0, combinator, clause => rfl
  | .group chain, h, room + 1, combinator, clause => by
      have hchain :
          chain.addTo scope limit room .and [] = chain.addTo other limit room .and [] :=
        FilterChain.addTo_eq_of_testsRelation h room .and []
      simp only [FilterTerm.addTo, hchain]

theorem FilterChain.addTo_eq_of_testsRelation :
    ∀ {chain : FilterChain},
      (∀ condition ∈ chain.conditions, condition.kind.testsRelation = false) →
        ∀ (room : Nat) (combinator : Combinator) (clause : Clause),
          chain.addTo scope limit room combinator clause =
            chain.addTo other limit room combinator clause
  | .one term, h, room, combinator, clause =>
      FilterTerm.addTo_eq_of_testsRelation h room combinator clause
  | .join term next rest, h, room, combinator, clause => by
      obtain ⟨hterm, hrest⟩ := List.forall_mem_append.mp h
      have hfirst :
          term.addTo scope limit room combinator clause =
            term.addTo other limit room combinator clause :=
        FilterTerm.addTo_eq_of_testsRelation hterm room combinator clause
      have hlater :
          rest.addTo scope limit room next = rest.addTo other limit room next :=
        funext (FilterChain.addTo_eq_of_testsRelation hrest room next)
      simp only [FilterChain.addTo, hfirst, hlater]

end

theorem Filter.addTo_eq_of_testsRelation {filter : Filter}
    (h : ∀ condition ∈ filter.conditions, condition.kind.testsRelation = false)
    (clause : Clause) :
    filter.addTo scope limit clause = filter.addTo other limit clause := by
  cases limit with
  | zero => rfl
  | succ room =>
      cases filter with
      | empty => rfl
      | chain terms =>
          exact FilterChain.addTo_eq_of_testsRelation scope other (room + 1) h room .and clause

end

/-- A plain backend has no predicate for a test of a relation. -/
theorem Condition.Denotes.testsRelation_eq_false {condition : Condition} {predicate : Predicate}
    (h : condition.Denotes .plain predicate) :
    condition.kind.testsRelation = false := by
  cases h with
  | related hscope => cases hscope
  | isNull | isNotNull | compare | null | notNull | isIn | notIn => rfl

theorem Filter.failure_addTo_plain_ne_none {filter : Filter} {condition : Condition}
    (hmem : condition ∈ filter.conditions) (htests : condition.kind.testsRelation = true)
    (limit : Nat) (clause : Clause) :
    (filter.addTo .plain limit clause).failure ≠ none := by
  intro hnone
  obtain ⟨_, _, hconditions⟩ := (filter.applied_addTo .plain limit clause).succeeds_iff.mp hnone
  obtain ⟨predicate, hdenotes⟩ := hconditions condition hmem
  rw [hdenotes.testsRelation_eq_false] at htests
  cases htests

/-! ## Runs on both kinds of backend -/

namespace Backend

/-- A run on a relational query that acts on its select query as a run on a plain query does. -/
def Lifts (query : ModelQuery) (run : Run ModelQuery) (plain : Run SelectQuery) : Prop :=
  run = ⟨{ query with select := plain.state }, plain.failure⟩

variable {schema : Schema} {query : ModelQuery} {run : Run ModelQuery} {plain : Run SelectQuery}

theorem Lifts.andThen (h : Lifts query run plain) {next : ModelQuery → Run ModelQuery}
    {plainNext : SelectQuery → Run SelectQuery}
    (hnext : ∀ select, Lifts query (next { query with select := select }) (plainNext select)) :
    Lifts query (run.andThen next) (plain.andThen plainNext) := by
  obtain ⟨select, failure⟩ := plain
  rw [Lifts] at h
  subst h
  cases failure with
  | none => exact hnext select
  | some e => rfl

theorem lifts_columns (schema : Schema) (columns : List String) (query : ModelQuery) :
    Lifts query ((relational schema).columns columns query)
      (Backend.plain.columns columns query.select) := by
  obtain ⟨select, eager⟩ := query
  unfold Backend.columns
  split
  next => rfl
  next =>
    simp only [Lifts, Run.step, project, plain, relational, id]
    cases select.project columns with
    | ok projected => rfl
    | error e => rfl

theorem lifts_filter (schema : Schema) (limit : Nat) {filter : Filter}
    (h : ∀ condition ∈ filter.conditions, condition.kind.testsRelation = false)
    (query : ModelQuery) :
    Lifts query ((relational schema).filter limit filter query)
      (Backend.plain.filter limit filter query.select) := by
  have hclause :
      filter.addTo (.model schema query.model) limit query.select.clause =
        filter.addTo .plain limit query.select.clause :=
    Filter.addTo_eq_of_testsRelation _ _ limit h _
  simp only [Lifts, Backend.filter, relational, plain, id, hclause]

end Backend

/-! ## Applying requests -/

namespace Request

variable {request : Request}

theorem lifts_applyBase (h : ¬ request.TestsRelation) (schema : Schema) (limit : Nat)
    (query : ModelQuery) :
    Backend.Lifts query (request.applyBase (.relational schema) limit query)
      (request.applyBase .plain limit query.select) := by
  refine (Backend.lifts_columns schema request.columns query).andThen ?_
  intro select
  cases hfilter : request.filter with
  | none => rfl
  | some filter =>
      refine Backend.lifts_filter schema limit ?_ { query with select := select }
      intro condition hmem
      rw [Bool.eq_false_iff]
      intro htests
      refine h ⟨condition, ?_, htests⟩
      rw [conditions, hfilter]
      exact hmem

theorem applyPlain_of_relationships_eq_nil {Q : Type} (h : request.relationships = [])
    (backend : Backend Q) (limit : Nat) (query : Q) :
    request.applyPlain backend limit query = request.applyBase backend limit query := by
  rw [applyPlain, h]
  rfl

/-- Without relationships there is nothing to register. -/
theorem apply_of_relationships_eq_nil (h : request.relationships = []) (schema : Schema)
    (limit : Nat) (query : ModelQuery) :
    request.apply schema limit query = request.applyBase (.relational schema) limit query := by
  rw [apply, h]
  obtain ⟨state, failure⟩ := request.applyBase (.relational schema) limit query
  cases failure <;> rfl

theorem Plain.lifts_apply (h : request.Plain) (schema : Schema) (limit : Nat)
    (query : ModelQuery) :
    Backend.Lifts query (request.apply schema limit query)
      (request.applyPlain .plain limit query.select) := by
  rw [apply_of_relationships_eq_nil h.no_relationships,
    applyPlain_of_relationships_eq_nil h.no_relationships]
  exact lifts_applyBase h.no_tests schema limit query

theorem applyPlain_of_relationships_ne_nil (h : request.relationships ≠ []) (limit : Nat)
    (query : SelectQuery) :
    request.applyPlain .plain limit query =
      ⟨query, some (.unsupportedLoad (request.relationships.map Relationship.name))⟩ := by
  have hnames : (request.relationships.map Relationship.name).isEmpty = false := by
    simpa using h
  simp [applyPlain, Backend.ensureLoads, hnames, Backend.plain]

theorem failure_applyPlain_of_testsRelation (h : request.TestsRelation) (limit : Nat)
    (query : SelectQuery) :
    (request.applyPlain .plain limit query).failure ≠ none := by
  by_cases hnone : request.relationships = []
  · obtain ⟨condition, hmem, htests⟩ := h
    rw [applyPlain_of_relationships_eq_nil hnone, applyBase, Run.failure_andThen]
    intro hfailure
    obtain ⟨_, hfilter⟩ := Option.or_eq_none_iff.mp hfailure
    cases hasked : request.filter with
    | none =>
        rw [conditions, hasked] at hmem
        cases hmem
    | some filter =>
        rw [conditions, hasked] at hmem
        rw [hasked] at hfilter
        exact Filter.failure_addTo_plain_ne_none hmem htests limit _ hfilter
  · rw [applyPlain_of_relationships_ne_nil hnone]
    exact Option.some_ne_none _

end Request

/-- The select query holds the columns, the clause, the text and the values, so all of them agree,
and they do so after a failure too. -/
theorem plain_request_applies_alike {schema : Schema} {model : String}
    (hknown : ∃ definition, schema.model model = .ok definition) (hname : isIdentifier model) :
    ∃ select query,
      SelectQuery.ofTable model = .ok select ∧ ModelQuery.ofModel schema model = .ok query ∧
        ∀ (limit : Nat) (request : Request),
          let plain := request.applyPlain .plain limit select
          let full := request.apply schema limit query
          (request.Plain →
              full.failure = plain.failure ∧ full.state.select = plain.state ∧
                full.state.eager = []) ∧
            (request.relationships ≠ [] →
              plain =
                ⟨select, some (.unsupportedLoad (request.relationships.map Relationship.name))⟩) ∧
              (request.TestsRelation → plain.failure ≠ none) := by
  have hselect : SelectQuery.ofTable model = .ok { table := model } :=
    SelectQuery.ofTable_eq_ok_iff.mpr ⟨hname, rfl⟩
  have hquery : ModelQuery.ofModel schema model = .ok { select := { table := model } } :=
    ModelQuery.ofModel_eq_ok_iff.mpr ⟨hknown, hname, rfl⟩
  refine ⟨_, _, hselect, hquery, ?_⟩
  intro limit request plain full
  refine ⟨?_, ?_, ?_⟩
  · intro hplain
    have hfull : full = ⟨{ select := plain.state }, plain.failure⟩ :=
      hplain.lifts_apply schema limit _
    rw [hfull]
    exact ⟨rfl, rfl, rfl⟩
  · intro hrelationships
    exact Request.applyPlain_of_relationships_ne_nil hrelationships limit _
  · intro htests
    exact Request.failure_applyPlain_of_testsRelation htests limit _

/-- The last term inside the group is faulty. -/
def faultyRequest : Request where
  columns := ["name", "*"]
  filter := some (.chain
    (.join (.condition ⟨.compare, [.text "name", .text "Bo"]⟩) .or
      (.one (.group
        (.join (.condition ⟨.null, [.text "id"]⟩) .and
          (.one (.condition ⟨.null, [.text "no name"]⟩)))))))

/-- Inside its group a relation is tested. -/
def testingRequest : Request where
  filter := some (.chain
    (.one (.group (.one (.condition ⟨.relation, [.text "books", .text "title", .text "A"]⟩)))))

theorem faulty_request_applies_alike :
    let select : SelectQuery := { table := "authors" }
    let plain := faultyRequest.applyPlain .plain 2 select
    let full := faultyRequest.apply libraryStore.schema 2 { select := select }
    plain.failure = some (.invalidIdentifier "no name") ∧
      plain.state.sql = "SELECT name, * FROM authors WHERE name = ?" ∧
        full.failure = plain.failure ∧ full.state.select = plain.state ∧ full.state.eager = [] ∧
          (testingRequest.applyPlain .plain 2 select).failure ≠ none := by
  intro select plain full
  have hknown : ∃ definition, libraryStore.schema.model "authors" = .ok definition := ⟨_, rfl⟩
  obtain ⟨_, _, hselect, hquery, halike⟩ := plain_request_applies_alike hknown (by decide)
  cases hselect
  cases hquery
  have hplain : faultyRequest.Plain := ⟨rfl, by decide⟩
  obtain ⟨hfailure, hstate, heager⟩ := (halike 2 faultyRequest).1 hplain
  exact ⟨rfl, by decide, hfailure, hstate, heager, (halike 2 testingRequest).2.2 (by decide)⟩

end QueryShape
