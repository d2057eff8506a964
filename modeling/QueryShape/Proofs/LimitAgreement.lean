import QueryShape.Proofs.FilterGrammar
import QueryShape.Proofs.ListAnswers
import QueryShape.Proofs.RelationshipGrammar

/-!
# Agreement of the limits of nesting

Reading a request and applying it count levels of nesting apart from each other.  A
value within the limit is applied without a report of too deep a nesting, whatever
else may be wrong with it: this is followed through the terms of a filter with the
levels that are left, and through a list of relationships with those that are left
to it.  What is read fits the limit, so a request that was read is never refused for
its nesting later on.
-/

namespace QueryShape

/-- The outcome is not the report of too deep a nesting. -/
def NotTooDeep {α : Type} (outcome : Except Error α) : Prop :=
  ∀ reported, outcome ≠ .error (.nestingTooDeep reported)

namespace NotTooDeep

variable {α β σ : Type}

theorem ok (a : α) : NotTooDeep (.ok a) := by
  intro reported h
  cases h

theorem error {e : Error} (he : ∀ reported, e ≠ .nestingTooDeep reported) :
    NotTooDeep (.error e : Except Error α) := by
  intro reported h
  exact he reported (Except.error.inj h)

theorem bind {x : Except Error α} {f : α → Except Error β} (hx : NotTooDeep x)
    (hf : ∀ a, NotTooDeep (f a)) :
    NotTooDeep (x >>= f) := by
  cases x with
  | ok a => exact hf a
  | error e =>
      intro reported h
      cases h
      exact hx reported rfl

theorem map {x : Except Error α} (hx : NotTooDeep x) (f : α → β) :
    NotTooDeep (x.map f) :=
  hx.bind fun a => .ok (f a)

theorem forM {check : α → Except Error Unit} (hcheck : ∀ item, NotTooDeep (check item))
    (items : List α) :
    NotTooDeep (items.forM check) := by
  rw [List.forM_eq_forM]
  induction items with
  | nil => exact ok ()
  | cons item rest ih =>
      rw [List.forM_cons]
      exact (hcheck item).bind fun _ => ih

theorem step {state : σ} {operation : σ → Except Error σ} (h : NotTooDeep (operation state)) :
    NotTooDeep (Run.step state operation).result := by
  cases hop : operation state with
  | ok next =>
      rw [Run.step_of_ok hop]
      exact ok next
  | error e =>
      rw [Run.state_step_of_error hop]
      rwa [hop] at h

theorem andThen {run : Run σ} {next : σ → Run σ} (hrun : NotTooDeep run.result)
    (hnext : ∀ state, NotTooDeep (next state).result) :
    NotTooDeep (run.andThen next).result := by
  obtain ⟨state, failure⟩ := run
  cases failure with
  | none => exact hnext state
  | some e => exact hrun

/-- The state that a run has reached does not matter. -/
theorem of_failure_eq {run : Run α} {other : Run β} (h : NotTooDeep run.result)
    (heq : other.failure = run.failure) :
    NotTooDeep other.result := by
  obtain ⟨state, failure⟩ := run
  obtain ⟨reached, found⟩ := other
  cases heq
  cases failure with
  | none => exact ok reached
  | some e => exact error fun reported he => h reported (congrArg Except.error he)

end NotTooDeep

/-! ## Operations without levels -/

theorem identifier_notTooDeep (s : String) :
    NotTooDeep (identifier s) := by
  unfold identifier
  split
  next => exact .ok s
  next => exact .error nofun

theorem Schema.model_notTooDeep (schema : Schema) (name : String) :
    NotTooDeep (schema.model name) := by
  unfold Schema.model
  split
  next definition _ => exact .ok definition
  next => exact .error nofun

theorem Schema.relation_notTooDeep (schema : Schema) (model name : String) :
    NotTooDeep (schema.relation model name) := by
  refine (schema.model_notTooDeep model).bind fun definition => ?_
  split
  next relation _ => exact .ok relation
  next => exact .error nofun

theorem Scope.related_notTooDeep (scope : Scope) (relation column : String) (op : Comparison)
    (value : Json) :
    NotTooDeep (scope.related relation column op value) := by
  cases scope with
  | plain => exact .error nofun
  | model schema parent =>
      refine (schema.relation_notTooDeep parent relation).bind fun definition => ?_
      exact (identifier_notTooDeep column).bind fun column => .ok _

namespace Condition

theorem nameArg_notTooDeep (kind : ConditionKind) (args : List Json) (index : Nat)
    (role : ArgumentRole) :
    NotTooDeep (nameArg kind args index role) := by
  unfold nameArg
  split
  next name _ => exact .ok name
  next => exact .error nofun

theorem expectCount_notTooDeep (kind : ConditionKind) (args : List Json) (count : Nat) :
    NotTooDeep (expectCount kind args count) := by
  unfold expectCount
  split
  next => exact .ok ()
  next => exact .error nofun

theorem comparison_notTooDeep (kind : ConditionKind) (args : List Json) (offset : Nat) :
    NotTooDeep (comparison kind args offset) := by
  unfold comparison
  split
  next value _ => exact .ok (Comparison.eq, value)
  next op value _ =>
    split
    next op _ => exact .ok (op, value)
    next => exact .error nofun
  next => exact .error nofun

theorem comparePredicate_notTooDeep (column : String) (op : Comparison) (value : Json) :
    NotTooDeep (comparePredicate column op value) := by
  unfold comparePredicate
  split <;> exact (identifier_notTooDeep column).bind fun column => .ok _

theorem nullPredicate_notTooDeep (kind : ConditionKind) (args : List Json) (negated : Bool) :
    NotTooDeep (nullPredicate kind args negated) := by
  refine (expectCount_notTooDeep kind args 1).bind fun _ => ?_
  refine (nameArg_notTooDeep kind args 0 .column).bind fun column => ?_
  exact (identifier_notTooDeep column).bind fun column => .ok _

theorem listPredicate_notTooDeep (kind : ConditionKind) (args : List Json) (negated : Bool) :
    NotTooDeep (listPredicate kind args negated) := by
  refine (expectCount_notTooDeep kind args 2).bind fun _ => ?_
  refine (nameArg_notTooDeep kind args 0 .column).bind fun column => ?_
  split
  next values _ => exact (identifier_notTooDeep column).bind fun column => .ok _
  next => exact .error nofun

theorem relationPredicate_notTooDeep (scope : Scope) (args : List Json) :
    NotTooDeep (relationPredicate scope args) := by
  refine (nameArg_notTooDeep .relation args 0 .relation).bind fun relation => ?_
  refine (nameArg_notTooDeep .relation args 1 .column).bind fun column => ?_
  refine (comparison_notTooDeep .relation args 2).bind fun test => ?_
  exact scope.related_notTooDeep relation column test.1 test.2

theorem predicate_notTooDeep (scope : Scope) (combinator : Combinator) (condition : Condition) :
    NotTooDeep (condition.predicate scope combinator) := by
  obtain ⟨kind, args⟩ := condition
  cases kind with
  | compare =>
      refine (nameArg_notTooDeep .compare args 0 .column).bind fun column => ?_
      refine (comparison_notTooDeep .compare args 1).bind fun test => ?_
      exact comparePredicate_notTooDeep column test.1 test.2
  | null => exact nullPredicate_notTooDeep .null args false
  | notNull => exact nullPredicate_notTooDeep .notNull args true
  | isIn => exact listPredicate_notTooDeep .isIn args false
  | notIn => exact listPredicate_notTooDeep .notIn args true
  | relation =>
      cases scope with
      | plain => exact .error nofun
      | model schema parent => exact relationPredicate_notTooDeep (.model schema parent) args

end Condition

theorem SelectQuery.project_notTooDeep (columns : List String) (query : SelectQuery) :
    NotTooDeep (query.project columns) := by
  refine (NotTooDeep.forM ?_ columns).bind fun _ => .ok _
  intro column
  unfold checkColumn
  split
  next => exact .ok ()
  next => exact .error nofun

namespace ModelQuery

theorem ofModel_notTooDeep (schema : Schema) (model : String) :
    NotTooDeep (ofModel schema model) := by
  have htable : NotTooDeep (SelectQuery.ofTable model) :=
    (identifier_notTooDeep model).bind fun table => .ok _
  refine (schema.model_notTooDeep model).bind fun _ => ?_
  exact htable.bind fun select => .ok _

/-- A load is as deep as what builds its query. -/
theorem load_notTooDeep (schema : Schema) (name : String)
    {build : ModelQuery → Except Error ModelQuery} (hbuild : ∀ query, NotTooDeep (build query))
    (query : ModelQuery) :
    NotTooDeep (query.load schema name build) := by
  refine (schema.relation_notTooDeep query.model name).bind fun relation => ?_
  refine (ofModel_notTooDeep schema relation.model).bind fun related => ?_
  exact (hbuild related).bind fun built => .ok _

end ModelQuery

theorem Store.loadRelation_notTooDeep (store : Store) (name : String)
    {build : ModelQuery → Except Error ModelQuery} (hbuild : ∀ query, NotTooDeep (build query))
    (record : Record) :
    NotTooDeep (store.loadRelation name build record) := by
  refine (ModelQuery.ofModel_notTooDeep store.schema record.model).bind fun holder => ?_
  refine (holder.load_notTooDeep store.schema name hbuild).bind fun holder => ?_
  split
  next load rest _ => exact .ok _
  next => exact .error nofun

/-! ## Filters within the limit -/

mutual

theorem FilterTerm.addTo_notTooDeep {scope : Scope} {limit : Nat} :
    ∀ {term : FilterTerm} {room : Nat}, term.depth ≤ room → ∀ combinator clause,
      NotTooDeep (term.addTo scope limit room combinator clause).result
  | .condition condition, _, _, combinator, clause =>
      .step ((condition.predicate_notTooDeep scope combinator).map _)
  | .group chain, 0, h, _, _ => absurd chain.depth_pos (Nat.not_lt.mpr h)
  | .group chain, room + 1, h, combinator, clause => by
      have hchain : NotTooDeep (chain.addTo scope limit room .and []).result :=
        FilterChain.addTo_notTooDeep h .and []
      exact .step (hchain.map _)

theorem FilterChain.addTo_notTooDeep {scope : Scope} {limit : Nat} :
    ∀ {chain : FilterChain} {room : Nat}, chain.depth ≤ room + 1 → ∀ combinator clause,
      NotTooDeep (chain.addTo scope limit room combinator clause).result
  | .one term, room, h, combinator, clause =>
      FilterTerm.addTo_notTooDeep (Nat.le_of_succ_le_succ h) combinator clause
  | .join term next rest, room, h, combinator, clause => by
      obtain ⟨hterm, hrest⟩ := Nat.max_le.mp h
      refine .andThen (FilterTerm.addTo_notTooDeep (Nat.le_of_succ_le_succ hterm) _ _) ?_
      intro clause
      exact FilterChain.addTo_notTooDeep hrest next clause

end

theorem Filter.addTo_notTooDeep {scope : Scope} {limit : Nat} {filter : Filter}
    (hlimit : 1 ≤ limit) (hdepth : filter.depth ≤ limit) (clause : Clause) :
    NotTooDeep (filter.addTo scope limit clause).result := by
  cases limit with
  | zero => cases hlimit
  | succ room =>
      cases filter with
      | empty => exact .ok clause
      | chain terms => exact FilterChain.addTo_notTooDeep hdepth .and clause

namespace Backend

variable {Q : Type} (backend : Backend Q)

theorem columns_notTooDeep (columns : List String) (query : Q) :
    NotTooDeep (backend.columns columns query).result := by
  unfold Backend.columns
  split
  next => exact .ok query
  next =>
    have hproject := (backend.select query).project_notTooDeep columns
    exact .step (hproject.bind fun select => .ok _)

theorem filter_notTooDeep {limit : Nat} {filter : Filter} (hlimit : 1 ≤ limit)
    (hdepth : filter.depth ≤ limit) (query : Q) :
    NotTooDeep (backend.filter limit filter query).result := by
  have hclause : NotTooDeep
      (filter.addTo (backend.scope query) limit (backend.select query).clause).result :=
    Filter.addTo_notTooDeep hlimit hdepth _
  exact hclause.of_failure_eq rfl

end Backend

/-! ## Relationships within the limit -/

mutual

/-- Only a list with an entry has filters, so the limit leaves a level for each of them. -/
theorem Relationship.constrain_notTooDeep {schema : Schema} {limit : Nat} :
    ∀ {relationship : Relationship} {room : Nat}, room < limit →
      EntryFits limit room relationship → ∀ query,
        NotTooDeep (relationship.constrain schema limit room query).result
  | .short name columns, _, _, _, query =>
      (Backend.relational schema).columns_notTooDeep columns query
  | .full name columns filter nested, room, hroom, hfits, query => by
      obtain ⟨hlevels, hdepths⟩ := hfits
      obtain ⟨hfilter, hnested⟩ := Nat.max_le.mp hdepths
      have hlimit : 1 ≤ limit := Nat.one_le_of_lt hroom
      refine .andThen (.andThen ?_ fun query => ?_) fun query => ?_
      · exact (Backend.relational schema).columns_notTooDeep columns query
      · exact (Backend.relational schema).filter_notTooDeep hlimit hfilter query
      · exact Relationship.registerAll_notTooDeep hroom.le ⟨hlevels, hnested⟩ query

theorem Relationship.registerAll_notTooDeep {schema : Schema} {limit : Nat} :
    ∀ {relationships : List Relationship} {room : Nat}, room ≤ limit →
      Fits limit room relationships → ∀ query,
        NotTooDeep (Relationship.registerAll schema limit room relationships query).result
  | [], _, _, _, query => .ok query
  | relationship :: rest, 0, _, hfits, _ =>
      absurd hfits.1 (by simp [Relationship.height])
  | relationship :: rest, room + 1, hroom, hfits, query => by
      obtain ⟨hentry, hrest⟩ := List.forall_mem_cons.mp (Relationship.fits_succ_iff.mp hfits)
      have hbuild : ∀ related,
          NotTooDeep (relationship.constrain schema limit room related).result :=
        Relationship.constrain_notTooDeep hroom hentry
      refine .andThen (.step (ModelQuery.load_notTooDeep schema relationship.name hbuild query)) ?_
      intro query
      exact Relationship.registerAll_notTooDeep hroom (Relationship.fits_succ_iff.mpr hrest) query

end

namespace Relationship

theorem loadEach_notTooDeep {store : Store} {limit room : Nat} {relationships : List Relationship}
    (hroom : room < limit) (hfits : Fits limit (room + 1) relationships) (record : Record) :
    NotTooDeep (loadEach store limit room relationships record).result := by
  rw [fits_succ_iff] at hfits
  induction relationships generalizing record with
  | nil => exact .ok record
  | cons relationship rest ih =>
      obtain ⟨hentry, hrest⟩ := List.forall_mem_cons.mp hfits
      have hbuild : ∀ related,
          NotTooDeep (relationship.constrain store.schema limit room related).result :=
        constrain_notTooDeep hroom hentry
      have hload := store.loadRelation_notTooDeep relationship.name hbuild record
      exact .andThen (.step hload) (ih hrest)

theorem loadOnto_notTooDeep {store : Store} {limit : Nat} {relationships : List Relationship}
    (hfits : Fits limit limit relationships) (record : Record) :
    NotTooDeep (loadOnto store limit relationships record).result := by
  cases relationships with
  | nil => cases limit <;> exact .ok record
  | cons relationship rest =>
      cases limit with
      | zero => exact absurd hfits.1 (by simp [height])
      | succ room => exact loadEach_notTooDeep (Nat.lt_succ_self room) hfits record

end Relationship

/-! ## Requests that were read -/

/-- What is known of the nesting of a request that was read. -/
structure Request.Fits (limit : Nat) (request : Request) : Prop where
  filter : ∀ filter, request.filter = some filter → 1 ≤ limit ∧ filter.depth ≤ limit
  relationships : Relationship.Fits limit limit request.relationships

namespace Request

theorem read_eq_ok {params : Json} {name : String} {α : Type} {parse : Json → Except Error α}
    {value : α} (h : read params name parse = .ok value) :
    ∃ raw, parse raw = .ok value := by
  obtain ⟨found, _, hparse⟩ := bind_eq_ok_iff.mp h
  exact ⟨found.getD .null, hparse⟩

theorem fits_of_parse {config : Config} {params : Json} {request : Request}
    (h : parse config params = .ok request) :
    request.Fits config.maxDepth := by
  simp only [parse, bind_eq_ok_iff, pure_eq_ok_iff] at h
  obtain ⟨columns, _, filter, hfilter, relationships, hrelationships, rfl⟩ := h
  obtain ⟨rawFilter, hfilter⟩ := read_eq_ok hfilter
  obtain ⟨rawList, hrelationships⟩ := read_eq_ok hrelationships
  have hdepth : filter.depth ≤ config.maxDepth := (Filter.parseWithin_eq_ok_iff.mp hfilter).2
  refine ⟨?_, (Relationship.parseWithin_eq_ok_iff.mp hrelationships).2⟩
  intro applied happlied
  cases filter with
  | empty => cases happlied
  | chain terms =>
      cases happlied
      exact ⟨Nat.le_trans terms.depth_pos hdepth, hdepth⟩

variable {limit : Nat} {request : Request}

theorem Fits.applyBase {Q : Type} (h : request.Fits limit) (backend : Backend Q) (query : Q) :
    NotTooDeep (request.applyBase backend limit query).result := by
  refine .andThen (backend.columns_notTooDeep request.columns query) ?_
  intro query
  split
  next filter hfilter =>
    obtain ⟨hlimit, hdepth⟩ := h.filter filter hfilter
    exact backend.filter_notTooDeep hlimit hdepth query
  next => exact .ok query

theorem Fits.applyPlain {Q : Type} (h : request.Fits limit) (backend : Backend Q) (query : Q) :
    NotTooDeep (request.applyPlain backend limit query).result := by
  unfold Request.applyPlain Backend.ensureLoads
  split
  next => exact h.applyBase backend query
  next failure hfailure =>
    split at hfailure
    next => cases hfailure
    next =>
      cases hfailure
      exact .error nofun

theorem Fits.apply (h : request.Fits limit) (schema : Schema) (query : ModelQuery) :
    NotTooDeep (request.apply schema limit query).result := by
  refine .andThen (h.applyBase (.relational schema) query) ?_
  exact Relationship.registerAll_notTooDeep (Nat.le_refl limit) h.relationships

end Request

/-- Whatever is wrong with a request that was read, its nesting is not. -/
theorem parsed_request_notTooDeep {service : Service} {params : Json} {request : Request}
    (h : service.parse params = .ok request) :
    (∀ (schema : Schema) (query : ModelQuery),
        NotTooDeep (request.apply schema service.config.maxDepth query).result) ∧
      (∀ (Q : Type) (backend : Backend Q) (query : Q),
        NotTooDeep (request.applyPlain backend service.config.maxDepth query).result) ∧
      ∀ store : Store,
        (∀ record, NotTooDeep (Relationship.loadOnto store service.config.maxDepth
          request.relationships record).result) ∧
        NotTooDeep (service.answerAll store params) ∧
        ∀ id, NotTooDeep (service.answerOne store id params) := by
  have hfits : request.Fits service.config.maxDepth := Request.fits_of_parse h
  refine ⟨hfits.apply, fun Q => hfits.applyPlain, fun store => ⟨?_, ?_, ?_⟩⟩
  · exact Relationship.loadOnto_notTooDeep hfits.relationships
  · unfold Service.answerAll
    rw [h]
    refine (ModelQuery.ofModel_notTooDeep store.schema service.model).bind fun query => ?_
    exact (hfits.apply store.schema query).bind fun query => .ok _
  · intro id
    unfold Service.answerOne
    rw [h]
    have hfind : NotTooDeep (store.find service.model id) :=
      (store.schema.model_notTooDeep service.model).bind fun definition => .ok _
    refine hfind.bind fun found => ?_
    split
    next => exact .error nofun
    next record =>
      refine NotTooDeep.bind ?_ fun record => .ok _
      exact Relationship.loadOnto_notTooDeep hfits.relationships record

/-- Two levels of relationships, the inner one with a filter of two levels. -/
def nestedParameters : Json :=
  .object
    [("_relationships", .array
      [.object
        [("name", .text "books"), ("relationships", .array
          [.object
            [("name", .text "author"), ("filters", .array
              [.array [.object [("args", .array [.text "name", .text "Ann"])]]])]])]])]

def nestedRequest : Request where
  relationships :=
    [.full "books" [] .empty
      [.full "author" []
        (.chain (.one (.group (.one (.condition ⟨.compare, [.text "name", .text "Ann"]⟩))))) []]]

def limitedService (limit : Nat) : Service :=
  { libraryService with config := { maxDepth := limit } }

/-- The same parameters are refused as soon as they are read or not at all. -/
theorem nested_request_notTooDeep :
    (limitedService 1).parse nestedParameters = .error (.nestingTooDeep 1) ∧
      (limitedService 2).parse nestedParameters = .ok nestedRequest ∧
        (∀ query, NotTooDeep (nestedRequest.apply libraryStore.schema 2 query).result) ∧
        ∀ id, NotTooDeep ((limitedService 2).answerOne libraryStore id nestedParameters) := by
  have hparse : (limitedService 2).parse nestedParameters = .ok nestedRequest := by
    rfl
  have hkept := parsed_request_notTooDeep hparse
  exact ⟨rfl, hparse, hkept.1 libraryStore.schema, (hkept.2.2 libraryStore).2.2⟩

end QueryShape
