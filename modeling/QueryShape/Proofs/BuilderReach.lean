import QueryShape.Proofs.WellFormedClause
import QueryShape.Query.Step

/-!
# Queries that builder calls reach

A query is built by calls, each of which may fail, and a group or a load is built by
calls on a query of its own.  A filter is nothing more than a row of such calls.  What
holds of a new query and is kept by each call holds of every query that is reached.  So
the scope of a query never changes, and its clause stays well formed.
-/

namespace QueryShape

namespace Backend

variable {Q : Type}

/-- A backend holds one select query, which can be replaced, and knows the scope by its table. -/
structure Lawful (backend : Backend Q) : Prop where
  select_replace (query : Q) (select : SelectQuery) :
    backend.select (backend.replace query select) = select
  replace_select (query : Q) : backend.replace query (backend.select query) = query
  replace_replace (query : Q) (select later : SelectQuery) :
    backend.replace (backend.replace query select) later = backend.replace query later
  scope_replace {query : Q} {select : SelectQuery}
    (h : select.table = (backend.select query).table) :
    backend.scope (backend.replace query select) = backend.scope query
  select_blank (query : Q) : backend.select (backend.blank query) = (backend.select query).blank
  scope_blank (query : Q) : backend.scope (backend.blank query) = backend.scope query
  select_load {name : String} {build : Q → Except Error Q} {query next : Q}
    (h : backend.load name build query = .ok next) : backend.select next = backend.select query
  scope_load {name : String} {build : Q → Except Error Q} {query next : Q}
    (h : backend.load name build query = .ok next) : backend.scope next = backend.scope query

theorem plain_lawful : plain.Lawful where
  select_replace _ _ := rfl
  replace_select _ := rfl
  replace_replace _ _ _ := rfl
  scope_replace _ := rfl
  select_blank _ := rfl
  scope_blank _ := rfl
  select_load h := by cases h
  scope_load h := by cases h

theorem relational_lawful (schema : Schema) : (relational schema).Lawful where
  select_replace _ _ := rfl
  replace_select query := by
    cases query
    rfl
  replace_replace _ _ _ := rfl
  scope_replace h := by simp only [relational, ModelQuery.model, h]
  select_blank _ := rfl
  scope_blank _ := rfl
  select_load h := by
    simp only [relational, ModelQuery.load, bind_eq_ok_iff, pure_eq_ok_iff] at h
    obtain ⟨_, _, _, _, _, _, rfl⟩ := h
    rfl
  scope_load h := by
    simp only [relational, ModelQuery.load, bind_eq_ok_iff, pure_eq_ok_iff] at h
    obtain ⟨_, _, _, _, _, _, rfl⟩ := h
    rfl

/-- Builder calls lead from a query to another.  A call that fails leads nowhere else. -/
inductive Reaches (backend : Backend Q) : Q → Q → Prop
  | refl (query : Q) : Reaches backend query query
  | project {start query next : Q} {columns : List String}
      (hreach : Reaches backend start query)
      (h : backend.project columns query = .ok next) :
      Reaches backend start next
  | compare {start query next : Q} {combinator : Combinator} {column : String}
      {op : Comparison} {value : Json}
      (hreach : Reaches backend start query)
      (h : backend.compare combinator column op value query = .ok next) :
      Reaches backend start next
  | null {start query next : Q} {combinator : Combinator} {column : String} {negated : Bool}
      (hreach : Reaches backend start query)
      (h : backend.null combinator column negated query = .ok next) :
      Reaches backend start next
  | isIn {start query next : Q} {combinator : Combinator} {column : String}
      {values : List Json} {negated : Bool}
      (hreach : Reaches backend start query)
      (h : backend.isIn combinator column values negated query = .ok next) :
      Reaches backend start next
  | related {start query next : Q} {combinator : Combinator} {relation column : String}
      {op : Comparison} {value : Json}
      (hreach : Reaches backend start query)
      (h : backend.related combinator relation column op value query = .ok next) :
      Reaches backend start next
  | group {start query next : Q} {combinator : Combinator} {build : Q → Except Error Q}
      (hreach : Reaches backend start query)
      (hbuild : ∀ inner built, build inner = .ok built → Reaches backend inner built)
      (h : backend.group combinator build query = .ok next) :
      Reaches backend start next
  | load {start query next : Q} {name : String} {build : Q → Except Error Q}
      (hreach : Reaches backend start query)
      (hbuild : ∀ related built, build related = .ok built → Reaches backend related built)
      (h : backend.load name build query = .ok next) :
      Reaches backend start next

theorem Reaches.trans {backend : Backend Q} {start query next : Q}
    (hreach : backend.Reaches start query) (hnext : backend.Reaches query next) :
    backend.Reaches start next := by
  induction hnext with
  | refl => exact hreach
  | project _ h ih => exact .project (ih hreach) h
  | compare _ h ih => exact .compare (ih hreach) h
  | null _ h ih => exact .null (ih hreach) h
  | isIn _ h ih => exact .isIn (ih hreach) h
  | related _ h ih => exact .related (ih hreach) h
  | group _ hbuild h ih => exact .group (ih hreach) hbuild h
  | load _ hbuild h ih => exact .load (ih hreach) hbuild h

/-- A call that may fail leads to the state that it leaves behind. -/
theorem Reaches.state_step {backend : Backend Q} {query : Q} {operation : Q → Except Error Q}
    (h : ∀ next, operation query = .ok next → backend.Reaches query next) :
    backend.Reaches query (Run.step query operation).state := by
  cases hop : operation query with
  | ok next =>
      rw [Run.step_of_ok hop]
      exact h next hop
  | error e =>
      rw [Run.state_step_of_error hop]
      exact .refl query

theorem Reaches.state_andThen {backend : Backend Q} {query : Q} {run : Run Q} {next : Q → Run Q}
    (hrun : backend.Reaches query run.state)
    (hnext : ∀ middle, backend.Reaches middle (next middle).state) :
    backend.Reaches query (run.andThen next).state := by
  rw [Run.andThen]
  split
  next => exact hrun.trans (hnext run.state)
  next => exact hrun

/-! ## Filters as builder calls -/

/-- Adds the terms of a clause, one after another. -/
def extend (backend : Backend Q) (added : Clause) (query : Q) : Q :=
  backend.replace query
    { backend.select query with clause := (backend.select query).clause ++ added }

theorem Lawful.extend_nil {backend : Backend Q} (hlawful : backend.Lawful) (query : Q) :
    backend.extend [] query = query := by
  rw [extend, List.append_nil]
  exact hlawful.replace_select query

theorem Lawful.extend_cons {backend : Backend Q} (hlawful : backend.Lawful)
    (combinator : Combinator) (predicate : Predicate) (rest : Clause) (query : Q) :
    backend.extend ((combinator, predicate) :: rest) query =
      backend.extend rest (backend.add combinator predicate query) := by
  simp only [extend, add, SelectQuery.add, Clause.add, hlawful.select_replace,
    hlawful.replace_replace, List.append_assoc, List.singleton_append]

theorem Lawful.scope_add {backend : Backend Q} (hlawful : backend.Lawful)
    (combinator : Combinator) (predicate : Predicate) (query : Q) :
    backend.scope (backend.add combinator predicate query) = backend.scope query :=
  hlawful.scope_replace rfl

theorem null_eq_ok {column : String} (hcolumn : isIdentifier column) (backend : Backend Q)
    (combinator : Combinator) (negated : Bool) (query : Q) :
    backend.null combinator column negated query =
      .ok (backend.add combinator (.null column negated) query) :=
  bind_eq_ok_iff.mpr ⟨_, Predicate.ofNull_eq_ok_iff.mpr ⟨hcolumn, rfl⟩, rfl⟩

theorem compare_eq_ok {column : String} (hcolumn : isIdentifier column) (backend : Backend Q)
    (combinator : Combinator) (op : Comparison) (value : Json) (query : Q) :
    backend.compare combinator column op value query =
      .ok (backend.add combinator (.compare column op value) query) :=
  bind_eq_ok_iff.mpr ⟨_, Predicate.ofComparison_eq_ok_iff.mpr ⟨hcolumn, rfl⟩, rfl⟩

theorem isIn_eq_ok {column : String} (hcolumn : isIdentifier column) (backend : Backend Q)
    (combinator : Combinator) (values : List Json) (negated : Bool) (query : Q) :
    backend.isIn combinator column values negated query =
      .ok (backend.add combinator (.isIn column values negated) query) :=
  bind_eq_ok_iff.mpr ⟨_, Predicate.ofList_eq_ok_iff.mpr ⟨hcolumn, rfl⟩, rfl⟩

theorem reaches_add_of_condition {backend : Backend Q} {query : Q} {condition : Condition}
    {predicate : Predicate} (h : condition.Denotes (backend.scope query) predicate)
    (combinator : Combinator) :
    backend.Reaches query (backend.add combinator predicate query) := by
  cases h with
  | isNull hcolumn hargs => exact .null (.refl query) (null_eq_ok hcolumn _ _ _ _)
  | isNotNull hcolumn hargs => exact .null (.refl query) (null_eq_ok hcolumn _ _ _ _)
  | compare hcolumn hargs hvalue =>
      exact .compare (.refl query) (compare_eq_ok hcolumn _ _ _ _ _)
  | null hcolumn => exact .null (.refl query) (null_eq_ok hcolumn _ _ _ _)
  | notNull hcolumn => exact .null (.refl query) (null_eq_ok hcolumn _ _ _ _)
  | isIn hcolumn => exact .isIn (.refl query) (isIn_eq_ok hcolumn _ _ _ _ _)
  | notIn hcolumn => exact .isIn (.refl query) (isIn_eq_ok hcolumn _ _ _ _ _)
  | @related schema model name column relation args op value test hscope hrelation hcolumn hargs
      htest =>
      rw [htest.test_eq]
      have hpredicate :
          (backend.scope query).related name column op value =
            .ok (.related name (relation.correlation model) column (.ofComparison op value)) :=
        Scope.related_eq_ok_iff.mpr ⟨schema, model, relation, hscope, hrelation, hcolumn, rfl⟩
      exact .related (.refl query) (bind_eq_ok_iff.mpr ⟨_, hpredicate, rfl⟩)

/-- The calls inside a group are made on a blank query, which has the same scope. -/
theorem reaches_add_group {backend : Backend Q} (hlawful : backend.Lawful) {query : Q}
    {clause : Clause} (hclause : clause ≠ [])
    (hinner : ∀ inner, backend.scope inner = backend.scope query →
      backend.Reaches inner (backend.extend clause inner))
    (combinator : Combinator) :
    backend.Reaches query (backend.add combinator (.group clause) query) := by
  classical
  let build (inner : Q) : Except Error Q :=
    if backend.scope inner = backend.scope query then .ok (backend.extend clause inner)
    else .error (.nestingTooDeep 0)
  have hbuild : ∀ inner built, build inner = .ok built → backend.Reaches inner built := by
    intro inner built hbuilt
    simp only [build] at hbuilt
    split at hbuilt
    next hscope =>
      cases hbuilt
      exact hinner inner hscope
    next => cases hbuilt
  have hblank : build (backend.blank query) = .ok (backend.extend clause (backend.blank query)) :=
    if_pos (hlawful.scope_blank query)
  have hselected :
      (backend.select (backend.extend clause (backend.blank query))).clause = clause := by
    rw [extend, hlawful.select_replace, hlawful.select_blank]
    rfl
  have hgroup :
      backend.group combinator build query =
        .ok (backend.add combinator (.group clause) query) := by
    refine bind_eq_ok_iff.mpr ⟨_, hblank, ?_⟩
    rw [hselected, SelectQuery.addGroup, Clause.addGroup_of_ne_nil hclause]
    rfl
  exact .group (.refl query) hbuild hgroup

mutual

theorem reaches_add_of_term {backend : Backend Q} (hlawful : backend.Lawful) :
    ∀ {term : FilterTerm} {predicate : Predicate} {query : Q},
      term.Denotes (backend.scope query) predicate → ∀ combinator : Combinator,
        backend.Reaches query (backend.add combinator predicate query)
  | .condition _, _, _, .condition h, combinator => reaches_add_of_condition h combinator
  | .group _, _, _, .group h, combinator =>
      reaches_add_group hlawful h.ne_nil
        (fun _ hscope => reaches_extend_of_chain hlawful (hscope ▸ h)) combinator

theorem reaches_extend_of_chain {backend : Backend Q} (hlawful : backend.Lawful) :
    ∀ {chain : FilterChain} {combinator : Combinator} {clause : Clause} {query : Q},
      chain.Denotes (backend.scope query) combinator clause →
        backend.Reaches query (backend.extend clause query)
  | .one _, combinator, _, query, .one h => by
      rw [hlawful.extend_cons, hlawful.extend_nil]
      exact reaches_add_of_term hlawful h combinator
  | .join _ _ _, combinator, _, query, .join h hrest => by
      rw [hlawful.extend_cons]
      have hterm := reaches_add_of_term hlawful h combinator
      exact hterm.trans
        (reaches_extend_of_chain hlawful ((hlawful.scope_add _ _ query).symm ▸ hrest))

end

theorem reaches_extend_of_forall₂ {backend : Backend Q} (hlawful : backend.Lawful) {query : Q}
    {terms : List (Combinator × FilterTerm)} {added : Clause}
    (h : List.Forall₂ (Translates (backend.scope query)) terms added) :
    backend.Reaches query (backend.extend added query) := by
  induction terms generalizing added query with
  | nil =>
      cases h
      rw [hlawful.extend_nil]
      exact .refl query
  | cons term rest ih =>
      cases h with
      | @cons _ translation _ added hterm hrest =>
          obtain ⟨combinator, predicate⟩ := translation
          rw [hlawful.extend_cons]
          have hadd := reaches_add_of_term hlawful hterm.2 combinator
          exact hadd.trans (ih ((hlawful.scope_add combinator predicate query).symm ▸ hrest))

/-- Whatever a filter leaves behind could have been built by calls, also when it fails. -/
theorem reaches_filter {backend : Backend Q} (hlawful : backend.Lawful) (limit : Nat)
    (filter : Filter) (query : Q) :
    backend.Reaches query (backend.filter limit filter query).state := by
  have happlied :=
    filter.applied_addTo (backend.scope query) limit (backend.select query).clause
  obtain ⟨sound, added, _, hadded, hafter⟩ := happlied.exists_added
  have hstate : (backend.filter limit filter query).state = backend.extend added query := by
    rw [extend, ← hafter]
    rfl
  rw [hstate]
  exact reaches_extend_of_forall₂ hlawful hadded

/-! ## Programs of steps -/

theorem Reaches.of_result {backend : Backend Q} {query next : Q} {run : Run Q}
    (hreach : backend.Reaches query run.state) (h : run.result = .ok next) :
    backend.Reaches query next := by
  rw [Run.result_eq_ok_iff.mp h] at hreach
  exact hreach

mutual

theorem reaches_run {backend : Backend Q} (hlawful : backend.Lawful) :
    ∀ (step : BuildStep) (query : Q), backend.Reaches query (step.run backend query).state
  | .project columns, query => .state_step fun _ h => .project (.refl query) h
  | .compare _ _ _ _, query => .state_step fun _ h => .compare (.refl query) h
  | .null _ _ _, query => .state_step fun _ h => .null (.refl query) h
  | .isIn _ _ _ _, query => .state_step fun _ h => .isIn (.refl query) h
  | .related _ _ _ _ _, query => .state_step fun _ h => .related (.refl query) h
  | .group _ steps, query =>
      .state_step fun _ h =>
        .group (.refl query)
          (fun inner _ hbuilt => (reaches_runAll hlawful steps inner).of_result hbuilt) h
  | .load _ steps, query =>
      .state_step fun _ h =>
        .load (.refl query)
          (fun inner _ hbuilt => (reaches_runAll hlawful steps inner).of_result hbuilt) h
  | .filter limit raw, query => by
      rw [BuildStep.run]
      split
      next => exact reaches_filter hlawful limit _ query
      next => exact .refl query

/-- Whatever a program of steps leaves behind is reached by builder calls. -/
theorem reaches_runAll {backend : Backend Q} (hlawful : backend.Lawful) :
    ∀ (steps : List BuildStep) (query : Q),
      backend.Reaches query (BuildStep.runAll backend steps query).state
  | [], query => .refl query
  | step :: rest, query =>
      (reaches_run hlawful step query).state_andThen (reaches_runAll hlawful rest)

end

/-! ## What every call keeps -/

/-- Only columns, clause and loads may have changed, and the clause is as well formed as it was. -/
structure Keeps (backend : Backend Q) (start query : Q) : Prop where
  scope_eq : backend.scope query = backend.scope start
  table_eq : (backend.select query).table = (backend.select start).table
  wellFormed :
    Clause.WellFormed (backend.scope start) (backend.select start).clause →
      Clause.WellFormed (backend.scope start) (backend.select query).clause

variable {backend : Backend Q} {start query next : Q}

/-- Replacing the select query by one on the same table with a clause that is as well formed. -/
theorem Keeps.replace (hkeeps : backend.Keeps start query) (hlawful : backend.Lawful)
    {select : SelectQuery} (htable : select.table = (backend.select query).table)
    (hclause :
      Clause.WellFormed (backend.scope start) (backend.select query).clause →
        Clause.WellFormed (backend.scope start) select.clause) :
    backend.Keeps start (backend.replace query select) where
  scope_eq := (hlawful.scope_replace htable).trans hkeeps.scope_eq
  table_eq := by rw [hlawful.select_replace, htable, hkeeps.table_eq]
  wellFormed h := by
    rw [hlawful.select_replace]
    exact hclause (hkeeps.wellFormed h)

theorem Keeps.add (hkeeps : backend.Keeps start query) (hlawful : backend.Lawful)
    {predicate : Predicate} (hpredicate : predicate.WellFormed (backend.scope start))
    (combinator : Combinator) :
    backend.Keeps start (backend.add combinator predicate query) := by
  refine hkeeps.replace hlawful rfl ?_
  intro hclause
  exact Clause.wellFormed_add.mpr ⟨hclause, hpredicate⟩

theorem Reaches.keeps (hreach : backend.Reaches start query) (hlawful : backend.Lawful) :
    backend.Keeps start query := by
  induction hreach with
  | refl query => exact ⟨rfl, rfl, id⟩
  | project _ h ih =>
      simp only [Backend.project, SelectQuery.project, bind_eq_ok_iff, pure_eq_ok_iff] at h
      obtain ⟨_, ⟨_, _, rfl⟩, rfl⟩ := h
      exact ih.replace hlawful rfl (fun hclause => hclause)
  | compare _ h ih =>
      simp only [Backend.compare, bind_eq_ok_iff, pure_eq_ok_iff,
        Predicate.ofComparison_eq_ok_iff] at h
      obtain ⟨_, ⟨hcolumn, rfl⟩, rfl⟩ := h
      refine ih.add hlawful ?_ _
      exact hcolumn
  | null _ h ih =>
      simp only [Backend.null, bind_eq_ok_iff, pure_eq_ok_iff, Predicate.ofNull_eq_ok_iff] at h
      obtain ⟨_, ⟨hcolumn, rfl⟩, rfl⟩ := h
      refine ih.add hlawful ?_ _
      exact hcolumn
  | isIn _ h ih =>
      simp only [Backend.isIn, bind_eq_ok_iff, pure_eq_ok_iff, Predicate.ofList_eq_ok_iff] at h
      obtain ⟨_, ⟨hcolumn, rfl⟩, rfl⟩ := h
      refine ih.add hlawful ?_ _
      exact hcolumn
  | related _ h ih =>
      simp only [Backend.related, bind_eq_ok_iff, pure_eq_ok_iff,
        Scope.related_eq_ok_iff, ih.scope_eq] at h
      obtain ⟨_, ⟨_, _, _, hscope, hrelation, hcolumn, rfl⟩, rfl⟩ := h
      refine ih.add hlawful ?_ _
      exact ⟨_, _, _, _, _, hscope, hrelation, hcolumn, rfl, rfl⟩
  | @group start query next combinator build _ _ h ih ihbuild =>
      simp only [Backend.group, bind_eq_ok_iff, pure_eq_ok_iff] at h
      obtain ⟨built, hbuilt, rfl⟩ := h
      have hinner := ihbuild _ _ hbuilt
      refine ih.replace hlawful rfl ?_
      intro hclause
      by_cases hempty : (backend.select built).clause = []
      · simpa [SelectQuery.addGroup, Clause.addGroup, hempty] using hclause
      · rw [SelectQuery.addGroup, Clause.addGroup_of_ne_nil hempty, Clause.wellFormed_add]
        refine ⟨hclause, hempty, ?_⟩
        have hscope : backend.scope (backend.blank query) = backend.scope start :=
          (hlawful.scope_blank query).trans ih.scope_eq
        rw [← hscope]
        apply hinner.wellFormed
        rw [hlawful.select_blank]
        trivial
  | load _ _ h ih =>
      refine ⟨(hlawful.scope_load h).trans ih.scope_eq, ?_, ?_⟩
      · rw [hlawful.select_load h, ih.table_eq]
      · rw [hlawful.select_load h]
        exact ih.wellFormed

end Backend

end QueryShape
