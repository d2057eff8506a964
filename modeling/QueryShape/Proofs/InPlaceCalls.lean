import QueryShape.Proofs.BuilderReach
import QueryShape.Proofs.ListAnswers

/-!
# Builder calls that edit a query in place

A call edits the query that it is made on, and what it has written before it fails stays written.
Here each call is such an edit, with its checks and its writes in the order in which they are made.
A group or a load is given an edit as well, whatever edit it may be; this is run on a query of its
own, and its failure is the failure of the call.

All checks of a call, and the edit that it is given, come before its first write.  So a call that
fails has written nothing, and each call is one step that either succeeds or leaves the query
alone.  Of the query on which a group is built only the clause outlives the call.
-/

namespace QueryShape

/-- Edits of a state in place.  A failure does not undo what was written before it. -/
abbrev Edit (σ : Type) : Type → Type :=
  ExceptT Error (StateM σ)

namespace Edit

variable {σ α : Type}

/-- The state that an edit leaves behind, and its failure if there was one. -/
def on (edit : Edit σ Unit) (state : σ) : Run σ :=
  let ended : Except Error Unit × σ := edit.run.run state
  ⟨ended.2, failure? ended.1⟩

/-- An edit that leaves behind what a run leaves behind. -/
def ofRun (run : σ → Run σ) : Edit σ Unit := do
  let reached := run (← get)
  set reached.state
  match reached.failure with
  | none => pure ()
  | some e => throw e

theorem on_pure (state : σ) :
    (pure () : Edit σ Unit).on state = .done state := rfl

theorem on_throw (e : Error) (state : σ) :
    (throw e : Edit σ Unit).on state = ⟨state, some e⟩ := rfl

theorem on_get_bind (next : σ → Edit σ Unit) (state : σ) :
    (get >>= next).on state = (next state).on state := rfl

theorem on_check_bind (check : Except Error α) (next : α → Edit σ Unit) (state : σ) :
    (liftM check >>= next).on state =
      match check with
      | .ok found => (next found).on state
      | .error e => ⟨state, some e⟩ := by
  cases check <;> rfl

/-- Checks that are made one by one are made together, since none of them writes. -/
theorem on_forM_bind (check : α → Except Error Unit) (items : List α) (next : Edit σ Unit)
    (state : σ) :
    ((items.forM fun item => (liftM (check item) : Edit σ Unit)) >>= fun _ => next).on state =
      match items.forM check with
      | .ok _ => next.on state
      | .error e => ⟨state, some e⟩ := by
  induction items with
  | nil => rfl
  | cons item rest ih =>
      simp only [List.forM_eq_forM, List.forM_cons] at ih ⊢
      rw [bind_assoc, on_check_bind]
      cases check item with
      | ok done => exact ih
      | error e => rfl

theorem on_bind (edit next : Edit σ Unit) (state : σ) :
    (edit >>= fun _ => next).on state = (edit.on state).andThen next.on := by
  unfold on
  rw [ExceptT.run_bind, StateT.run_bind]
  obtain ⟨outcome, left⟩ := edit.run.run state
  cases outcome <;> rfl

theorem on_ofRun (run : σ → Run σ) (state : σ) :
    (ofRun run).on state = run state := by
  rw [ofRun, on_get_bind]
  obtain ⟨left, failure⟩ := run state
  cases failure <;> rfl

end Edit

/-! ## Calls -/

namespace Clause

/-- The term of a group; there is none where nothing has been built. -/
def grouped (combinator : Combinator) (built : Clause) : Clause :=
  if built.isEmpty then [] else [(combinator, .group built)]

theorem addGroup_eq_append (clause : Clause) (combinator : Combinator) (built : Clause) :
    clause.addGroup combinator built = clause ++ grouped combinator built := by
  rw [addGroup, grouped]
  split
  next => rw [List.append_nil]
  next => rfl

end Clause

/-- One call.  Groups and loads are given any edit of the query that is made for them. -/
inductive BuilderCall (Q : Type) where
  | project (columns : List String)
  | compare (combinator : Combinator) (column : String) (op : Comparison) (value : Json)
  | null (combinator : Combinator) (column : String) (negated : Bool)
  | isIn (combinator : Combinator) (column : String) (values : List Json) (negated : Bool)
  | related (combinator : Combinator) (relation column : String) (op : Comparison) (value : Json)
  | group (combinator : Combinator) (build : Edit Q Unit)
  | load (relation : String) (build : Edit Q Unit)

/-- A backend with loads that are registered in place, which comes to the same. -/
structure EditBackend (Q : Type) extends Backend Q where
  lawful : toBackend.Lawful
  loadInPlace : String → Edit Q Unit → Edit Q Unit
  on_loadInPlace (name : String) (build : Edit Q Unit) (query : Q) :
    (loadInPlace name build).on query =
      Run.step query (toBackend.load name fun inner => (build.on inner).result)

/-- The loads of the same name are dropped only when the new load is complete. -/
def ModelQuery.loadInPlace (schema : Schema) (name : String) (build : Edit ModelQuery Unit) :
    Edit ModelQuery Unit := do
  let query ← get
  let relation ← schema.relation query.model name
  let related ← ModelQuery.ofModel schema relation.model
  let built ← (build.on related).result
  modify fun query => { query with eager := query.eager.filter (·.name != name) }
  modify fun query =>
    { query with eager := query.eager ++ [{ name := name, relation := relation, query := built }] }

theorem ModelQuery.on_loadInPlace (schema : Schema) (name : String)
    (build : Edit ModelQuery Unit) (query : ModelQuery) :
    (loadInPlace schema name build).on query =
      Run.step query (load schema name fun inner => (build.on inner).result) := by
  rw [loadInPlace, Edit.on_get_bind, Edit.on_check_bind, Run.step, load]
  cases schema.relation query.model name with
  | error e => rfl
  | ok relation =>
      dsimp only
      rw [Edit.on_check_bind]
      cases hrelated : ofModel schema relation.model with
      | error e => simp only [bind, Except.bind, hrelated]
      | ok related =>
          simp only [bind, Except.bind, hrelated]
          cases (build.on related).result <;> rfl

namespace EditBackend

def plain : EditBackend SelectQuery where
  toBackend := .plain
  lawful := Backend.plain_lawful
  loadInPlace name _ := throw (.unsupportedLoad [name])
  on_loadInPlace name _ query := Edit.on_throw (.unsupportedLoad [name]) query

def relational (schema : Schema) : EditBackend ModelQuery where
  toBackend := .relational schema
  lawful := Backend.relational_lawful schema
  loadInPlace := ModelQuery.loadInPlace schema
  on_loadInPlace := ModelQuery.on_loadInPlace schema

variable {Q : Type} (backend : EditBackend Q)

def push (combinator : Combinator) (predicate : Predicate) : Edit Q Unit :=
  modify (backend.add combinator predicate)

def edit : BuilderCall Q → Edit Q Unit
  | .project columns => do
    columns.forM fun column => (liftM (SelectQuery.checkColumn column) : Edit Q Unit)
    modify fun query => backend.replace query { backend.select query with columns := columns }
  | .compare combinator column op value => do
    let column ← identifier column
    backend.push combinator (.compare column op value)
  | .null combinator column negated => do
    let column ← identifier column
    backend.push combinator (.null column negated)
  | .isIn combinator column values negated => do
    let column ← identifier column
    backend.push combinator (.isIn column values negated)
  | .related combinator relation column op value => do
    let query ← get
    let predicate ← (backend.scope query).related relation column op value
    backend.push combinator predicate
  | .group combinator build => do
    let query ← get
    let built ← (build.on (backend.blank query)).result
    let clause := (backend.select built).clause
    if clause.isEmpty then pure () else backend.push combinator (.group clause)
  | .load relation build => backend.loadInPlace relation build

/-- The call as a function, which gives the query that it leads to or fails. -/
def operation : BuilderCall Q → Q → Except Error Q
  | .project columns => backend.project columns
  | .compare combinator column op value => backend.compare combinator column op value
  | .null combinator column negated => backend.null combinator column negated
  | .isIn combinator column values negated => backend.isIn combinator column values negated
  | .related combinator relation column op value =>
    backend.related combinator relation column op value
  | .group combinator build => backend.group combinator fun inner => (build.on inner).result
  | .load relation build => backend.load relation fun inner => (build.on inner).result

theorem on_group (combinator : Combinator) (build : Edit Q Unit) (query : Q) :
    (backend.edit (.group combinator build)).on query =
      Run.step query (backend.group combinator fun inner => (build.on inner).result) := by
  rw [edit, Edit.on_get_bind, Edit.on_check_bind, Run.step, Backend.group]
  cases (build.on (backend.blank query)).result with
  | error e => rfl
  | ok built =>
      cases hclause : (backend.select built).clause with
      | nil =>
          have hsame :
              backend.replace query ((backend.select query).addGroup combinator []) = query :=
            backend.lawful.replace_select query
          simp only [bind, Except.bind, pure, Except.pure, hclause, hsame]
          rfl
      | cons term rest =>
          simp only [bind, Except.bind, pure, Except.pure, hclause]
          rfl

/-- Every call is one step: whatever can fail in it comes before its first write. -/
theorem on_edit (call : BuilderCall Q) (query : Q) :
    (backend.edit call).on query = Run.step query (backend.operation call) := by
  cases call with
  | project columns =>
      rw [edit, Edit.on_forM_bind, operation, Run.step, Backend.project, SelectQuery.project]
      cases columns.forM SelectQuery.checkColumn <;> rfl
  | compare combinator column op value =>
      rw [edit, Edit.on_check_bind, operation, Run.step, Backend.compare, Predicate.ofComparison]
      cases identifier column <;> rfl
  | null combinator column negated =>
      rw [edit, Edit.on_check_bind, operation, Run.step, Backend.null, Predicate.ofNull]
      cases identifier column <;> rfl
  | isIn combinator column values negated =>
      rw [edit, Edit.on_check_bind, operation, Run.step, Backend.isIn, Predicate.ofList]
      cases identifier column <;> rfl
  | related combinator relation column op value =>
      rw [edit, Edit.on_get_bind, Edit.on_check_bind, operation, Run.step, Backend.related]
      cases (backend.scope query).related relation column op value <;> rfl
  | group combinator build => exact backend.on_group combinator build query
  | load relation build => exact backend.on_loadInPlace relation build query

/-! ## Programs of calls -/

mutual

/-- A step as an edit in place; what is inside a group or a load edits a query of its own. -/
def editStep : BuildStep → Edit Q Unit
  | .project columns => backend.edit (.project columns)
  | .compare combinator column op value => backend.edit (.compare combinator column op value)
  | .null combinator column negated => backend.edit (.null combinator column negated)
  | .isIn combinator column values negated => backend.edit (.isIn combinator column values negated)
  | .related combinator relation column op value =>
    backend.edit (.related combinator relation column op value)
  | .group combinator steps => backend.edit (.group combinator (editAll steps))
  | .load relation steps => backend.edit (.load relation (editAll steps))
  | .filter limit raw => do
    let parsed ← Filter.parse limit raw
    .ofRun (backend.filter limit parsed)

def editAll : List BuildStep → Edit Q Unit
  | [] => pure ()
  | step :: rest => do
    editStep step
    editAll rest

end

mutual

theorem on_editStep :
    ∀ (step : BuildStep) (query : Q),
      (backend.editStep step).on query = step.run backend.toBackend query
  | .project columns, query => by
      rw [editStep, on_edit, BuildStep.run]
      rfl
  | .compare combinator column op value, query => by
      rw [editStep, on_edit, BuildStep.run]
      rfl
  | .null combinator column negated, query => by
      rw [editStep, on_edit, BuildStep.run]
      rfl
  | .isIn combinator column values negated, query => by
      rw [editStep, on_edit, BuildStep.run]
      rfl
  | .related combinator relation column op value, query => by
      rw [editStep, on_edit, BuildStep.run]
      rfl
  | .group combinator steps, query => by
      rw [editStep, on_edit, operation, BuildStep.run]
      simp only [on_editAll steps]
  | .load relation steps, query => by
      rw [editStep, on_edit, operation, BuildStep.run]
      simp only [on_editAll steps]
  | .filter limit raw, query => by
      rw [editStep, Edit.on_check_bind, BuildStep.run]
      cases Filter.parse limit raw with
      | ok parsed => exact Edit.on_ofRun (backend.filter limit parsed) query
      | error e => rfl

theorem on_editAll :
    ∀ (steps : List BuildStep) (query : Q),
      (backend.editAll steps).on query = BuildStep.runAll backend.toBackend steps query
  | [], query => by
      rw [editAll, BuildStep.runAll, Edit.on_pure]
  | step :: rest, query => by
      have hrest : (backend.editAll rest).on = BuildStep.runAll backend.toBackend rest :=
        funext (on_editAll rest)
      rw [editAll, BuildStep.runAll, Edit.on_bind, on_editStep step, hrest]

end

/-! ## What calls leave as it was -/

/-- Calls that fail change nothing, and programs of such calls run as programs of steps do. -/
structure Atomic (backend : EditBackend Q) : Prop where
  unchanged {call : BuilderCall Q} {query : Q} {e : Error}
    (h : ((backend.edit call).on query).failure = some e) :
    ((backend.edit call).on query).state = query
  editAll_eq (steps : List BuildStep) :
    (backend.editAll steps).on = BuildStep.runAll backend.toBackend steps

theorem atomic : backend.Atomic where
  unchanged {call query e} h := by
    rw [on_edit] at h ⊢
    exact Run.state_step_of_failure h
  editAll_eq steps := funext (backend.on_editAll steps)

/-- Of the query on which a group is built only the clause is read. -/
theorem on_group_eq_done_iff {combinator : Combinator} {build : Edit Q Unit} {query next : Q} :
    (backend.edit (.group combinator build)).on query = .done next ↔
      ∃ built, build.on (backend.blank query) = .done built ∧
        backend.extend (Clause.grouped combinator (backend.select built).clause) query = next := by
  have hwritten (built : Q) :
      (backend.select query).addGroup combinator (backend.select built).clause =
        { backend.select query with
          clause := (backend.select query).clause ++
            Clause.grouped combinator (backend.select built).clause } := by
    rw [SelectQuery.addGroup, Clause.addGroup_eq_append]
  rw [on_group, Run.step_eq_done_iff, Backend.group]
  simp only [bind_eq_ok_iff, pure_eq_ok_iff, Run.result_eq_ok_iff, hwritten, Backend.extend]

end EditBackend

/-- A call that fails leaves the query as it was, and a group adds one term with what was built. -/
theorem failing_call_changes_nothing (schema : Schema) :
    (EditBackend.plain.Atomic ∧
        ∀ combinator build (query next : SelectQuery),
          (EditBackend.plain.edit (.group combinator build)).on query = .done next ↔
            ∃ built, build.on query.blank = .done built ∧
              { query with
                clause := query.clause ++ Clause.grouped combinator built.clause } = next) ∧
      (EditBackend.relational schema).Atomic ∧
        ∀ combinator build (query next : ModelQuery),
          ((EditBackend.relational schema).edit (.group combinator build)).on query = .done next ↔
            ∃ built, build.on query.blank = .done built ∧
              { query with
                select :=
                  { query.select with
                    clause := query.select.clause ++
                      Clause.grouped combinator built.select.clause } } = next := by
  refine ⟨⟨EditBackend.plain.atomic, ?_⟩, (EditBackend.relational schema).atomic, ?_⟩
  · intro combinator build query next
    exact EditBackend.plain.on_group_eq_done_iff
  · intro combinator build query next
    exact (EditBackend.relational schema).on_group_eq_done_iff

/-- Authors by name, with the titles of their books. -/
def titledAuthors : ModelQuery :=
  (BuildStep.runAll (.relational libraryStore.schema)
    [.project ["name"], .load "books" [.project ["title"]]]
    { select := { table := "authors" } }).state

/-- Fails in its last group, after it has set columns and loaded a relation. -/
def failingBooks : Edit ModelQuery Unit :=
  (EditBackend.relational libraryStore.schema).editAll
    [.project ["id"], .load "author" [.project ["name"]],
      .group .or [.null .and "title" false, .group .and [.null .or "no name" false]]]

/-- Sets columns and a load, neither of which is part of a group. -/
def namedGroup : Edit ModelQuery Unit :=
  (EditBackend.relational libraryStore.schema).editAll
    [.project ["id"], .load "books" [], .null .or "name" true]

theorem failing_load_keeps_titles :
    let backend := EditBackend.relational libraryStore.schema
    let failed := (backend.edit (.load "books" failingBooks)).on titledAuthors
    titledAuthors.eager.map (fun load => (load.name, load.query.select.columns)) =
        [("books", ["title"])] ∧
      failed.failure = some (.invalidIdentifier "no name") ∧ failed.state = titledAuthors ∧
        (backend.edit (.group .or namedGroup)).on titledAuthors =
          .done { titledAuthors with
            select :=
              { titledAuthors.select with
                clause := [(.or, .group [(.or, .null "name" true)])] } } := by
  intro backend failed
  have hcalls := failing_call_changes_nothing libraryStore.schema
  have hfailure : failed.failure = some (.invalidIdentifier "no name") := by
    decide +kernel
  have hstate : failed.state = titledAuthors := hcalls.2.1.unchanged hfailure
  have hbuilt : ∃ built, namedGroup.on titledAuthors.blank = .done built ∧
      built.select.clause = [(.or, .null "name" true)] :=
    ⟨_, rfl, rfl⟩
  obtain ⟨built, hgroup, hclause⟩ := hbuilt
  refine ⟨rfl, hfailure, hstate, (hcalls.2.2 .or namedGroup titledAuthors _).mpr ?_⟩
  refine ⟨built, hgroup, ?_⟩
  rw [hclause]
  rfl

end QueryShape
