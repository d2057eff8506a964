import QueryShape.Proofs.RelationshipLoads

/-!
# What registering relationships does

A list of relationships is registered from left to right, and nothing but the loads of the
query changes.  A load that was there before stays in its place unless its name is in the
list, and of the loads of the list the last one of each name follows, in the order in which
these last ones are written.

Each list that is not empty takes up a level of nesting.  Then for each relationship its
relation and the related model are looked up, and the columns, the filter and the nested list
are applied to a new query.  The first fault in this order ends the run.  The relationships
before the one with the fault stay registered, and nothing of that one does.
-/

namespace QueryShape

/-- The last load of each name, in the order in which these last ones stand. -/
def EagerLoad.lastOfEach : List (EagerLoad ModelQuery) → List (EagerLoad ModelQuery)
  | [] => []
  | load :: rest =>
    if load.name ∈ rest.map EagerLoad.name then lastOfEach rest else load :: lastOfEach rest

/-- What can be wrong with relationships, in the order in which it is looked at. -/
inductive LoadPart where
  | level (depth : Nat)
  | relationLookUp (model name : String)
  | modelLookUp (name : String)
  | columnCheck (column : String)
  | filterPart (model : String) (part : FilterPart)

namespace LoadPart

variable (schema : Schema) (limit : Nat)

def fault? : LoadPart → Option Error
  | .level depth => if depth ≤ limit then none else some (.nestingTooDeep limit)
  | .relationLookUp model name => failure? (schema.relation model name)
  | .modelLookUp name => failure? (ModelQuery.ofModel schema name)
  | .columnCheck column => failure? (SelectQuery.checkColumn column)
  | .filterPart model part => part.fault? (.model schema model) limit

/-- The first fault of a list of parts. -/
def firstFault? (parts : List LoadPart) : Option Error :=
  parts.findSome? (fault? schema limit)

/-- The relation of a model, the related model, and what is asked of a new query on it. -/
def lookUps (model name : String) (asked : String → List LoadPart) : List LoadPart :=
  .relationLookUp model name ::
    match schema.relation model name with
    | .ok relation => .modelLookUp relation.model :: asked relation.model
    | .error _ => []

end LoadPart

/-- The level of a list of relationships; the empty list has none. -/
def Relationship.levelParts (depth : Nat) (relationships : List Relationship) : List LoadPart :=
  if relationships.isEmpty then [] else [.level depth]

mutual

/-- What a relationship at a depth asks of a new query on the related model. -/
def Relationship.askedParts (schema : Schema) (model : String) (depth : Nat) :
    Relationship → List LoadPart
  | .short _ columns => columns.map .columnCheck
  | .full _ columns filter nested =>
    columns.map .columnCheck ++ filter.parts.map (.filterPart model) ++
      Relationship.levelParts (depth + 1) nested ++
        Relationship.partsOfEach schema model (depth + 1) nested

/-- The parts of the relationships of a list at a depth, one after another. -/
def Relationship.partsOfEach (schema : Schema) (model : String) (depth : Nat) :
    List Relationship → List LoadPart
  | [] => []
  | relationship :: rest =>
    LoadPart.lookUps schema model relationship.name
        (fun related => relationship.askedParts schema related depth) ++
      Relationship.partsOfEach schema model depth rest

end

namespace Relationship

def parts (schema : Schema) (model : String) (depth : Nat) (relationship : Relationship) :
    List LoadPart :=
  LoadPart.lookUps schema model relationship.name fun related =>
    relationship.askedParts schema related depth

def listParts (schema : Schema) (model : String) (depth : Nat)
    (relationships : List Relationship) : List LoadPart :=
  levelParts depth relationships ++ partsOfEach schema model depth relationships

end Relationship

/-! ## The loads of a list -/

namespace ModelQuery

theorem eager_register (query : ModelQuery) (load : EagerLoad ModelQuery) :
    (query.register load).eager = query.eager.filter (·.name != load.name) ++ [load] := rfl

theorem eager_foldl_register (loads : List (EagerLoad ModelQuery)) (query : ModelQuery) :
    (loads.foldl register query).eager =
      query.eager.filter (fun load => load.name ∉ loads.map EagerLoad.name) ++
        EagerLoad.lastOfEach loads := by
  induction loads generalizing query with
  | nil => simp [EagerLoad.lastOfEach]
  | cons load rest ih =>
      have hkept :
          (query.eager.filter (·.name != load.name)).filter
              (fun other => other.name ∉ rest.map EagerLoad.name) =
            query.eager.filter fun other =>
              other.name ∉ (load :: rest).map EagerLoad.name := by
        rw [List.filter_filter]
        apply List.filter_congr
        intro other _
        by_cases hname : other.name = load.name <;> simp [hname]
      rw [List.foldl_cons, ih, eager_register, List.filter_append, hkept, List.append_assoc,
        EagerLoad.lastOfEach]
      by_cases hagain : load.name ∈ rest.map EagerLoad.name
      · rw [if_pos hagain, List.filter_cons_of_neg (by simpa using hagain), List.filter_nil,
          List.nil_append]
      · rw [if_neg hagain, List.filter_cons_of_pos (by simpa using hagain), List.filter_nil,
          List.singleton_append]

end ModelQuery

/-! ## The first fault -/

namespace LoadPart

variable {schema : Schema} {limit : Nat}

theorem firstFault?_append (parts more : List LoadPart) :
    firstFault? schema limit (parts ++ more) =
      (firstFault? schema limit parts).or (firstFault? schema limit more) := by
  simp [firstFault?, List.findSome?_append]

theorem firstFault?_columns (columns : List String) :
    firstFault? schema limit (columns.map .columnCheck) =
      columns.findSome? fun column => failure? (SelectQuery.checkColumn column) := by
  rw [firstFault?, List.findSome?_map]
  rfl

theorem firstFault?_filter (model : String) (parts : List FilterPart) :
    firstFault? schema limit (parts.map (.filterPart model)) =
      FilterPart.firstFault? (.model schema model) limit parts := by
  rw [firstFault?, List.findSome?_map]
  rfl

theorem firstFault?_level_of_le {depth : Nat} (h : depth ≤ limit) (parts : List LoadPart) :
    firstFault? schema limit (.level depth :: parts) = firstFault? schema limit parts := by
  simp [firstFault?, fault?, h]

theorem firstFault?_level_of_lt {depth : Nat} (h : limit < depth) (parts : List LoadPart) :
    firstFault? schema limit (.level depth :: parts) = some (.nestingTooDeep limit) := by
  simp [firstFault?, fault?, Nat.not_le.mpr h]

end LoadPart

theorem SelectQuery.failure?_project (columns : List String) (select : SelectQuery) :
    failure? (select.project columns) =
      columns.findSome? fun column => failure? (checkColumn column) := by
  rw [project, failure?_bind, ← failure?_forM]
  cases columns.forM checkColumn <;> rfl

namespace Backend

variable {schema : Schema}

theorem failure_columns (limit : Nat) (columns : List String) (query : ModelQuery) :
    ((relational schema).columns columns query).failure =
      LoadPart.firstFault? schema limit (columns.map .columnCheck) := by
  rw [LoadPart.firstFault?_columns]
  unfold Backend.columns
  split
  next hempty =>
    rw [List.isEmpty_iff.mp hempty]
    rfl
  next =>
    rw [Run.failure_step, project, failure?_bind,
      ← SelectQuery.failure?_project columns ((relational schema).select query)]
    cases ((relational schema).select query).project columns <;> rfl

theorem failure_filter (limit : Nat) (filter : Filter) (query : ModelQuery) :
    ((relational schema).filter limit filter query).failure =
      LoadPart.firstFault? schema limit (filter.parts.map (.filterPart query.model)) := by
  rw [LoadPart.firstFault?_filter]
  exact filter.failure_addTo (.model schema query.model) limit query.select.clause

theorem model_columns (columns : List String) (query : ModelQuery) :
    ((relational schema).columns columns query).state.model = query.model := by
  unfold Backend.columns
  split
  next => rfl
  next =>
    cases hproject : (relational schema).project columns query with
    | error e => rw [Run.state_step_of_error hproject]
    | ok next =>
        rw [Run.step_of_ok hproject]
        simp only [project, SelectQuery.project, bind_eq_ok_iff, pure_eq_ok_iff] at hproject
        obtain ⟨_, ⟨_, _, rfl⟩, rfl⟩ := hproject
        rfl

end Backend

theorem ModelQuery.failure?_load {schema : Schema} {limit : Nat} {name : String}
    {build : ModelQuery → Except Error ModelQuery} {asked : String → List LoadPart}
    (hbuild : ∀ related, failure? (build related) =
      LoadPart.firstFault? schema limit (asked related.model))
    (query : ModelQuery) :
    failure? (ModelQuery.load schema name build query) =
      LoadPart.firstFault? schema limit (LoadPart.lookUps schema query.model name asked) := by
  rw [ModelQuery.load, failure?_bind, LoadPart.lookUps, LoadPart.firstFault?,
    List.findSome?_cons, LoadPart.fault?]
  cases hrelation : schema.relation query.model name with
  | error e => rfl
  | ok relation =>
      simp only [failure?_bind, List.findSome?_cons, LoadPart.fault?]
      cases hrelated : ModelQuery.ofModel schema relation.model with
      | error e => rfl
      | ok related =>
          have hmodel : related.model = relation.model := by
            rw [ModelQuery.eq_of_ofModel hrelated]
            rfl
          have hasked := hbuild related
          rw [hmodel, LoadPart.firstFault?] at hasked
          rw [failure?_ok, failure?_ok, ← hasked]
          dsimp only
          cases build related <;> rfl

namespace Relationship

theorem model_step_load (schema : Schema) (name : String)
    (build : ModelQuery → Except Error ModelQuery) (query : ModelQuery) :
    (Run.step query (ModelQuery.load schema name build)).state.model = query.model := by
  cases hload : ModelQuery.load schema name build query with
  | error e => rw [Run.state_step_of_error hload]
  | ok next =>
      obtain ⟨load, _, _, _, rfl⟩ := ModelQuery.load_eq_ok_iff.mp hload
      rw [Run.step_of_ok hload]
      rfl

theorem firstFault?_listParts_of_le {schema : Schema} {limit depth : Nat} (h : depth ≤ limit)
    (model : String) (relationships : List Relationship) :
    LoadPart.firstFault? schema limit (listParts schema model depth relationships) =
      LoadPart.firstFault? schema limit (partsOfEach schema model depth relationships) := by
  cases relationships with
  | nil => rfl
  | cons relationship rest => exact LoadPart.firstFault?_level_of_le h _

mutual

/-- The levels below a depth and the room at that depth make up the limit. -/
theorem failure_constrain {schema : Schema} {limit : Nat} :
    ∀ (relationship : Relationship) {depth room : Nat}, depth + room = limit →
      ∀ query : ModelQuery,
        (relationship.constrain schema limit room query).failure =
          LoadPart.firstFault? schema limit
            (relationship.askedParts schema query.model depth)
  | .short _ columns, _, _, _, query => Backend.failure_columns limit columns query
  | .full _ columns filter nested, depth, room, hroom, query => by
      have hnested : depth + 1 + room = limit + 1 := by omega
      have hmodel :
          (((Backend.relational schema).columns columns query).andThen fun query =>
              (Backend.relational schema).filter limit filter query).state.model =
            query.model :=
        Run.andThen_state_eq (Backend.model_columns columns query) fun _ h => h
      rw [constrain, Run.failure_andThen, Run.failure_andThen, Backend.failure_columns limit,
        Backend.failure_filter, Backend.model_columns, failure_registerAll nested hnested, hmodel,
        askedParts, List.append_assoc, LoadPart.firstFault?_append, LoadPart.firstFault?_append]
      rfl

theorem failure_registerAll {schema : Schema} {limit : Nat} :
    ∀ (relationships : List Relationship) {depth room : Nat}, depth + room = limit + 1 →
      ∀ query : ModelQuery,
        (registerAll schema limit room relationships query).failure =
          LoadPart.firstFault? schema limit
            (listParts schema query.model depth relationships)
  | [], _, _, _, _ => rfl
  | _ :: _, depth, 0, hroom, _ => by
      have hlimit : limit < depth := by omega
      exact (LoadPart.firstFault?_level_of_lt hlimit _).symm
  | relationship :: rest, depth, room + 1, hroom, query => by
      have hlimit : depth ≤ limit := by omega
      have hinner : depth + room = limit := by omega
      have hbuild (related : ModelQuery) :
          failure? (relationship.constrain schema limit room related).result =
            LoadPart.firstFault? schema limit
              (relationship.askedParts schema related.model depth) :=
        (Run.failure?_result _).trans (failure_constrain relationship hinner related)
      have hload :
          failure? (ModelQuery.load schema relationship.name (fun related =>
              (relationship.constrain schema limit room related).result) query) =
            LoadPart.firstFault? schema limit (relationship.parts schema query.model depth) :=
        ModelQuery.failure?_load hbuild query
      rw [registerAll, Run.failure_andThen, Run.failure_step, hload,
        failure_registerAll rest hroom, model_step_load, firstFault?_listParts_of_le hlimit,
        firstFault?_listParts_of_le hlimit, partsOfEach, LoadPart.firstFault?_append, parts]

end

/-- All relationships of a list became loads of a query. -/
structure RegistersAll (schema : Schema) (limit : Nat) (query : ModelQuery)
    (relationships : List Relationship) (next : ModelQuery) : Prop where
  select_eq : next.select = query.select
  loads : ∃ loads,
    List.Forall₂ (Builds schema limit (limit - 1) query.model) relationships loads ∧
      LoadsAll schema query.model relationships loads ∧
        next.eager =
          query.eager.filter (fun load => load.name ∉ relationships.map name) ++
            EagerLoad.lastOfEach loads

/-- How the registration of a list ends: with the loads of all relationships, or at the first
fault with the loads of those before it. -/
structure Registered (schema : Schema) (limit : Nat) (query : ModelQuery)
    (relationships : List Relationship) (run : Run ModelQuery) : Prop where
  select_eq : run.state.select = query.select
  failure_eq :
    run.failure = LoadPart.firstFault? schema limit (listParts schema query.model 1 relationships)
  finished : run.failure = none → RegistersAll schema limit query relationships run.state
  stopped : ∀ e, run.failure = some e → ∃ sound faulty rest,
    relationships = sound ++ faulty :: rest ∧
      register schema limit sound query = .done run.state ∧
        RegistersAll schema limit query sound run.state ∧
          LoadPart.firstFault? schema limit (listParts schema query.model 1 [faulty]) = some e

theorem names_of_builds {schema : Schema} {limit room : Nat} {model : String}
    {relationships : List Relationship} {loads : List (EagerLoad ModelQuery)}
    (h : List.Forall₂ (Builds schema limit room model) relationships loads) :
    loads.map EagerLoad.name = relationships.map name := by
  induction h with
  | nil => rfl
  | cons hload _ ih => rw [List.map_cons, List.map_cons, hload.name_eq, ih]

theorem registersAll_of_register_eq_done {schema : Schema} {limit : Nat}
    {relationships : List Relationship} {query next : ModelQuery}
    (h : register schema limit relationships query = .done next) :
    RegistersAll schema limit query relationships next := by
  obtain ⟨_, loads, hbuilds, rfl⟩ := registerAll_eq_done_iff.mp h
  refine ⟨ModelQuery.select_foldl_register loads query, loads, hbuilds,
    loadsAll_of_builds hbuilds, ?_⟩
  rw [ModelQuery.eager_foldl_register, names_of_builds hbuilds]

theorem registerAll_succ (schema : Schema) (limit room : Nat)
    (relationships : List Relationship) (query : ModelQuery) :
    registerAll schema limit (room + 1) relationships query =
      Run.stepEach (fun relationship => ModelQuery.load schema relationship.name fun related =>
        (relationship.constrain schema limit room related).result) relationships query := by
  induction relationships generalizing query with
  | nil => rw [registerAll, Run.stepEach]
  | cons relationship rest ih => rw [registerAll, Run.stepEach, funext ih]

/-- The relationships before the one at which a run stops make up a run of their own. -/
theorem exists_faulty_of_registerAll {schema : Schema} {limit room : Nat}
    {relationships : List Relationship} {query : ModelQuery} {e : Error}
    (h : (registerAll schema limit room relationships query).failure = some e) :
    ∃ sound faulty rest,
      relationships = sound ++ faulty :: rest ∧
        registerAll schema limit room sound query =
            .done (registerAll schema limit room relationships query).state ∧
          (registerAll schema limit room [faulty]
            (registerAll schema limit room relationships query).state).failure = some e := by
  cases room with
  | zero =>
      cases relationships with
      | nil => simp [registerAll, Run.done] at h
      | cons relationship rest => exact ⟨[], relationship, rest, rfl, rfl, h⟩
  | succ room =>
      simp only [registerAll_succ] at h ⊢
      obtain ⟨sound, faulty, rest, hsplit, hsound, hfaulty⟩ := Run.exists_faulty_of_stepEach h
      exact ⟨sound, faulty, rest, hsplit, hsound, congrArg Run.failure hfaulty⟩

theorem exists_faulty_of_register {schema : Schema} {limit : Nat}
    {relationships : List Relationship} {query : ModelQuery} {e : Error}
    (h : (register schema limit relationships query).failure = some e) :
    ∃ sound faulty rest,
      relationships = sound ++ faulty :: rest ∧
        register schema limit sound query =
            .done (register schema limit relationships query).state ∧
          RegistersAll schema limit query sound
              (register schema limit relationships query).state ∧
            LoadPart.firstFault? schema limit (listParts schema query.model 1 [faulty]) =
              some e := by
  obtain ⟨sound, faulty, rest, hsplit, hsound, hfaulty⟩ := exists_faulty_of_registerAll h
  have hregisters := registersAll_of_register_eq_done hsound
  have hmodel : (registerAll schema limit limit relationships query).state.model = query.model :=
    congrArg SelectQuery.table hregisters.select_eq
  rw [failure_registerAll [faulty] (Nat.add_comm 1 limit), hmodel] at hfaulty
  exact ⟨sound, faulty, rest, hsplit, hsound, hregisters, hfaulty⟩

theorem select_register (schema : Schema) (limit : Nat) (relationships : List Relationship)
    (query : ModelQuery) :
    (register schema limit relationships query).state.select = query.select := by
  cases hfailure : (register schema limit relationships query).failure with
  | none =>
      exact (registersAll_of_register_eq_done (Run.eq_done_iff.mpr ⟨rfl, hfailure⟩)).select_eq
  | some e =>
      obtain ⟨_, _, _, _, _, hregisters, _⟩ := exists_faulty_of_register hfailure
      exact hregisters.select_eq

end Relationship

/-- Registering relationships replaces the loads of their names by the last load of each, keeps all
else of the query, and ends at the first fault with the loads of the relationships before it. -/
theorem relationships_register_last_loads (schema : Schema) (limit : Nat)
    (relationships : List Relationship) (query : ModelQuery) :
    Relationship.Registered schema limit query relationships
      (Relationship.register schema limit relationships query) where
  select_eq := Relationship.select_register schema limit relationships query
  failure_eq := Relationship.failure_registerAll relationships (Nat.add_comm 1 limit) query
  finished hfinished :=
    Relationship.registersAll_of_register_eq_done (Run.eq_done_iff.mpr ⟨rfl, hfinished⟩)
  stopped _ hstopped := Relationship.exists_faulty_of_register hstopped

example :
    let schema : Schema :=
      { models :=
        [("authors", { relations := [("books", ⟨.hasMany, "books", "author_id", "id"⟩)] }),
          ("books", {})] }
    let relationships : List Relationship :=
      [.short "books" ["title"], .full "books" ["author_id", "a b"] .empty []]
    let run := Relationship.register schema 1 relationships { select := { table := "authors" } }
    run.failure = some (.invalidIdentifier "a b") ∧
      run.state.eager.map (fun load => (load.name, load.query.select.columns)) =
        [("books", ["title"])] := by
  decide +kernel

end QueryShape
