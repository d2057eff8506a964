import QueryShape.Proofs.FilterTranslation
import QueryShape.Proofs.RepeatedNames
import QueryShape.Relationship.Load

/-!
# The loads of relationships

Registering a list of relationships makes one load of each, in order, and of the loads
of a name only the last one stays.  The query of a load reads the related model under
the translation of the filter of its relationship and has the loads of the nested
relationships in turn.
-/

namespace QueryShape

/-- A relationship of a model becomes a load whose nested lists have at most `room` levels. -/
structure Relationship.Builds (schema : Schema) (limit room : Nat) (model : String)
    (relationship : Relationship) (load : EagerLoad ModelQuery) : Prop where
  name_eq : load.name = relationship.name
  relation_eq : schema.relation model relationship.name = .ok load.relation
  query_eq :
    ∃ related, ModelQuery.ofModel schema load.relation.model = .ok related ∧
      relationship.constrain schema limit room related = .done load.query

mutual

/-- What a relationship of a model loads, whatever the limits were. -/
inductive Relationship.Loads (schema : Schema) :
    String → Relationship → EagerLoad ModelQuery → Prop
  | short {model name : String} {columns : List String} {relation : Relation}
      (hrelation : schema.relation model name = .ok relation) :
      Relationship.Loads schema model (.short name columns)
        { name := name
          relation := relation
          query := { select := { table := relation.model, columns := columns } } }
  | full {model name : String} {columns : List String} {filter : Filter}
      {nested : List Relationship} {relation : Relation} {clause : Clause}
      {loads : List (EagerLoad ModelQuery)}
      (hrelation : schema.relation model name = .ok relation)
      (hclause : filter.Denotes (.model schema relation.model) clause)
      (hnested : Relationship.LoadsAll schema relation.model nested loads) :
      Relationship.Loads schema model (.full name columns filter nested)
        { name := name
          relation := relation
          query := loads.foldl ModelQuery.register
            { select := { table := relation.model, columns := columns, clause := clause } } }

inductive Relationship.LoadsAll (schema : Schema) :
    String → List Relationship → List (EagerLoad ModelQuery) → Prop
  | nil {model : String} : Relationship.LoadsAll schema model [] []
  | cons {model : String} {relationship : Relationship} {rest : List Relationship}
      {load : EagerLoad ModelQuery} {loads : List (EagerLoad ModelQuery)}
      (h : Relationship.Loads schema model relationship load)
      (hrest : Relationship.LoadsAll schema model rest loads) :
      Relationship.LoadsAll schema model (relationship :: rest) (load :: loads)

end

/-! ## Queries of loads -/

theorem SelectQuery.ofTable_eq_ok_iff {table : String} {query : SelectQuery} :
    ofTable table = .ok query ↔ isIdentifier table ∧ query = { table := table } :=
  identifier_map_eq_ok_iff

namespace ModelQuery

theorem ofModel_eq_ok_iff {schema : Schema} {model : String} {query : ModelQuery} :
    ofModel schema model = .ok query ↔
      (∃ definition, schema.model model = .ok definition) ∧ isIdentifier model ∧
        query = { select := { table := model } } := by
  simp only [ofModel, bind_eq_ok_iff, pure_eq_ok_iff, SelectQuery.ofTable_eq_ok_iff]
  constructor
  · rintro ⟨definition, hdefinition, _, ⟨hname, rfl⟩, rfl⟩
    exact ⟨⟨definition, hdefinition⟩, hname, rfl⟩
  · rintro ⟨⟨definition, hdefinition⟩, hname, rfl⟩
    exact ⟨definition, hdefinition, _, ⟨hname, rfl⟩, rfl⟩

theorem eq_of_ofModel {schema : Schema} {model : String} {query : ModelQuery}
    (h : ofModel schema model = .ok query) :
    query = { select := { table := model } } :=
  (ofModel_eq_ok_iff.mp h).2.2

theorem load_eq_ok_iff {schema : Schema} {name : String}
    {build : ModelQuery → Except Error ModelQuery} {query next : ModelQuery} :
    load schema name build query = .ok next ↔
      ∃ load : EagerLoad ModelQuery,
        load.name = name ∧ schema.relation query.model name = .ok load.relation ∧
          (∃ related, ofModel schema load.relation.model = .ok related ∧
            build related = .ok load.query) ∧
          next = query.register load := by
  simp only [ModelQuery.load, bind_eq_ok_iff, pure_eq_ok_iff]
  constructor
  · rintro ⟨relation, hrelation, related, hrelated, built, hbuilt, rfl⟩
    exact ⟨⟨name, relation, built⟩, rfl, hrelation, ⟨related, hrelated, hbuilt⟩, rfl⟩
  · rintro ⟨⟨_, relation, built⟩, rfl, hrelation, ⟨related, hrelated, hbuilt⟩, rfl⟩
    exact ⟨relation, hrelation, related, hrelated, built, hbuilt, rfl⟩

@[simp] theorem select_register (query : ModelQuery) (load : EagerLoad ModelQuery) :
    (query.register load).select = query.select := rfl

@[simp] theorem select_foldl_register (loads : List (EagerLoad ModelQuery)) (query : ModelQuery) :
    (loads.foldl register query).select = query.select := by
  induction loads generalizing query with
  | nil => rfl
  | cons load rest ih => rw [List.foldl_cons, ih, select_register]

end ModelQuery

theorem Backend.columns_eq_done {schema : Schema} {table : String} {columns : List String}
    {next : ModelQuery}
    (h : (relational schema).columns columns { select := { table := table } } = .done next) :
    next = { select := { table := table, columns := columns } } := by
  unfold Backend.columns at h
  split at h
  next hempty =>
    rw [List.isEmpty_iff.mp hempty]
    exact (Run.eq_done_iff.mp h).1.symm
  next =>
    rw [Run.step_eq_done_iff] at h
    simp only [Backend.project, SelectQuery.project, bind_eq_ok_iff, pure_eq_ok_iff] at h
    obtain ⟨_, ⟨_, _, rfl⟩, rfl⟩ := h
    rfl

theorem Backend.filter_eq_done {schema : Schema} {limit : Nat} {filter : Filter} {table : String}
    {columns : List String} {next : ModelQuery}
    (h : (relational schema).filter limit filter
        { select := { table := table, columns := columns } } = .done next) :
    ∃ clause, filter.Denotes (.model schema table) clause ∧
      next = { select := { table := table, columns := columns, clause := clause } } := by
  have hrun :
      filter.addTo (.model schema table) limit [] =
        .done (filter.addTo (.model schema table) limit []).state :=
    Run.eq_done_iff.mpr ⟨rfl, (Run.eq_done_iff.mp h).2⟩
  obtain ⟨clause, hdenotes, _, _, hstate⟩ := Filter.addTo_eq_done_iff.mp hrun
  refine ⟨clause, hdenotes, ?_⟩
  rw [← List.nil_append clause, ← hstate]
  exact (Run.eq_done_iff.mp h).1.symm

/-! ## Lists of relationships -/

namespace Relationship

theorem load_eq_ok_iff_builds {schema : Schema} {limit room : Nat} {relationship : Relationship}
    {query next : ModelQuery} :
    (ModelQuery.load schema relationship.name (fun related =>
        (relationship.constrain schema limit room related).result) query) = .ok next ↔
      ∃ load, relationship.Builds schema limit room query.model load ∧
        next = query.register load := by
  simp only [ModelQuery.load_eq_ok_iff, Run.result_eq_ok_iff]
  constructor
  · rintro ⟨load, hname, hrelation, hquery, rfl⟩
    exact ⟨load, ⟨hname, hrelation, hquery⟩, rfl⟩
  · rintro ⟨load, hbuilds, rfl⟩
    exact ⟨load, hbuilds.name_eq, hbuilds.relation_eq, hbuilds.query_eq, rfl⟩

/-- Without room only the empty list can be registered. -/
theorem registerAll_eq_done_iff {schema : Schema} {limit room : Nat}
    {relationships : List Relationship} {query next : ModelQuery} :
    registerAll schema limit room relationships query = .done next ↔
      (room = 0 → relationships = []) ∧
        ∃ loads,
          List.Forall₂ (Builds schema limit (room - 1) query.model) relationships loads ∧
            next = loads.foldl ModelQuery.register query := by
  induction relationships generalizing query with
  | nil =>
      simp only [registerAll, List.forall₂_nil_left_iff, exists_eq_left, List.foldl_nil,
        Run.eq_done_iff, implies_true, true_and]
      simp [Run.done, eq_comm]
  | cons relationship rest ih =>
      cases room with
      | zero => simp [registerAll, Run.eq_done_iff]
      | succ room =>
          have hroom : room + 1 ≠ 0 := Nat.succ_ne_zero room
          simp only [registerAll, Run.andThen_eq_done_iff, Run.step_eq_done_iff,
            load_eq_ok_iff_builds, ih, Nat.add_sub_cancel, List.forall₂_cons_left_iff]
          constructor
          · rintro ⟨_, ⟨load, hload, rfl⟩, _, loads, hloads, rfl⟩
            exact ⟨fun h => absurd h hroom, load :: loads, ⟨load, loads, hload, hloads, rfl⟩, rfl⟩
          · rintro ⟨_, _, ⟨load, loads, hload, hloads, rfl⟩, rfl⟩
            exact ⟨query.register load, ⟨load, hload, rfl⟩, fun h => absurd h hroom, loads, hloads,
              rfl⟩

mutual

theorem Builds.loads {schema : Schema} {limit : Nat} :
    ∀ {relationship : Relationship} {room : Nat} {model : String} {load : EagerLoad ModelQuery},
      relationship.Builds schema limit room model load → relationship.Loads schema model load
  | .short name columns, room, model, ⟨loadName, relation, query⟩, h => by
      have hname : loadName = name := h.name_eq
      subst hname
      obtain ⟨related, hrelated, hquery⟩ := h.query_eq
      rw [ModelQuery.eq_of_ofModel hrelated, constrain] at hquery
      have hload : query = { select := { table := relation.model, columns := columns } } :=
        Backend.columns_eq_done hquery
      subst hload
      exact .short h.relation_eq
  | .full name columns filter nested, room, model, ⟨loadName, relation, query⟩, h => by
      have hname : loadName = name := h.name_eq
      subst hname
      obtain ⟨related, hrelated, hquery⟩ := h.query_eq
      rw [ModelQuery.eq_of_ofModel hrelated, constrain, Run.andThen_eq_done_iff] at hquery
      obtain ⟨filtered, hfiltered, hregistered⟩ := hquery
      obtain ⟨projected, hprojected, hfilter⟩ := Run.andThen_eq_done_iff.mp hfiltered
      rw [Backend.columns_eq_done hprojected] at hfilter
      obtain ⟨clause, hclause, rfl⟩ := Backend.filter_eq_done hfilter
      obtain ⟨_, loads, hloads, hload⟩ := registerAll_eq_done_iff.mp hregistered
      have hnested : LoadsAll schema relation.model nested loads := loadsAll_of_builds hloads
      have hquery : query =
          loads.foldl ModelQuery.register
            { select := { table := relation.model, columns := columns, clause := clause } } :=
        hload
      subst hquery
      exact .full h.relation_eq hclause hnested

theorem loadsAll_of_builds {schema : Schema} {limit : Nat} :
    ∀ {relationships : List Relationship} {room : Nat} {model : String}
      {loads : List (EagerLoad ModelQuery)},
      List.Forall₂ (Builds schema limit room model) relationships loads →
        LoadsAll schema model relationships loads
  | [], _, _, _, .nil => .nil
  | _ :: _, _, _, _, .cons h hrest => .cons h.loads (loadsAll_of_builds hrest)

end

end Relationship

/-! ## The last load of a name -/

/-- Loads under their names. -/
def EagerLoad.named (loads : List (EagerLoad ModelQuery)) : Fields (EagerLoad ModelQuery) :=
  loads.map fun load => (load.name, load)

theorem EagerLoad.last?_named_cons (load : EagerLoad ModelQuery)
    (loads : List (EagerLoad ModelQuery)) (name : String) :
    (named (load :: loads)).last? name =
      ((named loads).last? name).or (if load.name = name then some load else none) :=
  rfl

theorem EagerLoad.names_named (loads : List (EagerLoad ModelQuery)) :
    Fields.names (named loads) = loads.map name := by
  rw [Fields.names, named, List.map_map]
  rfl

theorem EagerLoad.last?_named_of_mem {loads : List (EagerLoad ModelQuery)}
    {load : EagerLoad ModelQuery} (hdistinct : (loads.map name).Nodup) (hload : load ∈ loads) :
    (named loads).last? load.name = some load := by
  induction loads with
  | nil => cases hload
  | cons first rest ih =>
      obtain ⟨hfirst, hrest⟩ := List.nodup_cons.mp hdistinct
      rw [← names_named, ← Fields.last?_eq_none_iff] at hfirst
      rw [last?_named_cons]
      rcases List.mem_cons.mp hload with rfl | hmem
      · rw [if_pos rfl, hfirst, Option.none_or]
      · rw [ih hrest hmem, Option.some_or]

namespace ModelQuery

theorem last?_named_filter {other name : String} (hne : other ≠ name)
    (loads : List (EagerLoad ModelQuery)) :
    (EagerLoad.named (loads.filter (·.name != other))).last? name =
      (EagerLoad.named loads).last? name := by
  induction loads with
  | nil => rfl
  | cons load rest ih =>
      by_cases hload : load.name = other
      · have hskip : load.name ≠ name := hload ▸ hne
        rw [List.filter_cons_of_neg (by simp [hload]), ih, EagerLoad.last?_named_cons,
          if_neg hskip, Option.or_none]
      · rw [List.filter_cons_of_pos (by simp [hload]), EagerLoad.last?_named_cons, ih,
          EagerLoad.last?_named_cons]

theorem last?_named_register (query : ModelQuery) (load : EagerLoad ModelQuery) (name : String) :
    (EagerLoad.named (query.register load).eager).last? name =
      if load.name = name then some load else (EagerLoad.named query.eager).last? name := by
  simp only [register, EagerLoad.named, List.map_append, List.map_singleton, Fields.last?_append,
    Fields.last?, Option.none_or]
  by_cases hload : load.name = name
  · rw [if_pos hload, if_pos hload, Option.some_or]
  · rw [if_neg hload, if_neg hload, Option.none_or]
    exact last?_named_filter hload query.eager

/-- The loads of a query are those that were registered last under their names. -/
theorem last?_named_foldl_register (loads : List (EagerLoad ModelQuery)) (query : ModelQuery)
    (name : String) :
    (EagerLoad.named (loads.foldl register query).eager).last? name =
      ((EagerLoad.named loads).last? name).or ((EagerLoad.named query.eager).last? name) := by
  induction loads generalizing query with
  | nil => rfl
  | cons load rest ih =>
      rw [List.foldl_cons, ih, last?_named_register, EagerLoad.last?_named_cons, Option.or_assoc]
      by_cases hload : load.name = name
      · rw [if_pos hload, if_pos hload, Option.some_or]
      · rw [if_neg hload, if_neg hload, Option.none_or]

end ModelQuery

end QueryShape
