import QueryShape.Proofs.BuiltQueries

/-!
# Whole records

Columns only say what is shown of the records that were found.  A query finds the same rows
and attaches the same related rows as the query for whole records, which has no columns at any
level; its records are those of the other query, restricted at each level to the columns of
that level.  This holds although the keys of a join may be among the attributes that are left
out, as a record is restricted only after its relations have been attached.

Each record has exactly the relations that its query loads: a list under a relation to many,
and otherwise one record or nothing.
-/

namespace QueryShape

namespace Loaded

variable {R S : Type}

def map (f : R → S) : Loaded R → Loaded S
  | .one record => .one (f record)
  | .many records => .many (records.map f)
  | .nothing => .nothing

def records : Loaded R → List R
  | .one record => [record]
  | .many records => records
  | .nothing => []

end Loaded

namespace Fields

variable {α β : Type}

/-- Changes each value by its name. -/
def mapValues (f : String → α → β) (fields : Fields α) : Fields β :=
  fields.map fun entry => (entry.1, f entry.1 entry.2)

theorem mapValues_putByName (f : String → α → β) (fields : Fields α) (key : String) (value : α) :
    mapValues f (putByName fields key value) =
      putByName (mapValues f fields) key (f key value) := by
  induction fields with
  | nil => rfl
  | cons entry rest ih =>
      obtain ⟨name, old⟩ := entry
      by_cases hname : name = key
      · subst hname
        simp [putByName, mapValues]
      · by_cases hlt : name < key
        · simpa [putByName, mapValues, hname, hlt] using ih
        · simp [putByName, mapValues, hname, hlt]

theorem names_putByName_perm {fields : Fields α} {key : String} (h : key ∉ names fields)
    (value : α) :
    (names (putByName fields key value)).Perm (key :: names fields) := by
  induction fields with
  | nil => exact .refl _
  | cons entry rest ih =>
      obtain ⟨name, old⟩ := entry
      have hname : name ≠ key := fun heq => h (heq ▸ List.mem_cons_self)
      have hrest : key ∉ names rest := fun hmem => h (List.mem_cons_of_mem _ hmem)
      by_cases hlt : name < key
      · rw [putByName, if_neg hname, if_pos hlt]
        exact ((ih hrest).cons name).trans (.swap key name (names rest))
      · rw [putByName, if_neg hname, if_neg hlt]
        exact .refl _

end Fields

/-! ## Queries for whole records -/

mutual

/-- The query without columns at any level. -/
def ModelQuery.whole : ModelQuery → ModelQuery
  | ⟨select, eager⟩ => ⟨{ select with columns := [] }, ModelQuery.wholeLoads eager⟩

def ModelQuery.wholeLoads : List (EagerLoad ModelQuery) → List (EagerLoad ModelQuery)
  | [] => []
  | ⟨name, relation, query⟩ :: rest => ⟨name, relation, query.whole⟩ :: ModelQuery.wholeLoads rest

end

mutual

/-- Restricts a whole record at each level to the columns that a query has there. -/
def ModelQuery.prune : ModelQuery → Record → Record
  | ⟨select, eager⟩, record =>
    { record.project select.columns with
      relations := Fields.mapValues (ModelQuery.pruneLoaded eager) record.relations }

/-- Restricts what a relation gave by the load of its name. -/
def ModelQuery.pruneLoaded :
    List (EagerLoad ModelQuery) → String → Loaded Record → Loaded Record
  | [], _, loaded => loaded
  | ⟨other, _, query⟩ :: rest, name, loaded =>
    if other = name then loaded.map query.prune else ModelQuery.pruneLoaded rest name loaded

end

def EagerLoad.whole (load : EagerLoad ModelQuery) : EagerLoad ModelQuery :=
  { load with query := load.query.whole }

namespace ModelQuery

theorem wholeLoads_eq_map (loads : List (EagerLoad ModelQuery)) :
    wholeLoads loads = loads.map EagerLoad.whole := by
  induction loads with
  | nil => rfl
  | cons load rest ih => rw [wholeLoads, ih, List.map_cons, EagerLoad.whole]

theorem whole_eq (query : ModelQuery) :
    query.whole =
      { select := { query.select with columns := [] }
        eager := query.eager.map EagerLoad.whole } := by
  obtain ⟨select, eager⟩ := query
  rw [whole, wholeLoads_eq_map]

theorem prune_eq (query : ModelQuery) (record : Record) :
    query.prune record =
      { record.project query.select.columns with
        relations := Fields.mapValues (pruneLoaded query.eager) record.relations } := by
  obtain ⟨select, eager⟩ := query
  rw [prune]

theorem pruneLoaded_of_mem {loads : List (EagerLoad ModelQuery)} {load : EagerLoad ModelQuery}
    (hdistinct : (loads.map EagerLoad.name).Nodup) (hload : load ∈ loads)
    (loaded : Loaded Record) :
    pruneLoaded loads load.name loaded = loaded.map load.query.prune := by
  induction loads with
  | nil => cases hload
  | cons first rest ih =>
      obtain ⟨hfirst, hrest⟩ := List.nodup_cons.mp hdistinct
      rw [pruneLoaded]
      rcases List.mem_cons.mp hload with rfl | hmem
      · rw [if_pos rfl]
      · have hother : first.name ≠ load.name := fun heq =>
          hfirst (heq ▸ List.mem_map_of_mem hmem)
        rw [if_neg hother, ih hrest hmem]

theorem selected_whole (store : Store) (query : ModelQuery) :
    query.whole.selected store = query.selected store := by
  rw [whole_eq]
  rfl

end ModelQuery

/-! ## Attached records -/

theorem Relation.map_loaded (relation : Relation) (f : Record → Record)
    (records : List Record) :
    (relation.loaded records).map f = relation.loaded (records.map f) := by
  unfold Relation.loaded
  split
  next => rfl
  next => cases records <;> rfl

theorem Record.project_nil (record : Record) : record.project [] = record := by
  cases record
  rfl

namespace EagerLoad

variable (store : Store)

/-- The load for whole records finds the same rows, whose records the other restricts. -/
theorem pick_eq_map_prune {load : EagerLoad ModelQuery}
    (htable : load.query.select.table = load.relation.model)
    (hrecord : ∀ row,
      (load.query.recordOf store row).project load.query.select.columns =
        load.query.prune (load.query.whole.recordOf store row))
    (parent : Record) :
    load.pick store parent = (load.whole.pick store parent).map load.query.prune := by
  have hwhole : load.whole.query.select.table = load.whole.relation.model := by
    rw [whole, ModelQuery.whole_eq]
    exact htable
  have hclause : load.whole.query.select.clause = load.query.select.clause := by
    rw [whole, ModelQuery.whole_eq]
  have hcolumns : load.whole.query.select.columns = [] := by
    rw [whole, ModelQuery.whole_eq]
  rw [pick_eq_loaded store load htable, pick_eq_loaded store load.whole hwhole,
    Relation.map_loaded, List.map_map, hclause, hcolumns]
  simp only [Function.comp_def, Record.project_nil, hrecord]
  rfl

theorem relations_attachAll {loads : List (EagerLoad ModelQuery)}
    {f : String → Loaded Record → Loaded Record}
    (hpick : ∀ load ∈ loads, ∀ parent,
      load.pick store parent = f load.name (load.whole.pick store parent))
    {record other : Record} (hattributes : record.attributes = other.attributes)
    (hrelations : record.relations = Fields.mapValues f other.relations) :
    (attachAll store loads record).relations =
      Fields.mapValues f (attachAll store (loads.map whole) other).relations := by
  induction loads generalizing record other with
  | nil => exact hrelations
  | cons load rest ih =>
      have hattached :
          (attach store record load).relations =
            Fields.mapValues f (attach store other load.whole).relations := by
        have hfound : load.pick store record = f load.name (load.whole.pick store other) := by
          rw [hpick load List.mem_cons_self, load.whole.pick_congr store hattributes]
        simp only [attach, Record.setRelation, hfound, hrelations]
        exact (Fields.mapValues_putByName f _ _ _).symm
      exact ih (fun next hnext => hpick next (List.mem_cons_of_mem _ hnext)) hattributes hattached

theorem names_attachAll {loads : List (EagerLoad ModelQuery)} (record : Record)
    (hdistinct : (loads.map name ++ Fields.names record.relations).Nodup) :
    (Fields.names (attachAll store loads record).relations).Perm
      (loads.map name ++ Fields.names record.relations) := by
  induction loads generalizing record with
  | nil => exact .refl _
  | cons load rest ih =>
      have hnew : load.name ∉ Fields.names record.relations := fun hmem =>
        (List.nodup_cons.mp hdistinct).1 (List.mem_append_right _ hmem)
      have hnames :
          (rest.map name ++ Fields.names (attach store record load).relations).Perm
            ((load :: rest).map name ++ Fields.names record.relations) :=
        ((Fields.names_putByName_perm hnew _).append_left _).trans List.perm_middle
      exact (ih (attach store record load) (hnames.nodup_iff.mpr hdistinct)).trans hnames

end EagerLoad

/-! ## Restricted records -/

/-- The induction goes down the loads; what each finds is known from the query of its own. -/
theorem ModelQuery.WellFormed.project_recordOf {schema : Schema} {query : ModelQuery}
    (h : query.WellFormed schema) (store : Store) (row : Row) :
    (query.recordOf store row).project query.select.columns =
      query.prune (query.whole.recordOf store row) := by
  induction h generalizing row with
  | @intro query conforms _ ih =>
      have hpick :
          ∀ load ∈ query.eager, ∀ parent,
            load.pick store parent =
              pruneLoaded query.eager load.name (load.whole.pick store parent) := by
        intro load hload parent
        rw [pruneLoaded_of_mem conforms.distinct hload]
        exact EagerLoad.pick_eq_map_prune store (conforms.models load hload) (ih load hload) parent
      have hrelations :
          (query.recordOf store row).relations =
            Fields.mapValues (pruneLoaded query.eager)
              (query.whole.recordOf store row).relations := by
        rw [recordOf, recordOf, whole_eq]
        exact EagerLoad.relations_attachAll store hpick rfl rfl
      have hmodel : (query.recordOf store row).model = (query.whole.recordOf store row).model := by
        rw [recordOf, recordOf, EagerLoad.model_attachAll, EagerLoad.model_attachAll, whole_eq]
      rw [prune_eq, Record.project, Record.project, hrelations, hmodel, attributes_recordOf,
        attributes_recordOf]

theorem ModelQuery.WellFormed.get_eq_map_prune {schema : Schema} {query : ModelQuery}
    (h : query.WellFormed schema) (store : Store) :
    store.get query = (store.get query.whole).map query.prune := by
  have hcolumns : query.whole.select.columns = [] := by rw [whole_eq]
  rw [Store.get_of_columns_eq_nil store hcolumns, Store.get, fetch_eq_map, fetch_eq_map,
    selected_whole, List.map_map, List.map_map]
  exact List.map_congr_left fun row _ => h.project_recordOf store row

/-! ## Relations of records -/

/-- A relation to many gives a list, any other one record or nothing. -/
def Relation.Gives (relation : Relation) : Loaded Record → Prop
  | .many _ => relation.isMany = true
  | .one _ | .nothing => relation.isMany = false

/-- A record has exactly the relations that a query loads, and so has each related record. -/
inductive Record.Filled : ModelQuery → Record → Prop
  | intro {query : ModelQuery} {record : Record}
      (names : (Fields.names record.relations).Perm (query.eager.map EagerLoad.name))
      (gives : ∀ load ∈ query.eager, ∀ loaded, record.relation? load.name = some loaded →
        load.relation.Gives loaded)
      (inner : ∀ load ∈ query.eager, ∀ loaded, record.relation? load.name = some loaded →
        ∀ related ∈ loaded.records, Record.Filled load.query related) :
      Record.Filled query record

namespace Relation

theorem gives_loaded (relation : Relation) (records : List Record) :
    relation.Gives (relation.loaded records) := by
  unfold loaded
  by_cases hmany : relation.isMany = true
  · simp [hmany, Gives]
  · cases records <;> simp [hmany, Gives]

theorem mem_of_mem_records_loaded {relation : Relation} {records : List Record} {record : Record}
    (h : record ∈ (relation.loaded records).records) :
    record ∈ records := by
  unfold loaded at h
  split at h
  next => exact h
  next =>
    cases records with
    | nil => cases h
    | cons first rest => exact List.mem_singleton.mp h ▸ List.mem_cons_self

end Relation

theorem ModelQuery.Conforms.relation?_recordOf {schema : Schema} {query : ModelQuery}
    (h : query.Conforms schema) (store : Store) (row : Row) {load : EagerLoad ModelQuery}
    (hload : load ∈ query.eager) :
    (query.recordOf store row).relation? load.name =
      some (load.relation.loaded
        (((store.related load.relation row).filter fun related =>
            Clause.holds store.rows related load.query.select.clause).map fun related =>
          (load.query.recordOf store related).project load.query.select.columns)) := by
  rw [recordOf, EagerLoad.relation?_attachAll, EagerLoad.last?_named_of_mem h.distinct hload,
    Option.map_some, Option.some_or, EagerLoad.pick_eq_loaded store load (h.models load hload)]

theorem ModelQuery.WellFormed.filled_recordOf {schema : Schema} {query : ModelQuery}
    (h : query.WellFormed schema) (store : Store) (row : Row) :
    Record.Filled query ((query.recordOf store row).project query.select.columns) := by
  induction h generalizing row with
  | @intro query conforms _ ih =>
      have hrelation {load : EagerLoad ModelQuery} (hload : load ∈ query.eager)
          {loaded : Loaded Record}
          (hloaded : ((query.recordOf store row).project query.select.columns).relation?
            load.name = some loaded) :=
        Option.some.inj (hloaded.symm.trans (conforms.relation?_recordOf store row hload))
      refine .intro ?_ ?_ ?_
      · have hdistinct : (query.eager.map EagerLoad.name ++ []).Nodup := by
          rw [List.append_nil]
          exact conforms.distinct
        have hnames := EagerLoad.names_attachAll store
          { model := query.select.table, attributes := row } hdistinct
        exact hnames.trans (.of_eq (List.append_nil _))
      · intro load hload loaded hloaded
        rw [hrelation hload hloaded]
        exact load.relation.gives_loaded _
      · intro load hload loaded hloaded related hrelated
        rw [hrelation hload hloaded] at hrelated
        obtain ⟨found, _, rfl⟩ := List.mem_map.mp (Relation.mem_of_mem_records_loaded hrelated)
        exact ih load hload found

/-- What a query finds is found whole and then restricted, so columns have no part in it; each
record has, at every level, the relations that are loaded there. -/
theorem columns_only_restrict_records {schema : Schema} {query : ModelQuery}
    (h : query.Built schema) (store : Store) :
    store.get query = (store.get query.whole).map query.prune ∧
      (∀ other : ModelQuery, other.Built schema → other.whole = query.whole →
        store.get other = (store.get query.whole).map other.prune) ∧
        ∀ record ∈ store.get query, Record.Filled query record := by
  refine ⟨h.wellFormed.get_eq_map_prune store, ?_, ?_⟩
  · intro other hother hwhole
    rw [← hwhole]
    exact hother.wellFormed.get_eq_map_prune store
  · intro record hrecord
    rw [Store.get, ModelQuery.fetch_eq_map, List.map_map] at hrecord
    obtain ⟨row, _, rfl⟩ := List.mem_map.mp hrecord
    exact h.wellFormed.filled_recordOf store row

/-- The books of each author are found by keys that no record shows. -/
theorem library_columns_only_restrict :
    let fresh : ModelQuery := { select := { table := "authors" } }
    let steps : List BuildStep :=
      [.project ["authors.name"], .load "books" [.project ["title"], .load "author" []]]
    let query := (BuildStep.runAll (.relational libraryStore.schema) steps fresh).state
    let shown (record : Record) : Fields Json × List (Fields Json) :=
      (record.attributes,
        ((record.relation? "books").map fun books => books.records.map Record.attributes).getD [])
    (libraryStore.get query).map shown =
        [([("name", .text "Ann")],
            [[("title", .text "A")], [("title", .null)], [("title", .text "B")]]),
          ([("name", .text "Bo")], []),
          ([("name", .text "Cy")], [])] ∧
      query.Built libraryStore.schema ∧
        libraryStore.get query = (libraryStore.get query.whole).map query.prune ∧
          ∀ record ∈ libraryStore.get query, Record.Filled query record := by
  intro fresh steps query shown
  have hfresh : ModelQuery.ofModel libraryStore.schema "authors" = .ok fresh := by
    rfl
  have hbuilt : query.Built libraryStore.schema := ModelQuery.built_runAll hfresh steps
  obtain ⟨hget, _, hfilled⟩ := columns_only_restrict_records hbuilt libraryStore
  exact ⟨by rfl, hbuilt, hget, hfilled⟩

end QueryShape
