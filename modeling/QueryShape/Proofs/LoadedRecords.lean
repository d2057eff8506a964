import QueryShape.Proofs.RelationshipLoads
import QueryShape.Store.Load

/-!
# Records with their loads

Loads are attached to a record one after another, and what one of them finds depends
only on the attributes of the record, which attaching never changes.  So a record that
was fetched with a query has under each name what the last load of that name finds.
Loading relationships onto a record one by one attaches the same loads.
-/

namespace QueryShape

namespace EagerLoad

variable (store : Store)

def pick (load : EagerLoad ModelQuery) (record : Record) : Loaded Record :=
  load.relation.pick load.query.select.columns (load.query.fetch store) record

def attach (record : Record) (load : EagerLoad ModelQuery) : Record :=
  record.setRelation load.name (load.pick store record)

def attachAll (loads : List (EagerLoad ModelQuery)) (record : Record) : Record :=
  loads.foldl (attach store) record

theorem pick_congr (load : EagerLoad ModelQuery) {record other : Record}
    (h : record.attributes = other.attributes) :
    load.pick store record = load.pick store other := by
  simp only [pick, Relation.pick, Record.column, Record.column?, h]

theorem model_attachAll (loads : List (EagerLoad ModelQuery)) (record : Record) :
    (attachAll store loads record).model = record.model := by
  induction loads generalizing record with
  | nil => rfl
  | cons load rest ih => exact ih (attach store record load)

theorem attributes_attachAll (loads : List (EagerLoad ModelQuery)) (record : Record) :
    (attachAll store loads record).attributes = record.attributes := by
  induction loads generalizing record with
  | nil => rfl
  | cons load rest ih => exact ih (attach store record load)

theorem relation?_attachAll (loads : List (EagerLoad ModelQuery)) (record : Record)
    (name : String) :
    (attachAll store loads record).relation? name =
      (((named loads).last? name).map fun load => load.pick store record).or
        (record.relation? name) := by
  induction loads generalizing record with
  | nil => rfl
  | cons load rest ih =>
      have hrest : attachAll store (load :: rest) record =
          attachAll store rest (attach store record load) := rfl
      have hpick (other : EagerLoad ModelQuery) :
          other.pick store (attach store record load) = other.pick store record :=
        other.pick_congr store rfl
      have hset : (attach store record load).relation? name =
          if load.name = name then some (load.pick store record) else record.relation? name :=
        Fields.get?_putByName _ _ _ _
      simp only [hrest, ih, hpick, hset, last?_named_cons]
      cases (named rest).last? name with
      | some last => rfl
      | none => by_cases hload : load.name = name <;> simp [hload]

end EagerLoad

/-- A record has under each name what the last load of the name finds for a parent. -/
def Record.Carries (record : Record) (store : Store) (loads : List (EagerLoad ModelQuery))
    (parent : Record) : Prop :=
  ∀ name,
    record.relation? name =
      ((EagerLoad.named loads).last? name).map fun load => load.pick store parent

theorem EagerLoad.carries_attachAll (store : Store) (loads : List (EagerLoad ModelQuery))
    (model : String) (row : Row) :
    (attachAll store loads { model := model, attributes := row }).Carries store loads
      { model := model, attributes := row } := by
  intro name
  rw [relation?_attachAll]
  exact Option.or_none

/-! ## Fetching -/

namespace ModelQuery

theorem attachAll_eq_map (store : Store) (loads : List (EagerLoad ModelQuery))
    (records : List Record) :
    attachAll store loads records = records.map (EagerLoad.attachAll store loads) := by
  induction loads generalizing records with
  | nil =>
      have hid : EagerLoad.attachAll store [] = id := rfl
      rw [attachAll, hid, List.map_id]
  | cons load rest ih =>
      rw [attachAll, ih, List.map_map]
      rfl

/-- The rows that the clause of a query selects, in order. -/
def selected (store : Store) (query : ModelQuery) : List Row :=
  (store.rows query.select.table).filter fun row =>
    Clause.holds store.rows row query.select.clause

/-- The record of a row that a query selects. -/
def recordOf (store : Store) (query : ModelQuery) (row : Row) : Record :=
  EagerLoad.attachAll store query.eager { model := query.select.table, attributes := row }

theorem fetch_eq_map (store : Store) (query : ModelQuery) :
    query.fetch store = (query.selected store).map (query.recordOf store) := by
  obtain ⟨select, eager⟩ := query
  rw [fetch, attachAll_eq_map, List.map_map]
  rfl

theorem attributes_recordOf (store : Store) (query : ModelQuery) (row : Row) :
    (query.recordOf store row).attributes = row :=
  EagerLoad.attributes_attachAll store query.eager _

theorem carries_recordOf (store : Store) (loads : List (EagerLoad ModelQuery))
    (select : SelectQuery) (row : Row) :
    ((loads.foldl register { select := select }).recordOf store row).Carries store loads
      { model := select.table, attributes := row } := by
  intro name
  have heager :
      (EagerLoad.named (loads.foldl register { select := select }).eager).last? name =
        (EagerLoad.named loads).last? name := by
    rw [last?_named_foldl_register]
    exact Option.or_none
  rw [recordOf, select_foldl_register, ← heager]
  exact EagerLoad.carries_attachAll store _ select.table row name

end ModelQuery

/-- Without columns a query keeps its records whole. -/
theorem Store.get_of_columns_eq_nil (store : Store) {query : ModelQuery}
    (h : query.select.columns = []) :
    store.get query = query.fetch store := by
  have hproject (record : Record) : record.project [] = record := by
    cases record
    rfl
  rw [Store.get, h]
  simp only [hproject, List.map_id']

/-! ## Loading onto a record -/

namespace Store

theorem loadRelation_eq_ok_iff {store : Store} {limit room : Nat} {relationship : Relationship}
    {record next : Record} {holder : ModelQuery} (hholder : store.query record.model = .ok holder) :
    (store.loadRelation relationship.name (fun query =>
        (relationship.constrain store.schema limit room query).result) record) = .ok next ↔
      ∃ load, relationship.Builds store.schema limit room record.model load ∧
        next = EagerLoad.attach store record load := by
  have hblank : holder = { select := { table := record.model } } :=
    ModelQuery.eq_of_ofModel hholder
  subst hblank
  have heager (load : EagerLoad ModelQuery) :
      (ModelQuery.register { select := { table := record.model } } load).eager = [load] := rfl
  simp only [loadRelation, hholder, bind_eq_ok_iff, Relationship.load_eq_ok_iff_builds,
    Except.ok.injEq, exists_eq_left']
  constructor
  · rintro ⟨_, ⟨load, hload, rfl⟩, hnext⟩
    rw [heager] at hnext
    have hattach : EagerLoad.attach store record load = next := by
      rw [← Except.ok.inj hnext, EagerLoad.attach, EagerLoad.pick, hload.name_eq]
    exact ⟨load, hload, hattach.symm⟩
  · rintro ⟨load, hload, rfl⟩
    refine ⟨_, ⟨load, hload, rfl⟩, ?_⟩
    rw [heager, EagerLoad.attach, EagerLoad.pick, hload.name_eq]
    rfl

theorem attributes_loadRelation {store : Store} {name : String}
    {build : ModelQuery → Except Error ModelQuery} {record next : Record}
    (h : store.loadRelation name build record = .ok next) :
    next.attributes = record.attributes := by
  simp only [loadRelation, bind_eq_ok_iff] at h
  obtain ⟨_, _, _, _, hnext⟩ := h
  split at hnext
  next load rest _ =>
    rw [← pure_eq_ok_iff.mp hnext]
    rfl
  next => cases hnext

end Store

namespace Relationship

theorem attributes_loadEach (store : Store) (limit room : Nat)
    (relationships : List Relationship) (record : Record) :
    (loadEach store limit room relationships record).state.attributes = record.attributes := by
  induction relationships generalizing record with
  | nil => rfl
  | cons relationship rest ih =>
      rw [loadEach]
      cases hload : store.loadRelation relationship.name (fun query =>
          (relationship.constrain store.schema limit room query).result) record with
      | ok next =>
          rw [Run.step_of_ok hload]
          exact (ih next).trans (Store.attributes_loadRelation hload)
      | error e =>
          rw [Run.state_step_of_error hload]
          rfl

/-- Whether loading succeeds or not, the attributes of the record stay as they are. -/
theorem attributes_loadOnto (store : Store) (limit : Nat) (relationships : List Relationship)
    (record : Record) :
    (loadOnto store limit relationships record).state.attributes = record.attributes := by
  unfold loadOnto
  split
  next => rfl
  next => rfl
  next room _ => exact attributes_loadEach store (room + 1) room relationships record

/-- A list that is not empty needs a query on the model of the record. -/
theorem loadEach_eq_done_iff {store : Store} {limit room : Nat}
    {relationships : List Relationship} {record next : Record} :
    loadEach store limit room relationships record = .done next ↔
      (relationships ≠ [] → ∃ holder, store.query record.model = .ok holder) ∧
        ∃ loads,
          List.Forall₂ (Builds store.schema limit room record.model) relationships loads ∧
            next = EagerLoad.attachAll store loads record := by
  induction relationships generalizing record with
  | nil => simp [loadEach, Run.done, EagerLoad.attachAll, eq_comm]
  | cons relationship rest ih =>
      rw [loadEach, Run.andThen_eq_done_iff]
      simp only [Run.step_eq_done_iff, ih]
      constructor
      · rintro ⟨middle, hmiddle, _, loads, hloads, rfl⟩
        obtain ⟨holder, hholder, _⟩ := bind_eq_ok_iff.mp hmiddle
        obtain ⟨load, hload, rfl⟩ := (Store.loadRelation_eq_ok_iff hholder).mp hmiddle
        exact ⟨fun _ => ⟨holder, hholder⟩, load :: loads, .cons hload hloads, rfl⟩
      · rintro ⟨hmodel, loads, hbuilds, rfl⟩
        obtain ⟨holder, hholder⟩ := hmodel (List.cons_ne_nil relationship rest)
        cases hbuilds with
        | cons hload hloads =>
            have hattach := (Store.loadRelation_eq_ok_iff hholder).mpr ⟨_, hload, rfl⟩
            exact ⟨_, hattach, fun _ => ⟨holder, hholder⟩, _, hloads, rfl⟩

theorem loadOnto_nil (store : Store) (limit : Nat) (record : Record) :
    loadOnto store limit [] record = .done record := by
  cases limit <;> rfl

theorem loadOnto_cons_zero (store : Store) (relationship : Relationship)
    (rest : List Relationship) (record : Record) :
    loadOnto store 0 (relationship :: rest) record = ⟨record, some (.nestingTooDeep 0)⟩ :=
  rfl

theorem loadOnto_succ (store : Store) (room : Nat) (relationships : List Relationship)
    (record : Record) :
    loadOnto store (room + 1) relationships record =
      loadEach store (room + 1) room relationships record := by
  cases relationships <;> rfl

theorem loadOnto_eq_done_iff {store : Store} {limit : Nat} {relationships : List Relationship}
    {record next : Record} :
    loadOnto store limit relationships record = .done next ↔
      (relationships ≠ [] → limit ≠ 0 ∧ ∃ holder, store.query record.model = .ok holder) ∧
        ∃ loads,
          List.Forall₂ (Builds store.schema limit (limit - 1) record.model) relationships loads ∧
            next = EagerLoad.attachAll store loads record := by
  cases limit with
  | zero =>
      cases relationships with
      | nil => simp [loadOnto_nil, Run.done, EagerLoad.attachAll, eq_comm]
      | cons relationship rest => simp [loadOnto_cons_zero, Run.eq_done_iff]
  | succ room =>
      have hroom : room + 1 ≠ 0 := Nat.succ_ne_zero room
      rw [loadOnto_succ, loadEach_eq_done_iff, Nat.add_sub_cancel]
      simp only [ne_eq, hroom, not_false_eq_true, true_and]

end Relationship

end QueryShape
