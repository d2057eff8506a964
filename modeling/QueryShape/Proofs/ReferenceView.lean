import QueryShape.Proofs.FilterMeaning
import QueryShape.Proofs.LoadedRecords
import QueryShape.Service.Request
import QueryShape.Store.Shape

/-!
# What requests show

A request is read naively as nested loops.  It shows the rows that satisfy its filter,
in order; each shows its columns and then, name by name, the view of the last
relationship of the name: all related rows that satisfy the filter of the relationship,
or the first one, shown in the same way.  No query, no load and no attached record
occurs in this reading.  A record that carries the loads of some relationships has the
shape that their views describe.
-/

namespace QueryShape

/-- The columns of a row: all of it if none is requested, or each requested one once. -/
def columnView (columns : List String) (row : Row) : Fields Json :=
  if columns.isEmpty then row
  else columns.eraseDups.map fun column => (column, row.column column)

/-- The columns of a row, and what is seen under the names of relationships. -/
def rowView (columns : List String) (views : Fields (Option Json)) (row : Row) : Json :=
  .object ((columnView columns row).putLast views)

/-- All related views or the first one. -/
def Relation.view (relation : Relation) (views : List Json) : Option Json :=
  if relation.isMany then some (.array views) else views.head?

mutual

/-- What a row of a model shows under the name of a relationship, if anything. -/
def Relationship.view (store : Store) (model : String) : Relationship → Row → Option Json
  | .short name columns, row =>
    match store.schema.relation model name with
    | .ok relation => relation.view ((store.related relation row).map (rowView columns []))
    | .error _ => none
  | .full name columns filter nested, row =>
    match store.schema.relation model name with
    | .ok relation =>
      let found := (store.related relation row).filter fun related =>
        filter.holds store relation.model related
      relation.view <| found.map fun related =>
        rowView columns (Relationship.views store relation.model nested related) related
    | .error _ => none

def Relationship.views (store : Store) (model : String) :
    List Relationship → Row → Fields (Option Json)
  | [], _ => []
  | relationship :: rest, row =>
    (relationship.name, relationship.view store model row) ::
      Relationship.views store model rest row

end

/-- The views of the rows of a model that a request asks for. -/
def Store.view (store : Store) (model : String) (request : Request) : List Json :=
  let found := (store.rows model).filter fun row =>
    (request.filter.getD .empty).holds store model row
  found.map fun row =>
    rowView request.columns (Relationship.views store model request.relationships row) row

/-! ## Columns -/

theorem Fields.last?_filterMap (row : Row) (columns : List String) (key : String) :
    Fields.last? (columns.filterMap fun column =>
        (row.get? (lastSegment column)).map (lastSegment column, ·)) key =
      if key ∈ columns.map lastSegment then row.get? key else none := by
  induction columns with
  | nil => rfl
  | cons column rest ih =>
      rw [List.filterMap_cons, List.map_cons]
      by_cases hname : lastSegment column = key
      · subst hname
        rw [if_pos List.mem_cons_self]
        cases hget : row.get? (lastSegment column) with
        | none =>
            rw [Option.map_none, ih, hget]
            exact ite_self none
        | some value =>
            rw [Option.map_some, Fields.last?, ih, hget, if_pos rfl]
            split <;> rfl
      · have hmem :
            key ∈ lastSegment column :: rest.map lastSegment ↔ key ∈ rest.map lastSegment := by
          simp [Ne.symm hname]
        simp only [hmem]
        cases hget : row.get? (lastSegment column) with
        | none => rw [Option.map_none, ih]
        | some value => rw [Option.map_some, Fields.last?, if_neg hname, Option.or_none, ih]

theorem projectRow_eq_self {columns : List String} (h : columns = [] ∨ "*" ∈ columns) (row : Row) :
    projectRow columns row = row := by
  have hwhole : (columns.isEmpty || columns.contains "*") = true := by simpa using h
  rw [projectRow, if_pos hwhole]

theorem get?_projectRow_of_listed {columns : List String} (h : ¬ (columns = [] ∨ "*" ∈ columns))
    (row : Row) (name : String) :
    Fields.get? (projectRow columns row) name =
      if name ∈ columns.map lastSegment then row.get? name else none := by
  have hwhole : ¬ (columns.isEmpty || columns.contains "*") = true := by simpa using h
  rw [projectRow, if_neg hwhole, Fields.get?_ofEntries, Fields.last?_filterMap]

theorem get?_projectRow (row : Row) {columns : List String} {column : String}
    (h : column ∈ columns) :
    Fields.get? (projectRow columns row) (lastSegment column) =
      Fields.get? row (lastSegment column) := by
  by_cases hall : columns = [] ∨ "*" ∈ columns
  · rw [projectRow_eq_self hall]
  · rw [get?_projectRow_of_listed hall, if_pos (List.mem_map_of_mem h)]

theorem Record.columnShape_eq (columns : List String) (record : Record) :
    record.columnShape columns = columnView columns record.attributes := by
  unfold Record.columnShape columnView
  rw [Fields.ofEntries_map]
  rfl

theorem Record.columnShape_project (columns : List String) (record : Record) :
    (record.project columns).columnShape columns = columnView columns record.attributes := by
  rw [Record.columnShape_eq]
  unfold columnView
  split
  next hempty => simp [Record.project, projectRow, hempty]
  next =>
    apply List.map_congr_left
    intro column hcolumn
    have hget := get?_projectRow record.attributes (List.mem_eraseDups.mp hcolumn)
    simp only [Record.project, Row.column, hget]

/-! ## Related rows -/

def Relation.loaded (relation : Relation) (records : List Record) : Loaded Record :=
  if relation.isMany then .many records
  else
    match records with
    | record :: _ => .one record
    | [] => .nothing

def Relationship.shown (relationship : Relationship) : Loaded Record → Option Json
  | .one record => some (.object (relationship.shape record))
  | .many records => some (.array (records.map fun record => .object (relationship.shape record)))
  | .nothing => none

theorem Relationship.shown_loaded (relationship : Relationship) (relation : Relation)
    (records : List Record) :
    relationship.shown (relation.loaded records) =
      relation.view (records.map fun record => .object (relationship.shape record)) := by
  unfold Relation.loaded Relation.view
  by_cases hmany : relation.isMany
  · simp [hmany, Relationship.shown]
  · cases records <;> simp [hmany, Relationship.shown]

theorem filter_selected_eq (store : Store) (relation : Relation) {query : ModelQuery}
    (htable : query.select.table = relation.model) (row : Row) :
    ((query.selected store).filter fun related =>
        (related.column relation.relatedKey).equals (row.column relation.parentKey)) =
      (store.related relation row).filter fun related =>
        Clause.holds store.rows related query.select.clause := by
  unfold ModelQuery.selected Store.related
  rw [htable, List.filter_filter]
  cases hkey : row.column relation.parentKey with
  | null => simp [Json.isNull, Json.equals_null]
  | bool | number | text | array | object =>
      simp [Json.isNull, List.filter_filter, Bool.and_comm]

theorem EagerLoad.pick_eq_loaded (store : Store) (load : EagerLoad ModelQuery)
    (htable : load.query.select.table = load.relation.model) (parent : Record) :
    load.pick store parent =
      load.relation.loaded
        (((store.related load.relation parent.attributes).filter fun related =>
            Clause.holds store.rows related load.query.select.clause).map fun related =>
          (load.query.recordOf store related).project load.query.select.columns) := by
  have hkey (related : Row) (column : String) (key : Json) :
      (load.query.recordOf store related).hasKey column key =
        (related.column column).equals key := by
    unfold Record.hasKey Record.column Record.column?
    rw [ModelQuery.attributes_recordOf]
    rfl
  have hfound :
      ((load.query.fetch store).filter fun candidate =>
          candidate.hasKey load.relation.relatedKey (parent.column load.relation.parentKey)) =
        ((store.related load.relation parent.attributes).filter fun related =>
          Clause.holds store.rows related load.query.select.clause).map
            (load.query.recordOf store) := by
    rw [ModelQuery.fetch_eq_map, List.filter_map, ← filter_selected_eq store load.relation htable]
    simp only [Function.comp_def, hkey]
    rfl
  have hpick :
      load.pick store parent =
        load.relation.loaded
          (((load.query.fetch store).filter fun candidate =>
              candidate.hasKey load.relation.relatedKey
                (parent.column load.relation.parentKey)).map fun record =>
            record.project load.query.select.columns) :=
    rfl
  rw [hpick, hfound, List.map_map]
  rfl

/-! ## Lists of relationships -/

def Loaded.isPresent {R : Type} : Loaded R → Bool
  | .one _ | .many _ => true
  | .nothing => false

theorem Relationship.isSome_shown (relationship : Relationship) (loaded : Loaded Record) :
    (relationship.shown loaded).isSome = loaded.isPresent := by
  cases loaded <;> rfl

def Relationship.shownBy (record : Record) (relationships : List Relationship) :
    Fields (Option Json) :=
  relationships.map fun relationship =>
    (relationship.name, (record.relation? relationship.name).bind relationship.shown)

theorem Relationship.shownBy_cons (record : Record) (relationship : Relationship)
    (rest : List Relationship) :
    Relationship.shownBy record (relationship :: rest) =
      (relationship.name, (record.relation? relationship.name).bind relationship.shown) ::
        Relationship.shownBy record rest :=
  rfl

theorem Relationship.shapeInto_eq_putEach (relationships : List Relationship) (record : Record)
    (shaped : Fields Json) :
    Relationship.shapeInto relationships record shaped =
      shaped.putEach (Relationship.shownBy record relationships) := by
  induction relationships generalizing shaped with
  | nil => rw [Relationship.shapeInto]; rfl
  | cons relationship rest ih =>
      rw [Relationship.shapeInto, ih, Relationship.shownBy_cons, Fields.putEach_cons]
      congr 1
      cases record.relation? relationship.name with
      | none => rfl
      | some loaded => cases loaded <;> rfl

/-- A load finds for a parent what its relationship views. -/
def Relationship.Matches (store : Store) (model : String) (parent : Record)
    (relationship : Relationship) (load : EagerLoad ModelQuery) : Prop :=
  load.name = relationship.name ∧
    relationship.shown (load.pick store parent) = relationship.view store model parent.attributes

theorem Relationship.names_views (store : Store) (model : String)
    (relationships : List Relationship) (row : Row) :
    Fields.names (Relationship.views store model relationships row) =
      relationships.map Relationship.name := by
  induction relationships with
  | nil => rw [Relationship.views]; rfl
  | cons relationship rest ih => rw [Relationship.views, Fields.names_cons, ih, List.map_cons]

theorem Relationship.names_shownBy (record : Record) (relationships : List Relationship) :
    Fields.names (Relationship.shownBy record relationships) =
      relationships.map Relationship.name := by
  simp [Fields.names, Relationship.shownBy]

theorem Relationship.names_of_matches {store : Store} {model : String} {parent : Record}
    {relationships : List Relationship} {loads : List (EagerLoad ModelQuery)}
    (h : List.Forall₂ (Relationship.Matches store model parent) relationships loads) :
    Fields.names (EagerLoad.named loads) = relationships.map Relationship.name := by
  induction h with
  | nil => rfl
  | @cons relationship load rest loads hfirst hrest ih =>
      rw [List.map_cons, ← ih, ← hfirst.1]
      rfl

theorem Relationship.last?_shownBy {store : Store} {model : String} {parent record : Record}
    {relationships : List Relationship} {loads : List (EagerLoad ModelQuery)}
    (h : List.Forall₂ (Relationship.Matches store model parent) relationships loads)
    {name : String}
    (hname : ∀ load, (EagerLoad.named loads).last? name = some load →
      record.relation? name = some (load.pick store parent)) :
    (Relationship.shownBy record relationships).last? name =
      (Relationship.views store model relationships parent.attributes).last? name := by
  induction h with
  | nil => rw [Relationship.views]; rfl
  | @cons relationship load rest loads hfirst hrest ih =>
      have hnames : Fields.names (EagerLoad.named loads) = rest.map Relationship.name :=
        Relationship.names_of_matches hrest
      rw [Relationship.shownBy_cons, Relationship.views]
      by_cases hmem : name ∈ rest.map Relationship.name
      -- A later relationship has the name, and what this one shows does not matter.
      · rw [Fields.last?_cons_of_mem (by rwa [Relationship.names_shownBy]),
          Fields.last?_cons_of_mem (by rwa [Relationship.names_views])]
        apply ih
        intro later hlater
        apply hname
        rw [EagerLoad.last?_named_cons, hlater, Option.some_or]
      -- Only this relationship can have the name, and its load is the last one.
      · have hloads : (EagerLoad.named loads).last? name = none := by
          rwa [Fields.last?_eq_none_iff, hnames]
        have hshownRest : (Relationship.shownBy record rest).last? name = none := by
          rwa [Fields.last?_eq_none_iff, Relationship.names_shownBy]
        have hviews :
            (Relationship.views store model rest parent.attributes).last? name = none := by
          rwa [Fields.last?_eq_none_iff, Relationship.names_views]
        rw [Fields.last?, Fields.last?, hshownRest, hviews]
        by_cases hfound : relationship.name = name
        · have hload : record.relation? name = some (load.pick store parent) := by
            apply hname
            rw [EagerLoad.last?_named_cons, hloads, Option.none_or, hfirst.1, if_pos hfound]
          rw [hfound, hload, Option.bind_some, hfirst.2]
        · rw [if_neg hfound, if_neg hfound]

theorem Relationship.shapeInto_eq_putLast {store : Store} {model : String}
    {parent record : Record} {relationships : List Relationship}
    {loads : List (EagerLoad ModelQuery)}
    (h : List.Forall₂ (Relationship.Matches store model parent) relationships loads)
    (hcarries : record.Carries store loads parent) (shaped : Fields Json) :
    Relationship.shapeInto relationships record shaped =
      shaped.putLast (Relationship.views store model relationships parent.attributes) := by
  let present (name : String) : Bool := (record.relation? name).any Loaded.isPresent
  have hpresent :
      ∀ entry ∈ Relationship.shownBy record relationships, entry.2.isSome = present entry.1 := by
    intro entry hentry
    obtain ⟨relationship, _, rfl⟩ := List.mem_map.mp hentry
    simp only [present]
    cases record.relation? relationship.name with
    | none => rfl
    | some loaded => exact relationship.isSome_shown loaded
  have hlast (name : String) :
      (Relationship.shownBy record relationships).last? name =
        (Relationship.views store model relationships parent.attributes).last? name := by
    apply Relationship.last?_shownBy h
    intro load hload
    rw [hcarries, hload, Option.map_some]
  rw [Relationship.shapeInto_eq_putEach, Fields.putEach_eq_putLast hpresent]
  simp only [Fields.putLast, hlast, Relationship.names_shownBy, Relationship.names_views]

theorem Record.Carries.shape_eq {store : Store} {model : String} {parent record : Record}
    {columns : List String} {relationships : List Relationship}
    {loads : List (EagerLoad ModelQuery)} (hcarries : record.Carries store loads parent)
    (h : List.Forall₂ (Relationship.Matches store model parent) relationships loads)
    (hcolumns : record.columnShape columns = columnView columns parent.attributes) :
    Json.object (record.shape columns relationships) =
      rowView columns (Relationship.views store model relationships parent.attributes)
        parent.attributes := by
  rw [Record.shape, Relationship.shapeInto_eq_putLast h hcarries, hcolumns]
  rfl

theorem ModelQuery.shape_recordOf {store : Store} {select : SelectQuery}
    {relationships : List Relationship} {loads : List (EagerLoad ModelQuery)}
    (h : ∀ parent,
      List.Forall₂ (Relationship.Matches store select.table parent) relationships loads)
    {query : ModelQuery} (hquery : query = loads.foldl ModelQuery.register { select := select })
    (row : Row) :
    Json.object
        (((query.recordOf store row).project select.columns).shape select.columns relationships) =
      rowView select.columns (Relationship.views store select.table relationships row) row := by
  have hcarries :
      ((query.recordOf store row).project select.columns).Carries store loads
        { model := select.table, attributes := row } :=
    hquery ▸ ModelQuery.carries_recordOf store loads select row
  have hcolumns :
      ((query.recordOf store row).project select.columns).columnShape select.columns =
        columnView select.columns row := by
    rw [Record.columnShape_project, ModelQuery.attributes_recordOf]
  exact hcarries.shape_eq (h _) hcolumns

/-! ## Loads show views -/

theorem Relationship.Loads.name_eq {schema : Schema} {model : String}
    {relationship : Relationship} {load : EagerLoad ModelQuery}
    (h : relationship.Loads schema model load) :
    load.name = relationship.name := by
  cases h with
  | short => rfl
  | full => rfl

mutual

theorem Relationship.Loads.shown_pick {store : Store} :
    ∀ {relationship : Relationship} {model : String} {load : EagerLoad ModelQuery},
      relationship.Loads store.schema model load → ∀ parent : Record,
        relationship.shown (load.pick store parent) =
          relationship.view store model parent.attributes
  | .short name columns, model, _, @Loads.short _ _ _ _ relation hrelation, parent => by
      have hselect (related : Row) : Clause.holds store.rows related [] = true := by
        rw [Clause.holds]
      rw [EagerLoad.pick_eq_loaded store _ rfl, Relationship.shown_loaded, List.map_map,
        Relationship.view, hrelation]
      simp only [hselect, List.filter_true]
      congr 1
      apply List.map_congr_left
      intro related _
      rw [Function.comp_apply, Relationship.shape, Record.columnShape_project,
        ModelQuery.attributes_recordOf]
      rfl
  | .full name columns filter nested, model, _,
      @Loads.full _ _ _ _ _ _ relation clause loads hrelation hclause hnested, parent => by
      have htable :
          (loads.foldl ModelQuery.register
              { select :=
                { table := relation.model, columns := columns, clause := clause } }).select =
            { table := relation.model, columns := columns, clause := clause } :=
        ModelQuery.select_foldl_register loads _
      rw [EagerLoad.pick_eq_loaded store _ (by rw [htable]), Relationship.shown_loaded,
        List.map_map, Relationship.view, hrelation]
      simp only [htable, hclause.holds_eq]
      congr 1
      apply List.map_congr_left
      intro related _
      rw [Function.comp_apply, Relationship.shape]
      exact ModelQuery.shape_recordOf
        (fun parent => Relationship.LoadsAll.forall₂_matches hnested parent) rfl related

theorem Relationship.LoadsAll.forall₂_matches {store : Store} :
    ∀ {relationships : List Relationship} {model : String} {loads : List (EagerLoad ModelQuery)},
      Relationship.LoadsAll store.schema model relationships loads → ∀ parent : Record,
        List.Forall₂ (Relationship.Matches store model parent) relationships loads
  | [], _, _, .nil, _ => .nil
  | _ :: _, _, _, .cons h hrest, parent =>
      .cons ⟨h.name_eq, Relationship.Loads.shown_pick h parent⟩
        (Relationship.LoadsAll.forall₂_matches hrest parent)

end

end QueryShape
