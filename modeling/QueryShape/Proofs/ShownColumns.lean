import QueryShape.Proofs.ListAndRecord

/-!
# Columns that are shown

The columns of a request restrict a record and then name the entries of the object that
shows it.  A column keeps the attribute in which it ends, and the object has an entry for
the column with the value of this attribute, so what is kept is shown.  The star is another
matter: it keeps the whole record, while its own entry shows an attribute of this name, that
is, in general, nothing.  What only the star keeps is not shown.
-/

namespace QueryShape

/-- Columns select an attribute when there are none or when one of them ends in its name. -/
def Selects (columns : List String) (name : String) : Prop :=
  columns = [] ∨ name ∈ columns.map lastSegment

/-- An object shows a value under a name or under a requested column that ends in it. -/
def Shows (columns : List String) (shaped : Fields Json) (name : String) (value : Json) : Prop :=
  ∃ key, (key = name ∨ key ∈ columns ∧ lastSegment key = name) ∧ shaped.get? key = some value

/-- An item shows what the columns of a request ask for, except under names of relationships. -/
structure Request.ShowsColumns (request : Request) (row : Row) (item : Json) : Prop where
  whole :
    request.columns = [] →
      ∀ name ∉ request.relationships.map Relationship.name, item.get? name = row.get? name
  requested :
    ∀ column ∈ request.columns, column ∉ request.relationships.map Relationship.name →
      item.get? column = some (row.column column)

/-! ## Entries of columns -/

theorem columnView_nil (row : Row) :
    columnView [] row = row :=
  rfl

theorem columnView_of_ne_nil {columns : List String} (hcolumns : columns ≠ []) (row : Row) :
    columnView columns row = columns.eraseDups.map fun column => (column, row.column column) := by
  rw [columnView, if_neg (by simpa using hcolumns)]

theorem get?_columnView {columns : List String} {column : String} (h : column ∈ columns)
    (row : Row) :
    (columnView columns row).get? column = some (row.column column) := by
  rw [columnView_of_ne_nil (List.ne_nil_of_mem h)]
  exact Fields.get?_map_of_mem _ (List.mem_eraseDups.mpr h)

theorem mem_of_get?_columnView {columns : List String} (hcolumns : columns ≠ []) {row : Row}
    {key : String} {value : Json} (h : (columnView columns row).get? key = some value) :
    key ∈ columns := by
  rw [columnView_of_ne_nil hcolumns] at h
  obtain ⟨column, hcolumn, hentry⟩ := List.mem_map.mp (Fields.mem_of_get? h)
  cases hentry
  exact List.mem_eraseDups.mp hcolumn

theorem Row.column_of_get? {row : Row} {column : String} {value : Json}
    (h : row.get? (lastSegment column) = some value) :
    row.column column = value := by
  rw [Row.column, h, Option.getD_some]

/-! ## Restricted records -/

/-- A restriction keeps the attributes that the columns select, or all for a star. -/
theorem get?_projectRow_eq_some_iff {columns : List String} {row : Row} {name : String}
    {value : Json} :
    Fields.get? (projectRow columns row) name = some value ↔
      row.get? name = some value ∧ (Selects columns name ∨ "*" ∈ columns) := by
  unfold Selects
  by_cases hall : columns = [] ∨ "*" ∈ columns
  · rw [projectRow_eq_self hall]
    constructor
    · intro h
      exact ⟨h, hall.imp_left .inl⟩
    · rintro ⟨h, _⟩
      exact h
  · rw [get?_projectRow_of_listed hall]
    rw [not_or] at hall
    by_cases hname : name ∈ columns.map lastSegment
    · rw [if_pos hname, and_iff_left (.inl (.inr hname))]
    · rw [if_neg hname]
      simp only [hall.1, hall.2, hname, or_self, and_false, reduceCtorEq]

theorem Record.shape_project_nil (columns : List String) (record : Record) :
    (record.project columns).shape columns [] = columnView columns record.attributes := by
  rw [Record.shape, Relationship.shapeInto, Record.columnShape_project]

theorem shows_columnView_of_selects {columns : List String} {row : Row} {name : String}
    {value : Json} (hvalue : row.get? name = some value) (h : Selects columns name) :
    Shows columns (columnView columns row) name value := by
  rcases h with rfl | hname
  · exact ⟨name, .inl rfl, hvalue⟩
  · obtain ⟨column, hcolumn, rfl⟩ := List.mem_map.mp hname
    refine ⟨column, .inr ⟨hcolumn, rfl⟩, ?_⟩
    rw [get?_columnView hcolumn, Row.column_of_get? hvalue]

theorem selects_of_shows_columnView {columns : List String} {row : Row} {name : String}
    {value : Json} (hname : lastSegment name = name)
    (h : Shows columns (columnView columns row) name value) :
    Selects columns name := by
  obtain ⟨key, hkey, hvalue⟩ := h
  by_cases hcolumns : columns = []
  · exact .inl hcolumns
  · right
    have hmem : key ∈ columns := mem_of_get?_columnView hcolumns hvalue
    have hlast : lastSegment key = name := by
      rcases hkey with rfl | ⟨_, hlast⟩
      · exact hname
      · exact hlast
    exact List.mem_map.mpr ⟨key, hmem, hlast⟩

/-! ## Answers -/

theorem Request.showsColumns_of_get?_eq {request : Request} {row : Row} {shaped : Fields Json}
    (h : ∀ key ∉ request.relationships.map Relationship.name,
      shaped.get? key = (columnView request.columns row).get? key) :
    request.ShowsColumns row (.object shaped) where
  whole hcolumns name hname := by
    rw [Json.get?, h name hname, hcolumns, columnView_nil]
  requested column hcolumn hname := by
    rw [Json.get?, h column hname, get?_columnView hcolumn]

theorem Request.showsColumns_rowView (store : Store) (model : String) (request : Request)
    (row : Row) :
    request.ShowsColumns row
      (rowView request.columns (Relationship.views store model request.relationships row) row) := by
  -- Relationships are put after the columns and replace only entries of their own names.
  refine Request.showsColumns_of_get?_eq fun key hkey => ?_
  rw [← Relationship.names_views store model _ row] at hkey
  exact Fields.get?_putLast_of_not_mem hkey _

theorem Request.showsColumns_shape {request : Request} {row : Row} {record : Record}
    (hrow : record.attributes = row) :
    request.ShowsColumns row (.object (record.shape request.columns request.relationships)) := by
  refine Request.showsColumns_of_get?_eq fun key hkey => ?_
  rw [← Relationship.names_shownBy record] at hkey
  rw [Record.shape, Relationship.shapeInto_eq_putEach, Fields.get?_putEach_of_not_mem hkey,
    Record.columnShape_eq, hrow]

theorem Service.exists_row_of_answerOne {service : Service} {store : Store} {id params data : Json}
    (h : service.answerOne store id params = .ok data) :
    ∃ request definition row, ∃ record : Record,
      service.parse params = .ok request ∧
        store.schema.model service.model = .ok definition ∧
        (store.rows service.model).find? (definition.identifies id) = some row ∧
        record.attributes = row ∧
        data = Service.answer (.object (record.shape request.columns request.relationships)) := by
  simp only [Service.answerOne, bind_eq_ok_iff] at h
  obtain ⟨request, hrequest, found, hfind, hanswer⟩ := h
  obtain ⟨definition, hdefinition, _⟩ := bind_eq_ok_iff.mp hfind
  rw [Store.find_eq hdefinition, Except.ok.injEq] at hfind
  subst hfind
  cases hrow : (store.rows service.model).find? (definition.identifies id) with
  | none =>
      rw [hrow] at hanswer
      cases hanswer
  | some row =>
      rw [hrow] at hanswer
      simp only [Option.map_some, bind_eq_ok_iff, Run.result_eq_ok_iff, pure_eq_ok_iff] at hanswer
      obtain ⟨record, hloaded, rfl⟩ := hanswer
      have hattributes : record.attributes = row := by
        rw [← (Run.eq_done_iff.mp hloaded).1, Relationship.attributes_loadOnto]
      exact ⟨request, definition, row, record, hrequest, hdefinition, hrow, hattributes, rfl⟩

/-- What a restriction keeps is shown unless only a star selects it, and both kinds of answers
show the columns of a request. -/
theorem kept_attribute_shown_iff (record : Record) (columns : List String) (service : Service)
    (store : Store) (params : Json) :
    (∀ (name : String) (value : Json),
        Fields.get? (record.project columns).attributes name = some value →
          ("*" ∉ columns →
            Shows columns ((record.project columns).shape columns []) name value) ∧
          (lastSegment name = name →
            (Shows columns ((record.project columns).shape columns []) name value ↔
              Selects columns name))) ∧
      (∀ data : Json, service.answerAll store params = .ok data →
        ∃ request items, service.parse params = .ok request ∧
          data = Service.answer (.array items) ∧
          List.Forall₂ request.ShowsColumns
            ((store.rows service.model).filter fun row =>
              (request.filter.getD .empty).holds store service.model row)
            items) ∧
      ∀ id data : Json, service.answerOne store id params = .ok data →
        ∃ request definition row item, service.parse params = .ok request ∧
          store.schema.model service.model = .ok definition ∧
          (store.rows service.model).find? (definition.identifies id) = some row ∧
          data = Service.answer item ∧ request.ShowsColumns row item := by
  refine ⟨?_, ?_, ?_⟩
  · intro name value hkept
    obtain ⟨hvalue, hselected⟩ := get?_projectRow_eq_some_iff.mp hkept
    rw [Record.shape_project_nil]
    constructor
    · intro hstar
      exact shows_columnView_of_selects hvalue (hselected.resolve_right hstar)
    · intro hname
      exact ⟨selects_of_shows_columnView hname, shows_columnView_of_selects hvalue⟩
  · intro data hanswer
    obtain ⟨request, _, _, _, _, hrequest, _, _, hdata⟩ := Service.answerAll_eq_ok hanswer
    refine ⟨request, store.view service.model request, hrequest, hdata, ?_⟩
    rw [Store.view, List.forall₂_map_right_iff, List.forall₂_same]
    intro row _
    exact request.showsColumns_rowView store service.model row
  · intro id data hanswer
    obtain ⟨request, definition, row, record, hrequest, hdefinition, hrow, hattributes, hdata⟩ :=
      Service.exists_row_of_answerOne hanswer
    exact ⟨request, definition, row, _, hrequest, hdefinition, hrow, hdata,
      Request.showsColumns_shape hattributes⟩

theorem library_columns_shown :
    let ann : Row := [("id", .number (.int 1)), ("name", .text "Ann")]
    let record : Record := { model := "authors", attributes := ann }
    let columns : List String := ["born", "authors.name", "name"]
    let params : Json := .object [("_columns", .array [.text "authors.name"])]
    let item (name : String) : Json := .object [("authors.name", .text name)]
    Shows columns ((record.project columns).shape columns []) "name" (.text "Ann") ∧
      libraryService.answerAll libraryStore params =
        .ok (Service.answer (.array [item "Ann", item "Bo", item "Cy"])) ∧
      (∃ request items, libraryService.parse params = .ok request ∧
        Service.answer (.array [item "Ann", item "Bo", item "Cy"]) =
          Service.answer (.array items) ∧
        List.Forall₂ request.ShowsColumns
          ((libraryStore.rows "authors").filter fun row =>
            (request.filter.getD .empty).holds libraryStore "authors" row)
          items) ∧
      libraryService.answerOne libraryStore (.text "1") params =
        .ok (Service.answer (item "Ann")) ∧
      ∃ request definition row shown, libraryService.parse params = .ok request ∧
        libraryStore.schema.model "authors" = .ok definition ∧
        (libraryStore.rows "authors").find? (definition.identifies (.text "1")) = some row ∧
        Service.answer (item "Ann") = Service.answer shown ∧ request.ShowsColumns row shown := by
  intro ann record columns params item
  have hkept : Fields.get? (record.project columns).attributes "name" = some (.text "Ann") := by
    decide +kernel
  have hall : libraryService.answerAll libraryStore params =
      .ok (Service.answer (.array [item "Ann", item "Bo", item "Cy"])) := rfl
  have hone : libraryService.answerOne libraryStore (.text "1") params =
      .ok (Service.answer (item "Ann")) := rfl
  obtain ⟨hshown, hlisted, hfound⟩ :=
    kept_attribute_shown_iff record columns libraryService libraryStore params
  exact ⟨(hshown "name" _ hkept).1 (by decide), hall, hlisted _ hall, hone, hfound _ _ hone⟩

/-- The star is accepted and keeps the name, but nothing is shown except an entry for the star. -/
theorem star_keeps_unshown_attribute :
    let ann : Row := [("id", .number (.int 1)), ("name", .text "Ann")]
    let record : Record := { model := "authors", attributes := ann }
    let params : Json := .object [("_columns", .array [.text "*"])]
    let item : Json := .object [("*", .null)]
    SelectQuery.project ["*"] { table := "authors" } =
        .ok { table := "authors", columns := ["*"] } ∧
      Fields.get? (record.project ["*"]).attributes "name" = some (.text "Ann") ∧
      ¬ Shows ["*"] ((record.project ["*"]).shape ["*"] []) "name" (.text "Ann") ∧
      libraryService.answerAll libraryStore params =
        .ok (Service.answer (.array [item, item, item])) ∧
      libraryService.answerOne libraryStore (.text "1") params = .ok (Service.answer item) := by
  intro ann record params item
  have hshape : (record.project ["*"]).shape ["*"] [] = [("*", .null)] := by
    decide +kernel
  refine ⟨by decide +kernel, by decide +kernel, ?_, rfl, rfl⟩
  rw [hshape]
  rintro ⟨key, _, hvalue⟩
  simp [Fields.get?] at hvalue

end QueryShape
