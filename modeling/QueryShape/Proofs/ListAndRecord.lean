import QueryShape.Proofs.ListAnswers

/-!
# Lists and single records

A list loads its relationships on one query, attaches what they find to all records at
once and restricts the records to their columns; a single record is found by its key,
gets its relationships one by one and is never restricted.  Both build the same loads,
so both show the view of the row.  A request without a filter therefore shows a record
by its key as it shows it in the list.
-/

namespace QueryShape

/-- Whether the primary key of a row equals an id. -/
def Model.identifies (definition : Model) (id : Json) (row : Row) : Bool :=
  ((row.get? definition.primaryKey).getD .null).equals id

theorem Store.find_eq {store : Store} {model : String} {definition : Model}
    (h : store.schema.model model = .ok definition) (id : Json) :
    store.find model id =
      .ok (((store.rows model).find? (definition.identifies id)).map fun row =>
        { model := model, attributes := row }) := by
  rw [Store.find, h]
  rfl

theorem Store.exists_model_of_query {store : Store} {model : String} {query : ModelQuery}
    (h : store.query model = .ok query) :
    ∃ definition, store.schema.model model = .ok definition :=
  (ModelQuery.ofModel_eq_ok_iff.mp h).1

theorem find?_of_findIdx? {α : Type} {rows : List α} {p : α → Bool} {i : Nat}
    (h : rows.findIdx? p = some i) :
    ∃ row, rows[i]? = some row ∧ rows.find? p = some row := by
  obtain ⟨hlength, hrow, hbefore⟩ := List.findIdx?_eq_some_iff_getElem.mp h
  refine ⟨rows[i], List.getElem?_eq_getElem hlength, ?_⟩
  refine List.find?_eq_some_iff_getElem.mpr ⟨hrow, i, hlength, rfl, ?_⟩
  intro j hj
  simpa using hbefore j hj

theorem Record.shape_attachAll {store : Store} {model : String} {row : Row}
    {columns : List String} {relationships : List Relationship}
    {loads : List (EagerLoad ModelQuery)}
    (h : Relationship.LoadsAll store.schema model relationships loads) :
    Json.object
        ((EagerLoad.attachAll store loads { model := model, attributes := row }).shape columns
          relationships) =
      rowView columns (Relationship.views store model relationships row) row := by
  have hcarries := EagerLoad.carries_attachAll store loads model row
  have hcolumns :
      (EagerLoad.attachAll store loads { model := model, attributes := row }).columnShape columns =
        columnView columns row := by
    rw [Record.columnShape_eq, EagerLoad.attributes_attachAll]
  exact hcarries.shape_eq (h.forall₂_matches _) hcolumns

theorem Service.answerOne_eq_ok {service : Service} {store : Store} {params id : Json}
    {request : Request} {definition : Model} {holder query : ModelQuery} {row : Row}
    {clause : Clause} {loads : List (EagerLoad ModelQuery)}
    (hrequest : service.parse params = .ok request)
    (hdefinition : store.schema.model service.model = .ok definition)
    (hholder : store.query service.model = .ok holder)
    (hqueries : request.Queries store.schema service.config.maxDepth service.model clause loads
      query)
    (hrow : (store.rows service.model).find? (definition.identifies id) = some row) :
    service.answerOne store id params =
      .ok (Service.answer
        (rowView request.columns
          (Relationship.views store service.model request.relationships row) row)) := by
  let found : Record := { model := service.model, attributes := row }
  have hfind : store.find service.model id = .ok (some found) := by
    rw [Store.find_eq hdefinition, hrow]
    rfl
  have hloaded :
      Relationship.loadOnto store service.config.maxDepth request.relationships found =
        .done (EagerLoad.attachAll store loads found) :=
    Relationship.loadOnto_eq_done_iff.mpr
      ⟨fun hne => ⟨fun hzero => hne (hqueries.room hzero), holder, hholder⟩, loads,
        hqueries.builds, rfl⟩
  simp only [Service.answerOne, bind_eq_ok_iff]
  refine ⟨request, hrequest, some found, hfind, ?_⟩
  simp only [bind_eq_ok_iff, Run.result_eq_ok_iff, pure_eq_ok_iff]
  refine ⟨_, hloaded, ?_⟩
  rw [Record.shape_attachAll (Relationship.loadsAll_of_builds hqueries.builds)]

theorem Store.view_of_no_filter {store : Store} {model : String} {request : Request}
    (h : request.filter = none) :
    store.view model request =
      (store.rows model).map fun row =>
        rowView request.columns (Relationship.views store model request.relationships row) row := by
  unfold Store.view
  simp only [h, Option.getD_none, Filter.holds, List.filter_true]

/-- A request without a filter shows the first row of an id as the list shows it. -/
theorem answerOne_eq_item {service : Service} {store : Store} {params id : Json}
    {request : Request} (hrequest : service.parse params = .ok request)
    (hfilter : request.filter = none) :
    (∀ data, service.answerAll store params = .ok data →
      ∃ definition items,
        store.schema.model service.model = .ok definition ∧
          data = Service.answer (.array items) ∧
            ∀ i, (store.rows service.model).findIdx? (definition.identifies id) = some i →
              ∃ item, items[i]? = some item ∧
                service.answerOne store id params = .ok (Service.answer item)) ∧
      ∀ definition, store.schema.model service.model = .ok definition →
        (∀ row ∈ store.rows service.model, definition.identifies id row = false) →
          service.answerOne store id params = .error (.notFound service.model id) := by
  constructor
  · intro data hanswer
    obtain ⟨answered, holder, clause, loads, query, hanswered, hholder, hqueries, hdata⟩ :=
      Service.answerAll_eq_ok hanswer
    have hsame : answered = request := by
      rw [hrequest] at hanswered
      exact (Except.ok.inj hanswered).symm
    subst hsame
    obtain ⟨definition, hdefinition⟩ := Store.exists_model_of_query hholder
    refine ⟨definition, store.view service.model answered, hdefinition, hdata, ?_⟩
    intro i hindex
    obtain ⟨row, hat, hrow⟩ := find?_of_findIdx? hindex
    refine ⟨_, ?_, Service.answerOne_eq_ok hrequest hdefinition hholder hqueries hrow⟩
    rw [Store.view_of_no_filter hfilter, List.getElem?_map, hat, Option.map_some]
  · intro definition hdefinition hnone
    have hfind : store.find service.model id = .ok none := by
      have hrows : (store.rows service.model).find? (definition.identifies id) = none := by
        simpa using hnone
      rw [Store.find_eq hdefinition, hrows]
      rfl
    simp only [Service.answerOne, hrequest, hfind, bind, Except.bind]

theorem library_record_eq_item :
    let params : Json := .object [("_relationships", libraryRelationships)]
    ∃ request items item,
      libraryService.parse params = .ok request ∧ request.filter = none ∧
        libraryService.answerAll libraryStore params = .ok (Service.answer (.array items)) ∧
          items[0]? = some item ∧
            libraryService.answerOne libraryStore (.text "1") params =
                .ok (Service.answer item) ∧
              libraryService.answerOne libraryStore (.number (.int 7)) params =
                .error (.notFound "authors" (.number (.int 7))) := by
  intro params
  have hparse : ∃ request, libraryService.parse params = .ok request ∧ request.filter = none :=
    ⟨_, rfl, rfl⟩
  have hanswer : ∃ data, libraryService.answerAll libraryStore params = .ok data := ⟨_, rfl⟩
  obtain ⟨request, hrequest, hfilter⟩ := hparse
  obtain ⟨data, hdata⟩ := hanswer
  have hknown := @answerOne_eq_item libraryService libraryStore params (.text "1") request
    hrequest hfilter
  have hunknown := @answerOne_eq_item libraryService libraryStore params (.number (.int 7))
    request hrequest hfilter
  obtain ⟨definition, items, hdefinition, rfl, hitems⟩ := hknown.1 data hdata
  cases hdefinition
  obtain ⟨item, hitem, hone⟩ := hitems 0 (by rfl)
  exact ⟨request, items, item, hrequest, hfilter, hdata, hitem, hone,
    hunknown.2 _ rfl (by decide)⟩

end QueryShape
