import QueryShape.Proofs.ReferenceView
import QueryShape.Service.Basic

/-!
# Answers to requests for lists

The query of a request on a model has the translation of its filter as its clause and
the loads of its relationships.  The records of that query show the views of the rows
that the request asks for, so the answer to a request for a list is its naive reading.
-/

namespace QueryShape

/-- The query of a request on a model, with the loads of its relationships. -/
structure Request.Queries (schema : Schema) (limit : Nat) (model : String) (request : Request)
    (clause : Clause) (loads : List (EagerLoad ModelQuery)) (query : ModelQuery) : Prop where
  denotes : (request.filter.getD .empty).Denotes (.model schema model) clause
  room : limit = 0 → request.relationships = []
  builds :
    List.Forall₂ (Relationship.Builds schema limit (limit - 1) model) request.relationships loads
  query_eq :
    query = loads.foldl ModelQuery.register
      { select := { table := model, columns := request.columns, clause := clause } }

theorem Request.exists_queries_of_apply {schema : Schema} {limit : Nat} {request : Request}
    {model : String} {query : ModelQuery}
    (h : request.apply schema limit { select := { table := model } } = .done query) :
    ∃ clause loads, request.Queries schema limit model clause loads query := by
  rw [Request.apply, Run.andThen_eq_done_iff] at h
  obtain ⟨filtered, hbase, hregistered⟩ := h
  rw [Request.applyBase, Run.andThen_eq_done_iff] at hbase
  obtain ⟨projected, hprojected, hfilter⟩ := hbase
  rw [Backend.columns_eq_done hprojected] at hfilter
  have hfiltered :
      ∃ clause, (request.filter.getD .empty).Denotes (.model schema model) clause ∧
        filtered =
          { select := { table := model, columns := request.columns, clause := clause } } := by
    cases hasked : request.filter with
    | none =>
        rw [hasked] at hfilter
        exact ⟨[], .empty, (Run.eq_done_iff.mp hfilter).1.symm⟩
    | some filter =>
        rw [hasked] at hfilter
        exact Backend.filter_eq_done hfilter
  obtain ⟨clause, hdenotes, rfl⟩ := hfiltered
  obtain ⟨hroom, loads, hbuilds, hquery⟩ := Relationship.registerAll_eq_done_iff.mp hregistered
  exact ⟨clause, loads, hdenotes, hroom, hbuilds, hquery⟩

theorem Request.Queries.shapes_eq_view {store : Store} {limit : Nat} {model : String}
    {request : Request} {clause : Clause} {loads : List (EagerLoad ModelQuery)}
    {query : ModelQuery} (h : request.Queries store.schema limit model clause loads query) :
    ((store.get query).map (Record.shape request.columns request.relationships)).map Json.object =
      store.view model request := by
  have hloads : Relationship.LoadsAll store.schema model request.relationships loads :=
    Relationship.loadsAll_of_builds h.builds
  have hselect :
      query.select = { table := model, columns := request.columns, clause := clause } := by
    rw [h.query_eq, ModelQuery.select_foldl_register]
  have hselected :
      query.selected store =
        (store.rows model).filter fun row =>
          (request.filter.getD .empty).holds store model row := by
    unfold ModelQuery.selected
    simp only [hselect, h.denotes.holds_eq]
  rw [Store.get, ModelQuery.fetch_eq_map, hselected, hselect, Store.view, List.map_map,
    List.map_map, List.map_map]
  apply List.map_congr_left
  intro row _
  exact ModelQuery.shape_recordOf (fun parent => hloads.forall₂_matches parent) h.query_eq row

theorem Service.answerAll_eq_ok {service : Service} {store : Store} {params data : Json}
    (h : service.answerAll store params = .ok data) :
    ∃ request holder clause loads query,
      service.parse params = .ok request ∧ store.query service.model = .ok holder ∧
        request.Queries store.schema service.config.maxDepth service.model clause loads query ∧
          data = Service.answer (.array (store.view service.model request)) := by
  simp only [Service.answerAll, bind_eq_ok_iff, Run.result_eq_ok_iff, pure_eq_ok_iff] at h
  obtain ⟨request, hrequest, holder, hholder, query, hquery, rfl⟩ := h
  have hblank : holder = { select := { table := service.model } } :=
    ModelQuery.eq_of_ofModel hholder
  rw [hblank] at hquery
  obtain ⟨clause, loads, hqueries⟩ := Request.exists_queries_of_apply hquery
  exact ⟨request, holder, clause, loads, query, hrequest, hholder, hqueries,
    by rw [hqueries.shapes_eq_view]⟩

/-- Authors with their books, which have keys of different types. -/
def libraryStore : Store where
  schema :=
    { models :=
      [("authors", { relations := [("books", ⟨.hasMany, "books", "author_id", "id"⟩)] }),
        ("books", { relations := [("author", ⟨.belongsTo, "authors", "author_id", "id"⟩)] })] }
  tables :=
    [("authors",
      [[("id", .number (.int 1)), ("name", .text "Ann")],
        [("id", .number (.int 2)), ("name", .text "Bo")],
        [("id", .null), ("name", .text "Cy")]]),
      ("books",
        [[("title", .text "A"), ("author_id", .number (.int 1))],
          [("title", .null), ("author_id", .number (.int 1))],
          [("title", .text "B"), ("author_id", .text "1")]])]

def libraryService : Service where
  config := {}
  model := "authors"

/-- Asks for `books` twice, the second time with a filter and with the author of each book. -/
def libraryRelationships : Json :=
  .array
    [.object [("name", .text "books")],
      .object
        [("name", .text "books"), ("columns", .array [.text "title"]),
          ("filters", .array
            [.object [("type", .text "notNull"), ("args", .array [.text "title"])]]),
          ("relationships", .array
            [.object [("name", .text "author"), ("columns", .array [.text "name"])]])]]

end QueryShape
