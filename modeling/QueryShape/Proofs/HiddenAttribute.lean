import QueryShape.Proofs.ListAnswers

/-!
# Attributes that a request does not use

A request uses the columns that it asks for, those of its conditions and the keys of the
relations that it follows.  Two stores whose rows differ only in an attribute that is none
of these are the same to the request: at each level the same rows are found in the same
places, and what is shown of them is the same.  Only a list of columns that is empty would
show the whole row.
-/

namespace QueryShape

/-! ## The columns that are used -/

def Relation.keys (relation : Relation) : List String :=
  [relation.parentKey, relation.relatedKey]

/-- A faulty condition uses nothing, since it is never tested. -/
def Condition.usedColumns (schema : Schema) (model : String) : Condition → List String
  | ⟨.relation, .text name :: .text column :: _⟩ =>
    match schema.relation model name with
    | .ok relation => column :: relation.keys
    | .error _ => []
  | ⟨.relation, _⟩ => []
  | ⟨_, .text column :: _⟩ => [column]
  | ⟨_, _⟩ => []

def Filter.usedColumns (schema : Schema) (model : String) (filter : Filter) : List String :=
  filter.conditions.flatMap (Condition.usedColumns schema model)

mutual

def Relationship.usedColumns (schema : Schema) (model : String) : Relationship → List String
  | .short name columns =>
    match schema.relation model name with
    | .ok relation => relation.keys ++ columns
    | .error _ => columns
  | .full name columns filter nested =>
    match schema.relation model name with
    | .ok relation =>
      relation.keys ++ columns ++ filter.usedColumns schema relation.model ++
        Relationship.allUsedColumns schema relation.model nested
    | .error _ => columns

def Relationship.allUsedColumns (schema : Schema) (model : String) :
    List Relationship → List String
  | [] => []
  | relationship :: rest =>
    relationship.usedColumns schema model ++ Relationship.allUsedColumns schema model rest

end

def Request.usedColumns (schema : Schema) (model : String) (request : Request) : List String :=
  request.columns ++ (request.filter.getD .empty).usedColumns schema model ++
    Relationship.allUsedColumns schema model request.relationships

mutual

def Relationship.NamesColumns : Relationship → Prop
  | .short _ columns => columns ≠ []
  | .full _ columns _ nested => columns ≠ [] ∧ Relationship.AllNameColumns nested

def Relationship.AllNameColumns : List Relationship → Prop
  | [] => True
  | relationship :: rest => relationship.NamesColumns ∧ Relationship.AllNameColumns rest

end

/-- Columns are named at the top and at every relationship, whatever its depth. -/
structure Request.NamesColumns (request : Request) : Prop where
  top : request.columns ≠ []
  relationships : Relationship.AllNameColumns request.relationships

/-- An attribute that no column of a list is looked up in. -/
def Hidden (secret : String) (columns : List String) : Prop :=
  ∀ column ∈ columns, lastSegment column ≠ secret

theorem hidden_append {secret : String} {columns more : List String} :
    Hidden secret (columns ++ more) ↔ Hidden secret columns ∧ Hidden secret more :=
  List.forall_mem_append

theorem hidden_cons {secret column : String} {columns : List String} :
    Hidden secret (column :: columns) ↔
      lastSegment column ≠ secret ∧ Hidden secret columns :=
  List.forall_mem_cons

/-! ## Rows and stores that agree -/

def Row.AgreesExcept (secret : String) (row other : Row) : Prop :=
  ∀ name, name ≠ secret → row.get? name = other.get? name

structure Store.AgreesExcept (secret : String) (store other : Store) : Prop where
  schema_eq : store.schema = other.schema
  rows : ∀ table,
    List.Forall₂ (Row.AgreesExcept secret) (store.rows table) (other.rows table)

theorem Row.AgreesExcept.column_eq {secret column : String} {row other : Row}
    (h : Row.AgreesExcept secret row other) (hcolumn : lastSegment column ≠ secret) :
    row.column column = other.column column := by
  unfold Row.column
  rw [h (lastSegment column) hcolumn]

section

variable {α β γ : Type} {R : α → β → Prop} {items : List α} {others : List β}

theorem map_eq_of_forall₂ {f : α → γ} {g : β → γ} (h : List.Forall₂ R items others)
    (hfg : ∀ a b, R a b → f a = g b) :
    items.map f = others.map g := by
  rw [← List.forall₂_eq_eq_eq, List.forall₂_map_left_iff, List.forall₂_map_right_iff]
  exact h.imp hfg

theorem any_eq_of_forall₂ {test : α → Bool} {otherTest : β → Bool}
    (h : List.Forall₂ R items others) (htest : ∀ a b, R a b → test a = otherTest b) :
    items.any test = others.any otherTest := by
  calc
    items.any test = (items.map test).any id := by rw [List.any_map, Function.id_comp]
    _ = (others.map otherTest).any id := by rw [map_eq_of_forall₂ h htest]
    _ = others.any otherTest := by rw [List.any_map, Function.id_comp]

theorem forall₂_filter {test : α → Bool} {otherTest : β → Bool}
    (h : List.Forall₂ R items others) (htest : ∀ a b, R a b → test a = otherTest b) :
    List.Forall₂ R (items.filter test) (others.filter otherTest) := by
  refine List.rel_filter ?_ h
  intro a b hab
  show test a = true ↔ otherTest b = true
  rw [htest a b hab]

end

section

variable {secret : String} {store other : Store}

theorem Store.AgreesExcept.related (hstores : Store.AgreesExcept secret store other)
    {relation : Relation} (hkeys : Hidden secret relation.keys) {row row' : Row}
    (hrow : Row.AgreesExcept secret row row') :
    List.Forall₂ (Row.AgreesExcept secret) (store.related relation row)
      (other.related relation row') := by
  obtain ⟨hparent, hrelated⟩ := hidden_cons.mp hkeys
  have hrelatedKey := (hidden_cons.mp hrelated).1
  simp only [Store.related, hrow.column_eq hparent]
  split
  next => exact .nil
  next =>
    refine forall₂_filter (hstores.rows relation.model) ?_
    intro related related' hagree
    rw [hagree.column_eq hrelatedKey]

theorem Condition.holds_eq_of_agreesExcept (hstores : Store.AgreesExcept secret store other)
    {model : String} {condition : Condition}
    (hhidden : Hidden secret (condition.usedColumns store.schema model)) {row row' : Row}
    (hrow : Row.AgreesExcept secret row row') :
    condition.holds store model row = condition.holds other model row' := by
  unfold Condition.holds
  split
  next column args => rw [hrow.column_eq (hhidden column List.mem_cons_self)]
  next column => rw [hrow.column_eq (hhidden column List.mem_cons_self)]
  next column => rw [hrow.column_eq (hhidden column List.mem_cons_self)]
  next column values => rw [hrow.column_eq (hhidden column List.mem_cons_self)]
  next column values => rw [hrow.column_eq (hhidden column List.mem_cons_self)]
  next name column args =>
    rw [Condition.usedColumns] at hhidden
    rw [← hstores.schema_eq]
    cases hrelation : store.schema.relation model name with
    | error => rfl
    | ok relation =>
        rw [hrelation] at hhidden
        obtain ⟨hcolumn, hkeys⟩ := hidden_cons.mp hhidden
        have hrelated := hstores.related hkeys hrow
        have hany (op : Comparison) (value : Json) :
            ((store.related relation row).any fun related =>
                op.test (related.column column) value) =
              (other.related relation row').any fun related =>
                op.test (related.column column) value := by
          apply any_eq_of_forall₂ hrelated
          intro related related' hagree
          rw [hagree.column_eq hcolumn]
        simp only [hany]
  next => rfl

mutual

theorem FilterTerm.holds_eq_of_agreesExcept
    (hstores : Store.AgreesExcept secret store other) {model : String} {row row' : Row}
    (hrow : Row.AgreesExcept secret row row') :
    ∀ term : FilterTerm,
      Hidden secret (term.conditions.flatMap (Condition.usedColumns store.schema model)) →
        term.holds store model row = term.holds other model row'
  | .condition condition, hhidden => by
      rw [FilterTerm.conditions, List.flatMap_singleton] at hhidden
      rw [FilterTerm.holds, FilterTerm.holds]
      exact Condition.holds_eq_of_agreesExcept hstores hhidden hrow
  | .group chain, hhidden => by
      rw [FilterTerm.conditions] at hhidden
      rw [FilterTerm.holds, FilterTerm.holds,
        FilterChain.runs_eq_of_agreesExcept hstores hrow chain hhidden]

theorem FilterChain.runs_eq_of_agreesExcept
    (hstores : Store.AgreesExcept secret store other) {model : String} {row row' : Row}
    (hrow : Row.AgreesExcept secret row row') :
    ∀ chain : FilterChain,
      Hidden secret (chain.conditions.flatMap (Condition.usedColumns store.schema model)) →
        chain.runs store model row = chain.runs other model row'
  | .one term, hhidden => by
      rw [FilterChain.conditions] at hhidden
      rw [FilterChain.runs, FilterChain.runs,
        FilterTerm.holds_eq_of_agreesExcept hstores hrow term hhidden]
  | .join term next rest, hhidden => by
      rw [FilterChain.conditions, List.flatMap_append, hidden_append] at hhidden
      rw [FilterChain.runs, FilterChain.runs,
        FilterTerm.holds_eq_of_agreesExcept hstores hrow term hhidden.1,
        FilterChain.runs_eq_of_agreesExcept hstores hrow rest hhidden.2]

end

theorem Filter.holds_eq_of_agreesExcept (hstores : Store.AgreesExcept secret store other)
    {model : String} {filter : Filter}
    (hhidden : Hidden secret (filter.usedColumns store.schema model)) {row row' : Row}
    (hrow : Row.AgreesExcept secret row row') :
    filter.holds store model row = filter.holds other model row' := by
  cases filter with
  | empty => rfl
  | chain terms =>
      rw [Filter.holds, Filter.holds,
        FilterChain.runs_eq_of_agreesExcept hstores hrow terms hhidden]

/-! ## Views -/

theorem columnView_eq_of_agreesExcept {columns : List String} (hcolumns : columns ≠ [])
    (hhidden : Hidden secret columns) {row row' : Row}
    (hrow : Row.AgreesExcept secret row row') :
    columnView columns row = columnView columns row' := by
  unfold columnView
  rw [if_neg (by simpa using hcolumns), if_neg (by simpa using hcolumns)]
  apply List.map_congr_left
  intro column hmem
  rw [hrow.column_eq (hhidden column (List.mem_eraseDups.mp hmem))]

theorem rowView_eq_of_agreesExcept {columns : List String} (hcolumns : columns ≠ [])
    (hhidden : Hidden secret columns) {row row' : Row}
    (hrow : Row.AgreesExcept secret row row') {views others : Fields (Option Json)}
    (hviews : views = others) :
    rowView columns views row = rowView columns others row' := by
  rw [rowView, rowView, columnView_eq_of_agreesExcept hcolumns hhidden hrow, hviews]

mutual

theorem Relationship.view_eq_of_agreesExcept
    (hstores : Store.AgreesExcept secret store other) {row row' : Row}
    (hrow : Row.AgreesExcept secret row row') :
    ∀ (relationship : Relationship) {model : String}, relationship.NamesColumns →
      Hidden secret (relationship.usedColumns store.schema model) →
        relationship.view store model row = relationship.view other model row'
  | .short name columns, model, hnames, hhidden => by
      rw [Relationship.NamesColumns] at hnames
      rw [Relationship.usedColumns] at hhidden
      rw [Relationship.view, Relationship.view, ← hstores.schema_eq]
      cases hrelation : store.schema.relation model name with
      | error => rfl
      | ok relation =>
          simp only [hrelation, hidden_append] at hhidden
          have hrelated := hstores.related hhidden.1 hrow
          have hviews := map_eq_of_forall₂ hrelated fun related related' hagree =>
            rowView_eq_of_agreesExcept hnames hhidden.2 hagree (Eq.refl [])
          simp only [hviews]
  | .full name columns filter nested, model, hnames, hhidden => by
      rw [Relationship.NamesColumns] at hnames
      rw [Relationship.usedColumns] at hhidden
      rw [Relationship.view, Relationship.view, ← hstores.schema_eq]
      cases hrelation : store.schema.relation model name with
      | error => rfl
      | ok relation =>
          simp only [hrelation, hidden_append] at hhidden
          obtain ⟨⟨⟨hkeys, hcolumns⟩, hfilter⟩, hnested⟩ := hhidden
          have hfound :=
            forall₂_filter (hstores.related hkeys hrow) fun related related' hagree =>
              Filter.holds_eq_of_agreesExcept hstores hfilter hagree
          have hviews := map_eq_of_forall₂ hfound fun related related' hagree =>
            rowView_eq_of_agreesExcept hnames.1 hcolumns hagree
              (Relationship.views_eq_of_agreesExcept hstores hagree nested hnames.2 hnested)
          simp only [hviews]

theorem Relationship.views_eq_of_agreesExcept
    (hstores : Store.AgreesExcept secret store other) {row row' : Row}
    (hrow : Row.AgreesExcept secret row row') :
    ∀ (relationships : List Relationship) {model : String},
      Relationship.AllNameColumns relationships →
        Hidden secret (Relationship.allUsedColumns store.schema model relationships) →
          Relationship.views store model relationships row =
            Relationship.views other model relationships row'
  | [], _, _, _ => by rw [Relationship.views, Relationship.views]
  | relationship :: rest, model, hnames, hhidden => by
      rw [Relationship.AllNameColumns] at hnames
      rw [Relationship.allUsedColumns, hidden_append] at hhidden
      rw [Relationship.views, Relationship.views,
        Relationship.view_eq_of_agreesExcept hstores hrow relationship hnames.1 hhidden.1,
        Relationship.views_eq_of_agreesExcept hstores hrow rest hnames.2 hhidden.2]

end

theorem Store.view_eq_of_agreesExcept (hstores : Store.AgreesExcept secret store other)
    {model : String} {request : Request} (hnames : request.NamesColumns)
    (hhidden : Hidden secret (request.usedColumns store.schema model)) :
    store.view model request = other.view model request := by
  rw [Request.usedColumns, hidden_append, hidden_append] at hhidden
  obtain ⟨⟨hcolumns, hfilter⟩, hrelationships⟩ := hhidden
  have hfound :=
    forall₂_filter (hstores.rows model) fun row row' hagree =>
      Filter.holds_eq_of_agreesExcept hstores hfilter hagree
  exact map_eq_of_forall₂ hfound fun row row' hagree =>
    rowView_eq_of_agreesExcept hnames.top hcolumns hagree
      (Relationship.views_eq_of_agreesExcept hstores hagree request.relationships
        hnames.relationships hrelationships)

/-! ## Answers -/

/-- Whether a request is refused depends on the schema only, and an answer is a view. -/
theorem Service.answerAll_eq_of_view_eq {service : Service} {params : Json} {request : Request}
    (hschema : store.schema = other.schema) (hparse : service.parse params = .ok request)
    (hview : store.view service.model request = other.view service.model request) :
    service.answerAll store params = service.answerAll other params := by
  let shapes (source : Store) (query : ModelQuery) : List Json :=
    ((source.get query).map (Record.shape request.columns request.relationships)).map .object
  -- The schema alone decides the query, so both stores are asked the same one or none.
  simp only [Service.answerAll, hparse, Store.query, ← hschema]
  cases hholder : ModelQuery.ofModel store.schema service.model with
  | error => rfl
  | ok holder =>
      show
        ((request.apply store.schema service.config.maxDepth holder).result >>= fun query =>
            .ok (answer (.array (shapes store query)))) =
          ((request.apply store.schema service.config.maxDepth holder).result >>= fun query =>
            .ok (answer (.array (shapes other query))))
      cases hquery : (request.apply store.schema service.config.maxDepth holder).result with
      | error => rfl
      | ok query =>
          rw [ModelQuery.eq_of_ofModel hholder, Run.result_eq_ok_iff] at hquery
          obtain ⟨clause, loads, hqueries⟩ := Request.exists_queries_of_apply hquery
          have hshapes : shapes store query = shapes other query := by
            calc
              shapes store query = store.view service.model request := hqueries.shapes_eq_view
              _ = other.view service.model request := hview
              _ = shapes other query := by
                rw [hschema] at hqueries
                exact hqueries.shapes_eq_view.symm
          show Except.ok (answer (.array (shapes store query))) =
            Except.ok (answer (.array (shapes other query)))
          rw [hshapes]

/-- An attribute that the request does not use shows nowhere in the answer. -/
theorem answerAll_eq_of_agreesExcept {service : Service} {params : Json}
    (hrequest : ∀ request, service.parse params = .ok request →
      request.NamesColumns ∧ Hidden secret (request.usedColumns store.schema service.model))
    (hstores : Store.AgreesExcept secret store other) :
    service.answerAll store params = service.answerAll other params := by
  cases hparse : service.parse params with
  | error e => simp only [Service.answerAll, hparse, bind, Except.bind]
  | ok request =>
      obtain ⟨hnames, hhidden⟩ := hrequest request hparse
      exact Service.answerAll_eq_of_view_eq hstores.schema_eq hparse
        (Store.view_eq_of_agreesExcept hstores hnames hhidden)

end

/-! ## Stores with one attribute more -/

def Store.withAttribute (name : String) (value : Json) (store : Store) : Store :=
  { store with
    tables := store.tables.map fun table => (table.1, table.2.map (· ++ [(name, value)])) }

theorem Row.agreesExcept_append (row : Row) (name : String) (value : Json) :
    Row.AgreesExcept name row (row ++ [(name, value)]) := by
  intro key hkey
  induction row with
  | nil => simp [Fields.get?, Ne.symm hkey]
  | cons entry rest ih =>
      obtain ⟨first, old⟩ := entry
      rw [List.cons_append, Fields.get?, Fields.get?, ih]

theorem Store.rows_withAttribute (name : String) (value : Json) (store : Store)
    (table : String) :
    (store.withAttribute name value).rows table =
      (store.rows table).map (· ++ [(name, value)]) := by
  obtain ⟨schema, tables⟩ := store
  simp only [Store.rows, Store.withAttribute]
  induction tables with
  | nil => rfl
  | cons first rest ih =>
      rw [List.map_cons, Fields.get?, Fields.get?]
      split
      next => rfl
      next => exact ih

theorem Store.agreesExcept_withAttribute (name : String) (value : Json) (store : Store) :
    Store.AgreesExcept name store (store.withAttribute name value) where
  schema_eq := rfl
  rows := by
    intro table
    rw [Store.rows_withAttribute, List.forall₂_map_right_iff, List.forall₂_same]
    intro row _
    exact Row.agreesExcept_append row name value

/-- Books by a name, found by a relation and shown with their author. -/
def titlesRequest : Request where
  columns := ["authors.name"]
  filter := some (.chain (.one (.condition
    ⟨.relation, [.text "books", .text "title", .text "!=", .text "B"]⟩)))
  relationships :=
    [.full "books" ["title"] (.chain (.one (.condition ⟨.notNull, [.text "books.title"]⟩)))
      [.short "author" ["name"]]]

def titlesParams : Json :=
  .object
    [("_columns", .array [.text "authors.name"]),
      ("_filters", .array
        [.object
          [("type", .text "whereRel"),
            ("args", .array [.text "books", .text "title", .text "!=", .text "B"])]]),
      ("_relationships", .array
        [.object
          [("name", .text "books"), ("columns", .array [.text "title"]),
            ("filters", .array
              [.object
                [("type", .text "notNull"), ("args", .array [.text "books.title"])]]),
            ("relationships", .array [.text "author:name"])]])]

theorem library_answer_hides_price :
    libraryService.answerAll libraryStore titlesParams =
      libraryService.answerAll (libraryStore.withAttribute "price" (.number (.int 3)))
        titlesParams := by
  have hparse : libraryService.parse titlesParams = .ok titlesRequest := by
    rfl
  refine answerAll_eq_of_agreesExcept ?_ (libraryStore.agreesExcept_withAttribute "price" _)
  intro request h
  rw [hparse] at h
  cases h
  refine ⟨⟨by decide, ?_⟩, ?_⟩
  · exact ⟨⟨List.cons_ne_nil _ _, List.cons_ne_nil _ _, trivial⟩, trivial⟩
  · unfold Hidden
    decide

end QueryShape
