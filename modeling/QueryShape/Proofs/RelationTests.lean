import QueryShape.Proofs.ListAnswers

/-!
# Tests of relations and their loads

A condition can ask whether a row has a related row whose column passes a comparison, and
a relationship can load the related rows that satisfy the same comparison as a filter of
their own.  The condition is decided on the rows themselves, with a column test of its own;
the load runs a query on the related model and joins what it finds by the keys.  They agree
on every row: the condition holds exactly where the load finds something.
-/

namespace QueryShape

/-- The filter of a single condition. -/
def Filter.ofCondition (condition : Condition) : Filter :=
  .chain (.one (.condition condition))

/-- Something was found: at least one record of many, or the one record. -/
def Relation.Finds (relation : Relation) : Loaded Record → Prop
  | .many records => relation.isMany = true ∧ records ≠ []
  | .one _ => relation.isMany = false
  | .nothing => False

theorem Relation.finds_loaded_iff {relation : Relation} {records : List Record} :
    relation.Finds (relation.loaded records) ↔ records ≠ [] := by
  unfold Relation.loaded
  by_cases hmany : relation.isMany = true
  · simp [hmany, Relation.Finds]
  · cases records <;> simp [hmany, Relation.Finds]

/-! ## Comparisons as conditions -/

section

variable {column : String} {args : List Json} {op : Comparison} {value : Json}

theorem Condition.exists_denotes_compare (scope : Scope) (hcolumn : isIdentifier column)
    (hargs : ComparisonArgs args op value) :
    ∃ predicate, Condition.Denotes scope ⟨.compare, .text column :: args⟩ predicate := by
  by_cases hvalue : op.TestsNull value
  · obtain ⟨rfl | rfl, rfl⟩ := hvalue
    · exact ⟨_, .isNull hcolumn hargs⟩
    · exact ⟨_, .isNotNull hcolumn hargs⟩
  · exact ⟨_, .compare hcolumn hargs hvalue⟩

/-- A relation is tested by the comparison that a condition on the related model makes. -/
theorem Condition.holds_relation {store : Store} {model name : String} {relation : Relation}
    (hrelation : store.schema.relation model name = .ok relation)
    (hargs : ComparisonArgs args op value) (row : Row) :
    Condition.holds store model row ⟨.relation, .text name :: .text column :: args⟩ =
      (store.related relation row).any fun related =>
        Condition.holds store relation.model related ⟨.compare, .text column :: args⟩ := by
  simp [Condition.holds, hrelation, hargs.comparisonArgs?_eq]

end

/-! ## Filters of a single condition -/

theorem Condition.Denotes.ofCondition {scope : Scope} {condition : Condition}
    {predicate : Predicate} (h : condition.Denotes scope predicate) :
    (Filter.ofCondition condition).Denotes scope [(.and, predicate)] :=
  .chain (.one (.condition h))

theorem Condition.Denotes.filter_eq {schema : Schema} {model : String} {condition : Condition}
    {predicate : Predicate} (h : condition.Denotes (.model schema model) predicate) {limit : Nat}
    (hlimit : 0 < limit) :
    (Backend.relational schema).filter limit (.ofCondition condition)
        { select := { table := model } } =
      .done { select := { table := model, clause := [(.and, predicate)] } } := by
  have hrun :
      (Filter.ofCondition condition).addTo (.model schema model) limit [] =
        .done ([] ++ [(.and, predicate)]) :=
    Filter.addTo_eq_done_iff.mpr ⟨_, h.ofCondition, hlimit, hlimit, rfl⟩
  have hfilter :
      (Backend.relational schema).filter limit (.ofCondition condition)
          { select := { table := model } } =
        ⟨{ select := { table := model
                       clause := ((Filter.ofCondition condition).addTo (.model schema model)
                         limit []).state } },
          ((Filter.ofCondition condition).addTo (.model schema model) limit []).failure⟩ :=
    rfl
  rw [hfilter, hrun]
  rfl

theorem Condition.Denotes.clause_holds_eq {store : Store} {model : String} {condition : Condition}
    {predicate : Predicate} (h : condition.Denotes (.model store.schema model) predicate)
    (row : Row) :
    Clause.holds store.rows row [(.and, predicate)] = condition.holds store model row := by
  rw [Clause.holds, Clause.holdsFrom, h.holds_eq]

/-! ## Loads under a single condition -/

/-- The load of the related records that pass a predicate, with all their columns. -/
def EagerLoad.under (name : String) (relation : Relation) (predicate : Predicate) :
    EagerLoad ModelQuery where
  name := name
  relation := relation
  query := { select := { table := relation.model, clause := [(.and, predicate)] } }

theorem Condition.Denotes.register_eq {schema : Schema} {model name : String}
    {relation : Relation} {definition : Model} {condition : Condition} {predicate : Predicate}
    (h : condition.Denotes (.model schema relation.model) predicate)
    (hrelation : schema.relation model name = .ok relation)
    (hdefinition : schema.model relation.model = .ok definition)
    (hname : isIdentifier relation.model) {limit : Nat} (hlimit : 0 < limit) :
    Relationship.register schema limit [.full name [] (.ofCondition condition) []]
        { select := { table := model } } =
      .done { select := { table := model }, eager := [.under name relation predicate] } := by
  have hconstrain :
      (Relationship.full name [] (.ofCondition condition) []).constrain schema limit (limit - 1)
          { select := { table := relation.model } } =
        .done (EagerLoad.under name relation predicate).query := by
    rw [Relationship.constrain, Run.andThen_eq_done_iff]
    refine ⟨_, ?_, rfl⟩
    exact h.filter_eq hlimit
  have hrelated :
      ModelQuery.ofModel schema relation.model = .ok { select := { table := relation.model } } :=
    ModelQuery.ofModel_eq_ok_iff.mpr ⟨⟨definition, hdefinition⟩, hname, rfl⟩
  have hbuilds :
      (Relationship.full name [] (.ofCondition condition) []).Builds schema limit (limit - 1) model
        (.under name relation predicate) :=
    { name_eq := rfl
      relation_eq := hrelation
      query_eq := ⟨_, hrelated, hconstrain⟩ }
  refine Relationship.registerAll_eq_done_iff.mpr ⟨?_, _, .cons hbuilds .nil, rfl⟩
  intro hzero
  omega

theorem EagerLoad.finds_pick_under_iff {store : Store} {condition : Condition}
    {predicate : Predicate} {relation : Relation} (name : String)
    (h : condition.Denotes (.model store.schema relation.model) predicate) (parent : Record) :
    relation.Finds ((EagerLoad.under name relation predicate).pick store parent) ↔
      ((store.related relation parent.attributes).any fun related =>
        condition.holds store relation.model related) = true := by
  have hpick := EagerLoad.pick_eq_loaded store (.under name relation predicate) rfl parent
  rw [hpick]
  refine Relation.finds_loaded_iff.trans ?_
  simp only [EagerLoad.under, h.clause_holds_eq, ne_eq, List.map_eq_nil_iff,
    List.filter_eq_nil_iff, List.any_eq_true, not_forall, not_not, exists_prop]

/-- Without a clause every row of the model is found, and without columns it stays whole. -/
theorem Store.get_of_loads (store : Store) (model : String)
    (loads : List (EagerLoad ModelQuery)) :
    store.get { select := { table := model }, eager := loads } =
      (store.rows model).map fun row =>
        EagerLoad.attachAll store loads { model := model, attributes := row } := by
  have hselected :
      ModelQuery.selected store { select := { table := model }, eager := loads } =
        store.rows model := by
    unfold ModelQuery.selected
    simp [Clause.holds]
  rw [Store.get_of_columns_eq_nil store rfl, ModelQuery.fetch_eq_map, hselected]
  rfl

/-- A row satisfies the test of a relation exactly if the load with the same comparison finds
something for it, whatever is null or absent on either side. -/
theorem relation_condition_iff_load_finds {store : Store} {model name column : String}
    {relation : Relation} {definition : Model} {args : List Json} {op : Comparison} {value : Json}
    (hrelation : store.schema.relation model name = .ok relation)
    (hdefinition : store.schema.model relation.model = .ok definition)
    (hname : isIdentifier relation.model) (hcolumn : isIdentifier column)
    (hargs : ComparisonArgs args op value) {limit : Nat} (hlimit : 0 < limit) :
    let fresh : ModelQuery := { select := { table := model } }
    ∃ tested loaded,
      (Backend.relational store.schema).filter limit
          (.ofCondition ⟨.relation, .text name :: .text column :: args⟩) fresh = .done tested ∧
        Relationship.register store.schema limit
            [.full name [] (.ofCondition ⟨.compare, .text column :: args⟩) []] fresh =
          .done loaded ∧
        List.Forall₂
          (fun row record =>
            record.attributes = row ∧
              ∃ found, record.relation? name = some found ∧
                (Clause.holds store.rows row tested.select.clause = true ↔
                  relation.Finds found))
          (store.rows model) (store.get loaded) := by
  intro fresh
  obtain ⟨predicate, hcompare⟩ :=
    Condition.exists_denotes_compare (.model store.schema relation.model) hcolumn hargs
  have hrelated : Condition.Denotes (.model store.schema model)
      ⟨.relation, .text name :: .text column :: args⟩
      (.related name (relation.correlation model) column (.ofComparison op value)) :=
    .related rfl hrelation hcolumn hargs (op.asks_ofComparison value)
  refine ⟨_, _, hrelated.filter_eq hlimit,
    hcompare.register_eq hrelation hdefinition hname hlimit, ?_⟩
  rw [Store.get_of_loads, List.forall₂_map_right_iff, List.forall₂_same]
  intro row _
  let parent : Record := { model := model, attributes := row }
  let load : EagerLoad ModelQuery := .under name relation predicate
  have hfound :
      (EagerLoad.attachAll store [load] parent).relation? name =
        some (load.pick store parent) := by
    rw [EagerLoad.carries_attachAll store [load] model row name]
    simp [EagerLoad.named, Fields.last?, load, EagerLoad.under, parent]
  refine ⟨EagerLoad.attributes_attachAll store [load] parent, _, hfound, ?_⟩
  rw [hrelated.clause_holds_eq, Condition.holds_relation hrelation hargs]
  exact (EagerLoad.finds_pick_under_iff name hcompare parent).symm

/-- Of three authors one has books with a title, one has no books, and one has no key. -/
theorem library_authors_of_titled_books :
    let fresh : ModelQuery := { select := { table := "authors" } }
    let comparison : List Json := [.text "books.title", .text "!=", .null]
    ∃ tested loaded,
      (Backend.relational libraryStore.schema).filter 1
          (.ofCondition ⟨.relation, .text "books" :: comparison⟩) fresh = .done tested ∧
        (libraryStore.rows "authors").map
            (fun row => Clause.holds libraryStore.rows row tested.select.clause) =
          [true, false, false] ∧
        Relationship.register libraryStore.schema 1
            [.full "books" [] (.ofCondition ⟨.compare, comparison⟩) []] fresh = .done loaded ∧
        List.Forall₂
          (fun row record => ∃ found, record.relation? "books" = some found ∧
            (Clause.holds libraryStore.rows row tested.select.clause = true ↔
              Relation.Finds ⟨.hasMany, "books", "author_id", "id"⟩ found))
          (libraryStore.rows "authors") (libraryStore.get loaded) := by
  intro fresh comparison
  have hargs : ComparisonArgs [.text "!=", .null] .ne .null := .operator .null (by decide +kernel)
  obtain ⟨tested, loaded, htested, hloaded, hagree⟩ :=
    @relation_condition_iff_load_finds libraryStore "authors" "books" "books.title"
      ⟨.hasMany, "books", "author_id", "id"⟩ _ _ _ _ rfl rfl (by decide +kernel)
      (by decide +kernel) hargs 1 Nat.one_pos
  refine ⟨tested, loaded, htested, ?_, hloaded, hagree.imp fun _ _ h => h.2⟩
  rw [← (Run.eq_done_iff.mp htested).1]
  rfl

end QueryShape
