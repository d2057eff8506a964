import Mathlib.Data.List.TakeWhile
import QueryShape.Proofs.BuilderReach
import QueryShape.Proofs.ListAndRecord

/-!
# Records by their keys

A record can be found by its primary key, or a query can ask for the rows whose key equals
an id.  Both compare in the same way and take the rows in order, but they read a qualified
key differently: the query looks for the attribute in which it ends, while the search looks
for an attribute that has the whole key as its name.  So they agree on a key that is not
qualified, and the search for a qualified key finds nothing among rows whose attributes have
plain names.
-/

namespace QueryShape

/-- The first record of a model whose attribute of a name equals an id. -/
def Store.firstWith (store : Store) (model name : String) (id : Json) : Option Record :=
  ((store.rows model).find? fun row => ((row.get? name).getD .null).equals id).map fun row =>
    { model := model, attributes := row }

theorem lastSegment_of_not_mem {column : String} (h : '.' ∉ column.toList) :
    lastSegment column = column := by
  have hplain : ∀ c ∈ column.toList.reverse, (c != '.') = true := by
    intro c hc
    rw [bne_iff_ne]
    exact ne_of_mem_of_not_mem (List.mem_reverse.mp hc) h
  rw [lastSegment, List.takeWhile_eq_self_iff.mpr hplain, List.reverse_reverse,
    String.ofList_toList]

theorem Comparison.holds_eq (actual expected : Json) :
    Comparison.eq.holds actual expected = actual.equals expected := by
  have hcompare : Comparison.eq.holds actual expected =
      (actual.compare? expected).any Comparison.eq.accepts := rfl
  rw [hcompare, Json.equals]
  cases actual.compare? expected with
  | none => rfl
  | some order => cases order <;> rfl

theorem Store.find_eq_firstWith {store : Store} {model : String} {definition : Model}
    (h : store.schema.model model = .ok definition) (id : Json) :
    store.find model id = .ok (store.firstWith model definition.primaryKey id) := by
  rw [Store.find_eq h]
  rfl

/-- The query of a model for the rows in which a column equals an id. -/
def ModelQuery.keyed (model column : String) (id : Json) : ModelQuery :=
  { select := { table := model, clause := [(.and, .compare column .eq id)] } }

theorem Store.query_keyed {store : Store} {model column : String} {definition : Model}
    (hdefinition : store.schema.model model = .ok definition) (hname : isIdentifier model)
    (hcolumn : isIdentifier column) (id : Json) :
    (store.query model >>= (Backend.relational store.schema).compare .and column .eq id) =
      .ok (.keyed model column id) := by
  have hquery : store.query model = .ok { select := { table := model } } :=
    ModelQuery.ofModel_eq_ok_iff.mpr ⟨⟨definition, hdefinition⟩, hname, rfl⟩
  exact bind_eq_ok_iff.mpr ⟨_, hquery, Backend.compare_eq_ok hcolumn _ _ _ _ _⟩

theorem Store.head?_get_keyed (store : Store) (model column : String) (id : Json) :
    (store.get (.keyed model column id)).head? =
      store.firstWith model (lastSegment column) id := by
  have hselected :
      (ModelQuery.keyed model column id).selected store =
        (store.rows model).filter fun row => (row.column column).equals id := by
    unfold ModelQuery.selected ModelQuery.keyed
    simp only [Clause.holds, Clause.holdsFrom, Predicate.holds, Comparison.holds_eq]
  rw [Store.get_of_columns_eq_nil store rfl, ModelQuery.fetch_eq_map, hselected, List.head?_map,
    List.head?_filter]
  rfl

/-- A search by the primary key finds the first record of the query for the key if the key is not
qualified, and nothing if no row has an attribute with the whole key as its name. -/
theorem find_agrees_with_keyed_query {store : Store} {model : String} {definition : Model}
    (hdefinition : store.schema.model model = .ok definition) (hname : isIdentifier model)
    (hkey : isIdentifier definition.primaryKey) (id : Json) :
    ∃ query,
      (store.query model >>=
          (Backend.relational store.schema).compare .and definition.primaryKey .eq id) =
        .ok query ∧
      (store.get query).head? = store.firstWith model (lastSegment definition.primaryKey) id ∧
      store.find model id = .ok (store.firstWith model definition.primaryKey id) ∧
      ('.' ∉ definition.primaryKey.toList →
        store.find model id = .ok (store.get query).head? ∧
          (store.find model id = .ok none ↔ store.get query = [])) ∧
      ((∀ row ∈ store.rows model, row.get? definition.primaryKey = none) →
        store.find model id = .ok none) := by
  have hhead := store.head?_get_keyed model definition.primaryKey id
  have hfind := Store.find_eq_firstWith hdefinition id
  refine ⟨_, Store.query_keyed hdefinition hname hkey id, hhead, hfind, ?_, ?_⟩
  · intro hplain
    have hsame :
        store.find model id =
          .ok (store.get (.keyed model definition.primaryKey id)).head? := by
      rw [hfind, hhead, lastSegment_of_not_mem hplain]
    refine ⟨hsame, ?_⟩
    rw [hsame, Except.ok.injEq, List.head?_eq_none_iff]
  · intro hnone
    -- A missing attribute reads as null, which equals no id, not even a null one.
    have hrows :
        (store.rows model).find? (fun row =>
          ((row.get? definition.primaryKey).getD .null).equals id) = none := by
      rw [List.find?_eq_none]
      intro row hrow
      rw [hnone row hrow, Option.getD_none, Json.null_equals]
      exact Bool.false_ne_true
    rw [hfind, Store.firstWith, hrows, Option.map_none]

/-- The second author is found under the text of the key, and a null key finds no author, not even
the one that has none. -/
theorem library_author_found_by_key :
    let keyedQuery (id : Json) : Except Error ModelQuery :=
      libraryStore.query "authors" >>=
        (Backend.relational libraryStore.schema).compare .and "id" .eq id
    let found : Record := { model := "authors",
                            attributes := [("id", .number (.int 2)), ("name", .text "Bo")] }
    (∃ query, keyedQuery (.text " 2") = .ok query ∧
        libraryStore.find "authors" (.text " 2") = .ok (libraryStore.get query).head? ∧
        libraryStore.find "authors" (.text " 2") = .ok (some found)) ∧
      ∃ query, keyedQuery .null = .ok query ∧ libraryStore.get query = [] ∧
        libraryStore.find "authors" .null = .ok none := by
  intro keyedQuery found
  have hname : isIdentifier "authors" := by decide +kernel
  have hkey : isIdentifier "id" := by decide +kernel
  obtain ⟨finding, hfinding, _, _, hfound, _⟩ :=
    @find_agrees_with_keyed_query libraryStore "authors" _ rfl hname hkey (.text " 2")
  obtain ⟨missing, hmissing, _, _, hnothing, _⟩ :=
    @find_agrees_with_keyed_query libraryStore "authors" _ rfl hname hkey .null
  have hnull : libraryStore.find "authors" .null = .ok none := rfl
  refine ⟨⟨finding, hfinding, (hfound (by decide +kernel)).1, rfl⟩, missing, hmissing, ?_, hnull⟩
  exact (hnothing (by decide +kernel)).2.mp hnull

/-- Users whose primary key is written with their table. -/
def qualifiedKeyStore : Store where
  schema := { models := [("users", { primaryKey := "users.id" })] }
  tables := [("users", [[("id", .number (.int 1)), ("name", .text "Ann")]])]

/-- The query for the qualified key finds the user whom the search does not find. -/
theorem qualified_key_finds_nothing :
    let id : Json := .number (.int 1)
    let ann : Row := [("id", .number (.int 1)), ("name", .text "Ann")]
    isIdentifier "users" ∧ isIdentifier "users.id" ∧
      (qualifiedKeyStore.query "users" >>=
          (Backend.relational qualifiedKeyStore.schema).compare .and "users.id" .eq id) =
        .ok (.keyed "users" "users.id" id) ∧
      qualifiedKeyStore.get (.keyed "users" "users.id" id) =
        [{ model := "users", attributes := ann }] ∧
      qualifiedKeyStore.find "users" id = .ok none := by
  intro id ann
  refine ⟨by decide +kernel, by decide +kernel, rfl, ?_, rfl⟩
  rw [Store.get_of_columns_eq_nil _ rfl]
  rfl

end QueryShape
