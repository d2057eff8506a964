import QueryShape.Proofs.RelationTests
import QueryShape.Proofs.ValueOrder
import QueryShape.Proofs.ListMembership

/-!
# Converse relations

A model has many records of another one by a pair of keys, and these belong to it by the same
pair.  Loading the first relation collects for a row the rows with its key, and loading the
second one finds for a row the first row whose key it has.  Each direction takes the key of its
own row and drops null keys there; since the equality of keys is symmetric and null equals
nothing, both directions join the same pairs of rows.
-/

namespace QueryShape

def Loaded.ofOption {R : Type} : Option R → Loaded R
  | some record => .one record
  | none => .nothing

/-- What a relation gives for each row of a model when it is loaded without any condition, onto a
single record as well as in a list. -/
structure Store.Attaches (store : Store) (model name : String) (found : Row → Loaded Record) :
    Prop where
  onto :
    ∀ record : Record, record.model = model →
      store.loadRelation name .ok record =
        .ok (record.setRelation name (found record.attributes))
  listed :
    ∃ query, (store.query model >>= ModelQuery.load store.schema name .ok) = .ok query ∧
      store.get query = (store.rows model).map fun row =>
        Record.setRelation { model := model, attributes := row } name (found row)

/-! ## Loads without conditions -/

def EagerLoad.unconstrained (name : String) (relation : Relation) : EagerLoad ModelQuery where
  name := name
  relation := relation
  query := { select := { table := relation.model } }

theorem EagerLoad.pick_unconstrained (store : Store) (name : String) (relation : Relation)
    (parent : Record) :
    (EagerLoad.unconstrained name relation).pick store parent =
      relation.loaded ((store.related relation parent.attributes).map fun related =>
        { model := relation.model, attributes := related }) := by
  have hall (related : Row) : Clause.holds store.rows related [] = true := by
    rw [Clause.holds]
  rw [EagerLoad.pick_eq_loaded store _ rfl]
  simp only [EagerLoad.unconstrained, hall, List.filter_true]
  rfl

theorem Schema.exists_model_of_relation {schema : Schema} {model name : String}
    {relation : Relation} (h : schema.relation model name = .ok relation) :
    ∃ definition, schema.model model = .ok definition := by
  obtain ⟨definition, hdefinition, _⟩ := bind_eq_ok_iff.mp h
  exact ⟨definition, hdefinition⟩

theorem Store.load_unconstrained {store : Store} {model name : String} {relation : Relation}
    (hrelation : store.schema.relation model name = .ok relation) (hname : isIdentifier model)
    (hrelated : ∃ definition, store.schema.model relation.model = .ok definition)
    (hrelatedName : isIdentifier relation.model) :
    (store.query model >>= ModelQuery.load store.schema name .ok) =
      .ok { select := { table := model }, eager := [.unconstrained name relation] } := by
  have hquery : store.query model = .ok { select := { table := model } } :=
    ModelQuery.ofModel_eq_ok_iff.mpr
      ⟨Schema.exists_model_of_relation hrelation, hname, rfl⟩
  have hrelatedQuery :
      ModelQuery.ofModel store.schema relation.model =
        .ok { select := { table := relation.model } } :=
    ModelQuery.ofModel_eq_ok_iff.mpr ⟨hrelated, hrelatedName, rfl⟩
  refine bind_eq_ok_iff.mpr ⟨_, hquery, ModelQuery.load_eq_ok_iff.mpr ?_⟩
  exact ⟨.unconstrained name relation, rfl, hrelation, ⟨_, hrelatedQuery, rfl⟩, rfl⟩

theorem Store.attaches_related {store : Store} {model name : String} {relation : Relation}
    (hrelation : store.schema.relation model name = .ok relation) (hname : isIdentifier model)
    (hrelated : ∃ definition, store.schema.model relation.model = .ok definition)
    (hrelatedName : isIdentifier relation.model) :
    store.Attaches model name fun row =>
      relation.loaded ((store.related relation row).map fun related =>
        { model := relation.model, attributes := related }) := by
  have hload := Store.load_unconstrained hrelation hname hrelated hrelatedName
  constructor
  · rintro record rfl
    obtain ⟨holder, hholder, hloaded⟩ := bind_eq_ok_iff.mp hload
    rw [Store.loadRelation, hholder, ← EagerLoad.pick_unconstrained store name]
    simp only [bind_eq_ok_iff]
    exact ⟨holder, rfl, _, hloaded, rfl⟩
  · refine ⟨_, hload, ?_⟩
    rw [Store.get_of_loads]
    apply List.map_congr_left
    intro row _
    rw [← EagerLoad.pick_unconstrained store name relation { model := model, attributes := row }]
    rfl

/-! ## Pairs of rows -/

/-- Null equals nothing, so the related rows are those with an equal key, whatever the key is. -/
theorem Store.related_eq_filter (store : Store) (relation : Relation) (row : Row) :
    store.related relation row =
      (store.rows relation.model).filter fun related =>
        (related.column relation.relatedKey).equals (row.column relation.parentKey) := by
  unfold Store.related
  simp only
  split
  next hnull =>
    rw [Json.isNull_eq_true_iff.mp hnull, eq_comm, List.filter_eq_nil_iff]
    intro related _
    rw [Json.equals_null]
    exact Bool.false_ne_true
  next => rfl

/-- The first owner of a row is the first row that has it in its collection. -/
theorem Store.head?_related_belongsTo {store : Store} {parent child foreignKey localKey : String}
    {row : Row} (hrow : row ∈ store.rows child) :
    (store.related ⟨.belongsTo, parent, foreignKey, localKey⟩ row).head? =
      (store.rows parent).find? fun candidate =>
        row ∈ store.related ⟨.hasMany, child, foreignKey, localKey⟩ candidate := by
  -- Both directions compare the same two keys, with their sides swapped.
  have hpair (candidate : Row) :
      decide (row ∈ store.related ⟨.hasMany, child, foreignKey, localKey⟩ candidate) =
        (candidate.column localKey).equals (row.column foreignKey) := by
    rw [Json.equals_comm, Bool.eq_iff_iff, decide_eq_true_iff, Store.related_eq_filter,
      List.mem_filter]
    exact and_iff_right hrow
  simp only [hpair]
  rw [Store.related_eq_filter, List.head?_filter]
  rfl

theorem Relation.loaded_belongsTo {model foreignKey localKey : String} (records : List Record) :
    Relation.loaded ⟨.belongsTo, model, foreignKey, localKey⟩ records =
      .ofOption records.head? := by
  cases records <;> rfl

theorem Record.map_attributes (model : String) (rows : List Row) :
    (rows.map fun row => ({ model := model, attributes := row } : Record)).map
      Record.attributes = rows := by
  rw [List.map_map]
  exact List.map_id rows

/-- A row belongs to the first row whose collection it is in, and to none if it is in none. -/
theorem belongsTo_converse_of_hasMany {store : Store}
    {parent child many single foreignKey localKey : String}
    (hmany : store.schema.relation parent many = .ok ⟨.hasMany, child, foreignKey, localKey⟩)
    (hsingle : store.schema.relation child single = .ok ⟨.belongsTo, parent, foreignKey, localKey⟩)
    (hparent : isIdentifier parent) (hchild : isIdentifier child) :
    ∃ (collection : Row → List Record) (owner : Row → Option Row),
      store.Attaches parent many (fun row => .many (collection row)) ∧
      store.Attaches child single (fun row =>
        .ofOption ((owner row).map fun found => { model := parent, attributes := found })) ∧
      ∀ row ∈ store.rows child,
        owner row =
            ((store.rows parent).find? fun candidate =>
              row ∈ (collection candidate).map Record.attributes) ∧
          (owner row = none ↔
            ∀ candidate ∈ store.rows parent,
              row ∉ (collection candidate).map Record.attributes) := by
  have hparentModel := Schema.exists_model_of_relation hmany
  have hchildModel := Schema.exists_model_of_relation hsingle
  have hcollection := Store.attaches_related hmany hparent hchildModel hchild
  have howner := Store.attaches_related hsingle hchild hparentModel hparent
  simp only [Relation.loaded_belongsTo, List.head?_map] at howner
  refine ⟨_, _, hcollection, howner, ?_⟩
  intro row hrow
  simp only [Record.map_attributes, Store.head?_related_belongsTo hrow, List.find?_eq_none,
    decide_eq_true_eq, and_self]

/-- Owners and their pets, with keys of different types. -/
def mixedKeyStore : Store where
  schema :=
    { models :=
      [("owners", { relations := [("pets", ⟨.hasMany, "pets", "pets.owner", "code"⟩)] }),
        ("pets", { relations := [("owner", ⟨.belongsTo, "owners", "pets.owner", "code"⟩)] })] }
  tables :=
    [("owners",
      [[("code", .text " 1.0")], [("code", .number (.int 1))], [("code", .null)], [],
        [("code", .number (.int (2 ^ 64 - 1)))]]),
      ("pets",
        [[("owner", .number (.int 1))], [("owner", .text "1")], [("owner", .bool true)],
          [("owner", .null)], [], [("owner", .text "18446744073709551615")],
          [("owner", .number (.int (2 ^ 64 - 2)))]])]

/-- The number belongs to the text that stands for it, the other text and the truth value to the
number, and the large integer to no other one; without a key a pet belongs to nobody. -/
theorem mixed_keys_join_both_ways :
    let pets : List Row := mixedKeyStore.rows "pets"
    let code (key : Json) : Option Row := some [("code", key)]
    let ownerOf (pet : Row) : Option Row :=
      match mixedKeyStore.loadRelation "owner" .ok { model := "pets", attributes := pet } with
      | .ok record =>
        match record.relation? "owner" with
        | some (.one found) => some found.attributes
        | _ => none
      | .error _ => none
    let one : Json := .number (.int 1)
    let largest : Json := .number (.int (2 ^ 64 - 1))
    pets.map ownerOf =
        [code (.text " 1.0"), code one, code one, none, none, code largest, none] ∧
      isIdentifier "owners" ∧ isIdentifier "pets" ∧
      ∃ (collection : Row → List Record) (owner : Row → Option Row),
        mixedKeyStore.Attaches "owners" "pets" (fun row => .many (collection row)) ∧
        mixedKeyStore.Attaches "pets" "owner" (fun row =>
          .ofOption ((owner row).map fun found => { model := "owners", attributes := found })) ∧
        ∀ pet ∈ pets,
          owner pet =
              ((mixedKeyStore.rows "owners").find? fun candidate =>
                pet ∈ (collection candidate).map Record.attributes) ∧
            (owner pet = none ↔
              ∀ candidate ∈ mixedKeyStore.rows "owners",
                pet ∉ (collection candidate).map Record.attributes) := by
  intro pets code ownerOf one largest
  have howners : isIdentifier "owners" := by decide +kernel
  have hpets : isIdentifier "pets" := by decide +kernel
  exact ⟨by decide +kernel, howners, hpets,
    belongsTo_converse_of_hasMany rfl rfl howners hpets⟩

end QueryShape
