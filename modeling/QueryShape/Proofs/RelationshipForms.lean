import QueryShape.Proofs.BuilderReach
import QueryShape.Proofs.ListAnswers

/-!
# Short and full forms of relationships

A short form asks for what the full form of its name and columns asks for with the empty filter
and without relationships of its own.  So short forms may be written in full anywhere in a list,
at any depth: the list registers the same loads, loads the same onto a record and shows the same
of a record, and where it fails, it fails alike and leaves the same behind.

Only the empty filter could make a difference, since it is refused under the limit zero.  But
under this limit every list that is not empty is refused before a filter is looked at.
-/

namespace QueryShape

mutual

/-- Some short forms of the first relationship, at any depth, are written in full in the second. -/
inductive Relationship.WrittenAs : Relationship → Relationship → Prop
  | short (name : String) (columns : List String) :
      Relationship.WrittenAs (.short name columns) (.short name columns)
  | inFull (name : String) (columns : List String) :
      Relationship.WrittenAs (.short name columns) (.full name columns .empty [])
  | full {name : String} {columns : List String} {filter : Filter}
      {nested others : List Relationship} (hnested : Relationship.AllWrittenAs nested others) :
      Relationship.WrittenAs (.full name columns filter nested) (.full name columns filter others)

inductive Relationship.AllWrittenAs : List Relationship → List Relationship → Prop
  | nil : Relationship.AllWrittenAs [] []
  | cons {relationship other : Relationship} {rest others : List Relationship}
      (h : Relationship.WrittenAs relationship other)
      (hrest : Relationship.AllWrittenAs rest others) :
      Relationship.AllWrittenAs (relationship :: rest) (other :: others)

end

theorem Relationship.WrittenAs.name_eq {relationship other : Relationship}
    (h : relationship.WrittenAs other) :
    other.name = relationship.name := by
  cases h <;> rfl

theorem Run.andThen_eq_self {σ : Type} (run : Run σ) :
    run.andThen done = run := by
  obtain ⟨state, failure⟩ := run
  cases failure <;> rfl

/-! ## Queries -/

theorem Backend.filter_empty {schema : Schema} {limit : Nat} (hlimit : limit ≠ 0)
    (query : ModelQuery) :
    (relational schema).filter limit .empty query = .done query := by
  obtain ⟨room, rfl⟩ := Nat.exists_eq_succ_of_ne_zero hlimit
  have hquery : (relational schema).replace query query.select = query :=
    (relational_lawful schema).replace_select query
  calc
    (relational schema).filter (room + 1) .empty query =
        .done ((relational schema).replace query query.select) := rfl
    _ = .done query := by rw [hquery]

namespace Relationship

theorem constrain_inFull {schema : Schema} {limit : Nat} (hlimit : limit ≠ 0) (room : Nat)
    (name : String) (columns : List String) (query : ModelQuery) :
    (full name columns .empty []).constrain schema limit room query =
      (short name columns).constrain schema limit room query := by
  have hfilter :
      (fun query => (Backend.relational schema).filter limit .empty query) = Run.done :=
    funext (Backend.filter_empty hlimit)
  have hnested :
      (fun query => registerAll schema limit room [] query) = Run.done :=
    funext fun _ => by rw [registerAll]
  rw [constrain, constrain, hfilter, hnested, Run.andThen_eq_self, Run.andThen_eq_self]

mutual

theorem WrittenAs.constrain_eq {schema : Schema} {limit : Nat} (hlimit : limit ≠ 0) :
    ∀ {relationship other : Relationship}, relationship.WrittenAs other →
      ∀ (room : Nat) (query : ModelQuery),
        other.constrain schema limit room query = relationship.constrain schema limit room query
  | .short _ _, .short _ _, .short _ _, _, _ => rfl
  | .short _ _, .full _ _ _ _, .inFull name columns, room, query =>
      constrain_inFull hlimit room name columns query
  | .full _ _ _ _, .full _ _ _ _, .full hnested, room, query => by
      rw [constrain, constrain]
      simp only [AllWrittenAs.registerAll_eq hlimit hnested]

theorem AllWrittenAs.registerAll_eq {schema : Schema} {limit : Nat} (hlimit : limit ≠ 0) :
    ∀ {relationships others : List Relationship}, AllWrittenAs relationships others →
      ∀ (room : Nat) (query : ModelQuery),
        registerAll schema limit room others query =
          registerAll schema limit room relationships query
  | [], [], .nil, _, _ => rfl
  | _ :: _, _ :: _, .cons _ _, 0, _ => rfl
  | _ :: _, _ :: _, .cons h hrest, room + 1, query => by
      rw [registerAll, registerAll, h.name_eq]
      simp only [WrittenAs.constrain_eq hlimit h, AllWrittenAs.registerAll_eq hlimit hrest]

end

/-- Without a level all lists but the empty one are refused. -/
theorem AllWrittenAs.register_eq {relationships others : List Relationship}
    (h : AllWrittenAs relationships others) (schema : Schema) (limit : Nat) (query : ModelQuery) :
    register schema limit others query = register schema limit relationships query := by
  cases limit with
  | zero =>
      cases h with
      | nil => rfl
      | cons _ _ => rfl
  | succ limit => exact h.registerAll_eq (Nat.succ_ne_zero limit) (limit + 1) query

/-! ## Records -/

theorem AllWrittenAs.loadEach_eq {limit : Nat} (hlimit : limit ≠ 0) (store : Store) (room : Nat)
    {relationships others : List Relationship} (h : AllWrittenAs relationships others)
    (record : Record) :
    loadEach store limit room others record = loadEach store limit room relationships record := by
  induction relationships generalizing others record with
  | nil =>
      cases h
      rfl
  | cons relationship rest ih =>
      cases h with
      | cons hfirst hrest =>
          rw [loadEach, loadEach, hfirst.name_eq]
          simp only [hfirst.constrain_eq hlimit, ih hrest]

theorem AllWrittenAs.loadOnto_eq {relationships others : List Relationship}
    (h : AllWrittenAs relationships others) (store : Store) (limit : Nat) (record : Record) :
    loadOnto store limit others record = loadOnto store limit relationships record := by
  cases h with
  | nil => rfl
  | cons hfirst hrest =>
      cases limit with
      | zero => rfl
      | succ room =>
          have hall := AllWrittenAs.cons hfirst hrest
          exact hall.loadEach_eq (Nat.succ_ne_zero room) store room record

/-! ## Shapes -/

mutual

theorem WrittenAs.shape_eq :
    ∀ {relationship other : Relationship}, relationship.WrittenAs other →
      ∀ record : Record, other.shape record = relationship.shape record
  | .short _ _, .short _ _, .short _ _, _ => rfl
  | .short _ _, .full _ _ _ _, .inFull _ _, record => by
      rw [shape, shape, shapeInto]
  | .full _ _ _ _, .full _ _ _ _, .full hnested, record => by
      rw [shape, shape, AllWrittenAs.shapeInto_eq hnested]

theorem AllWrittenAs.shapeInto_eq :
    ∀ {relationships others : List Relationship}, AllWrittenAs relationships others →
      ∀ (record : Record) (shaped : Fields Json),
        shapeInto others record shaped = shapeInto relationships record shaped
  | [], [], .nil, _, _ => rfl
  | _ :: _, _ :: _, .cons h hrest, record, shaped => by
      rw [shapeInto, shapeInto, h.name_eq, AllWrittenAs.shapeInto_eq hrest]
      simp only [WrittenAs.shape_eq h]

end

end Relationship

/-- Writing short forms in full changes neither how a list of relationships is registered or
loaded, failures and what they leave behind included, nor what it shows of a record. -/
theorem forms_ask_alike {relationships others : List Relationship}
    (h : Relationship.AllWrittenAs relationships others) :
    (∀ (schema : Schema) (limit : Nat) (query : ModelQuery),
      Relationship.register schema limit others query =
        Relationship.register schema limit relationships query) ∧
      (∀ (store : Store) (limit : Nat) (record : Record),
        Relationship.loadOnto store limit others record =
          Relationship.loadOnto store limit relationships record) ∧
        ∀ (columns : List String) (record : Record),
          record.shape columns others = record.shape columns relationships := by
  refine ⟨h.register_eq, h.loadOnto_eq, ?_⟩
  intro columns record
  rw [Record.shape, Record.shape]
  exact h.shapeInto_eq record (record.columnShape columns)

/-- The second relationship fails, after a load within a load has been registered. -/
theorem library_forms_ask_alike :
    let short : List Relationship :=
      [.full "books" ["title"] .empty [.short "author" ["name"]], .short "books" ["no name"]]
    let full : List Relationship :=
      [.full "books" ["title"] .empty [.full "author" ["name"] .empty []],
        .full "books" ["no name"] .empty []]
    let query : ModelQuery := { select := { table := "authors" } }
    let ann : Record :=
      { model := "authors", attributes := [("id", .number (.int 1)), ("name", .text "Ann")] }
    let run := Relationship.register libraryStore.schema 2 full query
    Relationship.AllWrittenAs short full ∧
      run = Relationship.register libraryStore.schema 2 short query ∧
        run.failure = some (.invalidIdentifier "no name") ∧
          run.state.eager.map (fun load => (load.name, load.query.eager.map EagerLoad.name)) =
              [("books", ["author"])] ∧
            Relationship.loadOnto libraryStore 2 full ann =
                Relationship.loadOnto libraryStore 2 short ann ∧
              ann.shape [] full = ann.shape [] short := by
  intro short full query ann run
  have hforms : Relationship.AllWrittenAs short full :=
    .cons (.full (.cons (.inFull "author" ["name"]) .nil))
      (.cons (.inFull "books" ["no name"]) .nil)
  obtain ⟨hregister, hload, hshape⟩ := forms_ask_alike hforms
  exact ⟨hforms, hregister libraryStore.schema 2 query, rfl, rfl, hload libraryStore 2 ann,
    hshape [] ann⟩

end QueryShape
