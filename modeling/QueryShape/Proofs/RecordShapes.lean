import QueryShape.Proofs.ShownColumns

/-!
# Exact shapes

The object that shows a record has first the keys of its columns and then the names of the
requested relations that have been loaded, each key once and where it first occurs.  A loaded
relation decides the value under its name, also where a column has the same name, and of several
requests for one name the last one decides the shape of the related records.  Whatever else the
record carries is not shown.  The keys and these values leave no choice for the object.
-/

namespace QueryShape

/-! ## What decides a shape -/

def Record.columnKeys (record : Record) (columns : List String) : List String :=
  if columns.isEmpty then Fields.names record.attributes else columns.eraseDups

def Record.hasLoaded (record : Record) (name : String) : Bool :=
  (record.relation? name).any Loaded.isPresent

/-- A relationship after which no other one of its name is requested. -/
def Relationship.IsLast (relationships : List Relationship) (relationship : Relationship) : Prop :=
  ∃ before after, relationships = before ++ relationship :: after ∧
    relationship.name ∉ after.map Relationship.name

structure Record.ShownAs (record : Record) (columns : List String)
    (relationships : List Relationship) (shaped : Fields Json) : Prop where
  names_eq :
    Fields.names shaped =
      record.columnKeys columns ++
        ((relationships.map Relationship.name).filter fun name =>
          record.hasLoaded name && decide (name ∉ record.columnKeys columns)).eraseDups
  whole :
    columns = [] → ∀ name,
      (name ∈ relationships.map Relationship.name → record.hasLoaded name = false) →
        shaped.get? name = Fields.get? record.attributes name
  requested :
    ∀ column ∈ columns,
      (column ∈ relationships.map Relationship.name → record.hasLoaded column = false) →
        shaped.get? column = some (record.column column)
  one :
    ∀ relationship, Relationship.IsLast relationships relationship →
      ∀ related, record.relation? relationship.name = some (.one related) →
        shaped.get? relationship.name =
          some (.object (related.shape relationship.columns relationship.nested))
  many :
    ∀ relationship, Relationship.IsLast relationships relationship →
      ∀ records, record.relation? relationship.name = some (.many records) →
        shaped.get? relationship.name =
          some (.array (records.map fun related =>
            .object (related.shape relationship.columns relationship.nested)))

/-! ## The keys and values of a shape -/

theorem Relationship.shape_eq (relationship : Relationship) (record : Record) :
    relationship.shape record = record.shape relationship.columns relationship.nested := by
  cases relationship with
  | short name columns =>
      rw [Relationship.shape, Relationship.columns, Relationship.nested, Record.shape,
        Relationship.shapeInto]
  | full name columns filter nested => rw [Relationship.shape]; rfl

namespace Record

theorem shape_eq_putEach (record : Record) (columns : List String)
    (relationships : List Relationship) :
    record.shape columns relationships =
      (columnView columns record.attributes).putEach
        (Relationship.shownBy record relationships) := by
  rw [shape, Relationship.shapeInto_eq_putEach, columnShape_eq]

theorem names_columnView (record : Record) (columns : List String) :
    Fields.names (columnView columns record.attributes) = record.columnKeys columns := by
  unfold columnView columnKeys
  split
  next => rfl
  next => simp [Fields.names, Function.comp_def]

theorem isSome_shownBy (record : Record) (relationship : Relationship) :
    ((record.relation? relationship.name).bind relationship.shown).isSome =
      record.hasLoaded relationship.name := by
  unfold hasLoaded
  cases record.relation? relationship.name with
  | none => rfl
  | some loaded => exact relationship.isSome_shown loaded

theorem names_shownBy_present (record : Record) (relationships : List Relationship) :
    Fields.names ((Relationship.shownBy record relationships).filter (·.2.isSome)) =
      (relationships.map Relationship.name).filter record.hasLoaded := by
  have htest (relationship : Relationship) :
      ((record.relation? relationship.name).bind relationship.shown).isSome =
        record.hasLoaded relationship.name := record.isSome_shownBy relationship
  simp only [Relationship.shownBy, Fields.names, List.filter_map, List.map_map,
    Function.comp_def, htest]

theorem names_shape (record : Record) (columns : List String)
    (relationships : List Relationship) :
    Fields.names (record.shape columns relationships) =
      record.columnKeys columns ++
        ((relationships.map Relationship.name).filter fun name =>
          record.hasLoaded name && decide (name ∉ record.columnKeys columns)).eraseDups := by
  rw [shape_eq_putEach, Fields.names_putEach, names_shownBy_present, List.filter_filter,
    names_columnView]
  simp only [Bool.and_comm]

/-- Under a name that is not loaded a shape has what the columns give. -/
theorem get?_shape_of_not_loaded {record : Record} {columns : List String}
    {relationships : List Relationship} {key : String}
    (h : key ∈ relationships.map Relationship.name → record.hasLoaded key = false) :
    (record.shape columns relationships).get? key =
      (columnView columns record.attributes).get? key := by
  rw [shape_eq_putEach]
  refine Fields.get?_putEach_of_none ?_ _
  intro entry hentry hkey
  obtain ⟨relationship, hmem, rfl⟩ := List.mem_map.mp hentry
  have hloaded : record.hasLoaded relationship.name = false := by
    subst hkey
    exact h (List.mem_map_of_mem hmem)
  rw [← isSome_shownBy] at hloaded
  exact Option.not_isSome_iff_eq_none.mp (by simp [hloaded])

/-- The last relationship of a name shows what is loaded under it. -/
theorem get?_shape_of_isLast {record : Record} {columns : List String}
    {relationships : List Relationship} {relationship : Relationship}
    (hlast : Relationship.IsLast relationships relationship) {loaded : Loaded Record}
    (hloaded : record.relation? relationship.name = some loaded) {value : Json}
    (hvalue : relationship.shown loaded = some value) :
    (record.shape columns relationships).get? relationship.name = some value := by
  obtain ⟨before, after, rfl, hafter⟩ := hlast
  have hshown :
      Relationship.shownBy record (before ++ relationship :: after) =
        Relationship.shownBy record before ++
          (relationship.name, some value) :: Relationship.shownBy record after := by
    simp [Relationship.shownBy, hloaded, hvalue]
  rw [shape_eq_putEach, hshown]
  refine Fields.get?_putEach_of_last ?_ value _
  rwa [Relationship.names_shownBy]

theorem shownAs_shape (record : Record) (columns : List String)
    (relationships : List Relationship) :
    record.ShownAs columns relationships (record.shape columns relationships) where
  names_eq := record.names_shape columns relationships
  whole hcolumns name hname := by
    rw [get?_shape_of_not_loaded hname, hcolumns, columnView_nil]
  requested column hcolumn hname := by
    rw [get?_shape_of_not_loaded hname, get?_columnView hcolumn]
    rfl
  one relationship hlast related hloaded := by
    rw [← Relationship.shape_eq]
    exact get?_shape_of_isLast hlast hloaded rfl
  many relationship hlast records hloaded := by
    simp only [← Relationship.shape_eq]
    exact get?_shape_of_isLast hlast hloaded rfl

end Record

/-! ## The keys and values decide the shape -/

theorem Relationship.exists_isLast {relationships : List Relationship} {name : String}
    (h : name ∈ relationships.map Relationship.name) :
    ∃ relationship, Relationship.IsLast relationships relationship ∧ relationship.name = name := by
  induction relationships with
  | nil => cases h
  | cons first rest ih =>
      by_cases hrest : name ∈ rest.map Relationship.name
      · obtain ⟨relationship, ⟨before, after, rfl, hafter⟩, hname⟩ := ih hrest
        exact ⟨relationship, ⟨first :: before, after, rfl, hafter⟩, hname⟩
      · have hname : first.name = name := by
          rw [List.map_cons, List.mem_cons] at h
          exact (h.resolve_right hrest).symm
        exact ⟨first, ⟨[], rest, rfl, hname ▸ hrest⟩, hname⟩

theorem Record.exists_of_hasLoaded {record : Record} {name : String}
    (h : record.hasLoaded name = true) :
    (∃ related, record.relation? name = some (.one related)) ∨
      ∃ records, record.relation? name = some (.many records) := by
  unfold hasLoaded at h
  cases hloaded : record.relation? name with
  | none =>
      rw [hloaded] at h
      cases h
  | some loaded =>
      cases loaded with
      | one related => exact .inl ⟨related, rfl⟩
      | many records => exact .inr ⟨records, rfl⟩
      | nothing =>
          rw [hloaded] at h
          cases h

namespace Record.ShownAs

variable {record : Record} {columns : List String} {relationships : List Relationship}
  {shaped other : Fields Json}

theorem nodup_names (h : record.ShownAs columns relationships shaped)
    (hdistinct : (Fields.names record.attributes).Nodup) :
    (Fields.names shaped).Nodup := by
  have hkeys : (record.columnKeys columns).Nodup := by
    unfold columnKeys
    split
    next => exact hdistinct
    next => exact nodup_eraseDups columns
  rw [h.names_eq]
  refine List.nodup_append.mpr ⟨hkeys, nodup_eraseDups _, ?_⟩
  intro key hkey name hname
  rw [List.mem_eraseDups, List.mem_filter, Bool.and_eq_true, decide_eq_true_eq] at hname
  exact ne_of_mem_of_not_mem hkey hname.2.2

theorem get?_eq (h : record.ShownAs columns relationships shaped)
    (hother : record.ShownAs columns relationships other) (key : String) :
    shaped.get? key = other.get? key := by
  by_cases hloaded : key ∈ relationships.map Relationship.name ∧ record.hasLoaded key = true
  · obtain ⟨relationship, hlast, rfl⟩ := Relationship.exists_isLast hloaded.1
    rcases exists_of_hasLoaded hloaded.2 with ⟨related, hone⟩ | ⟨records, hmany⟩
    · rw [h.one relationship hlast related hone, hother.one relationship hlast related hone]
    · rw [h.many relationship hlast records hmany, hother.many relationship hlast records hmany]
  · have hname : key ∈ relationships.map Relationship.name → record.hasLoaded key = false := by
      simpa using hloaded
    by_cases hcolumns : columns = []
    · rw [h.whole hcolumns key hname, hother.whole hcolumns key hname]
    · by_cases hkey : key ∈ columns
      · rw [h.requested key hkey hname, hother.requested key hkey hname]
      · -- The key is neither a column nor a loaded relation, so no object has it.
        have hnone : key ∉ Fields.names shaped := by
          rw [h.names_eq, columnKeys, if_neg (by simpa using hcolumns)]
          simp only [List.mem_append, List.mem_eraseDups, List.mem_filter, Bool.and_eq_true]
          rintro (hmem | ⟨hmem, htrue, _⟩)
          · exact hkey hmem
          · exact hloaded ⟨hmem, htrue⟩
        have hnoneOther : key ∉ Fields.names other := by
          rwa [hother.names_eq, ← h.names_eq]
        rw [Fields.get?_eq_none_iff.mpr hnone, Fields.get?_eq_none_iff.mpr hnoneOther]

end Record.ShownAs

/-- A record is shown by exactly the keys and values that the request decides, and if its attributes
have distinct names no other object has them. -/
theorem shape_is_exact (record : Record) (columns : List String)
    (relationships : List Relationship) :
    record.ShownAs columns relationships (record.shape columns relationships) ∧
      ((Fields.names record.attributes).Nodup → ∀ shaped : Fields Json,
        record.ShownAs columns relationships shaped →
          shaped = record.shape columns relationships) := by
  have hshape := record.shownAs_shape columns relationships
  refine ⟨hshape, ?_⟩
  intro hdistinct shaped hshaped
  have hnames :
      Fields.names shaped = Fields.names (record.shape columns relationships) := by
    rw [hshaped.names_eq, hshape.names_eq]
  exact Fields.eq_of_get?_eq hnames (hshaped.nodup_names hdistinct) (hshaped.get?_eq hshape)

/-- The books take the place of the column of their name and are shown as the last request for them
asks; the editor was not found, and the agent is not requested. -/
theorem shape_of_author_is_exact :
    let book (title : String) : Record :=
      { model := "books", attributes := [("id", .number (.int 7)), ("title", .text title)] }
    let person (name : String) : Record :=
      { model := "people", attributes := [("name", .text name), ("bio", .null)] }
    let author : Record :=
      { model := "authors"
        attributes := [("id", .number (.int 1)), ("name", .text "Ann")]
        relations :=
          [("agent", .one (person "Bo")), ("books", .many [book "A", book "B"]),
            ("editor", .nothing), ("mentor", .one (person "Cy"))] }
    let columns : List String := ["authors.name", "books", "born", "authors.name"]
    let relationships : List Relationship :=
      [.short "books" [], .short "editor" [], .short "mentor" ["name"],
        .full "books" ["books.title"] .empty []]
    let title (title : String) : Json := .object [("books.title", .text title)]
    let shaped : Fields Json :=
      [("authors.name", .text "Ann"), ("books", .array [title "A", title "B"]), ("born", .null),
        ("mentor", .object [("name", .text "Cy")])]
    (Fields.names author.attributes).Nodup ∧ author.shape columns relationships = shaped ∧
      author.ShownAs columns relationships shaped ∧
      ∀ other, author.ShownAs columns relationships other → other = shaped := by
  intro book person author columns relationships title shaped
  have hdistinct : (Fields.names author.attributes).Nodup := by decide +kernel
  have hshape : author.shape columns relationships = shaped := by decide +kernel
  obtain ⟨hshown, honly⟩ := shape_is_exact author columns relationships
  rw [hshape] at hshown honly
  exact ⟨hdistinct, hshape, hshown, honly hdistinct⟩

end QueryShape
