import QueryShape.Proofs.ReferenceView

/-!
# Restricted records

A restriction to columns can be made in place: each column in turn takes the attribute in which it
ends out of the row, where the last attribute then fills the gap, and appends it to those kept so
far.  A second column that ends in the same attribute finds nothing any more, so it neither loses
the value nor gives it another place.  What is left of the row at any moment are the attributes in
which none of these columns ends, whatever order they are in, and that decides the rest.

The names that are kept, in their order, and their values leave no choice for a restricted row.
-/

namespace QueryShape

/-- What is left of a row by columns: each attribute in which one of them ends, at its first one. -/
structure Row.RestrictedTo (row : Row) (columns : List String) (kept : Row) : Prop where
  names_eq :
    Fields.names kept = ((columns.map lastSegment).filter (· ∈ Fields.names row)).eraseDups
  get?_eq :
    ∀ name, kept.get? name = if name ∈ columns.map lastSegment then row.get? name else none

/-! ## Attributes in any order -/

namespace Fields

variable {α : Type}

/-- Removes the first entry of a name; the last entry fills its place. -/
def swapRemove : Fields α → String → Fields α
  | [], _ => []
  | (name, value) :: rest, key =>
    if name = key then rest.getLast?.toList ++ rest.dropLast
    else (name, value) :: swapRemove rest key

theorem get?_of_mem {fields : Fields α} {key : String} {value : α}
    (hdistinct : (names fields).Nodup) (h : (key, value) ∈ fields) :
    get? fields key = some value := by
  induction fields with
  | nil => cases h
  | cons entry rest ih =>
      rw [names_cons, List.nodup_cons] at hdistinct
      rw [get?]
      rcases List.mem_cons.mp h with heq | hrest
      · rw [← heq, if_pos rfl]
      · have hname : entry.1 ≠ key := by
          intro heq
          apply hdistinct.1
          rw [heq]
          exact List.mem_map_of_mem hrest
        rw [if_neg hname]
        exact ih hdistinct.2 hrest

theorem get?_perm {fields other : Fields α} (hdistinct : (names fields).Nodup)
    (h : fields.Perm other) (key : String) :
    get? fields key = get? other key := by
  have hother : (names other).Nodup := (h.map Prod.fst).nodup_iff.mp hdistinct
  apply Option.ext
  intro value
  constructor
  · intro hget
    exact get?_of_mem hother (h.mem_iff.mp (mem_of_get? hget))
  · intro hget
    exact get?_of_mem hdistinct (h.mem_iff.mpr (mem_of_get? hget))

theorem get?_filter_ne (fields : Fields α) (key other : String) :
    get? (fields.filter (·.1 != key)) other =
      if key = other then none else get? fields other := by
  induction fields with
  | nil => exact (ite_self none).symm
  | cons entry rest ih =>
      obtain ⟨name, value⟩ := entry
      by_cases hname : name = key
      · rw [List.filter_cons_of_neg (by simpa using hname), ih, get?, hname]
        split <;> rfl
      · rw [List.filter_cons_of_pos (by simpa using hname), get?, ih, get?]
        by_cases hother : name = other
        · rw [if_pos hother, if_pos hother, if_neg (hother ▸ Ne.symm hname)]
        · rw [if_neg hother, if_neg hother]

/-- Only the order tells the remaining entries from those of the other names. -/
theorem swapRemove_perm {fields : Fields α} (hdistinct : (names fields).Nodup) (key : String) :
    (swapRemove fields key).Perm (fields.filter (·.1 != key)) := by
  induction fields with
  | nil => exact List.Perm.nil
  | cons entry rest ih =>
      rw [names_cons, List.nodup_cons] at hdistinct
      rw [swapRemove]
      by_cases hname : entry.1 = key
      · have hrest : rest.filter (·.1 != key) = rest := by
          rw [List.filter_eq_self]
          intro other hother
          rw [bne_iff_ne]
          intro heq
          apply hdistinct.1
          rw [hname, ← heq]
          exact List.mem_map_of_mem hother
        rw [if_pos hname, List.filter_cons_of_neg (by simpa using hname), hrest]
        have hsplit : rest.dropLast ++ rest.getLast?.toList = rest := by
          cases rest using List.reverseRecOn <;> simp
        exact List.perm_append_comm.trans (List.Perm.of_eq hsplit)
      · rw [if_neg hname, List.filter_cons_of_pos (by simpa using hname)]
        exact (ih hdistinct.2).cons entry

theorem nodup_names_swapRemove {fields : Fields α} (hdistinct : (names fields).Nodup)
    (key : String) :
    (names (swapRemove fields key)).Nodup := by
  have hsublist : (names (fields.filter (·.1 != key))).Sublist (names fields) :=
    List.filter_sublist.map Prod.fst
  exact ((swapRemove_perm hdistinct key).map Prod.fst).nodup_iff.mpr (hsublist.nodup hdistinct)

theorem get?_swapRemove {fields : Fields α} (hdistinct : (names fields).Nodup)
    (key other : String) :
    get? (swapRemove fields key) other = if key = other then none else get? fields other := by
  rw [get?_perm (nodup_names_swapRemove hdistinct key) (swapRemove_perm hdistinct key),
    get?_filter_ne]

end Fields

/-! ## Restrictions -/

/-- The attribute in which each column ends, where the row has it. -/
def Row.entriesOf (row : Row) (columns : List String) : Fields (Option Json) :=
  columns.map fun column => (lastSegment column, row.get? (lastSegment column))

theorem Row.putEach_entriesOf (row : Row) (columns : List String) (kept : Row) :
    Fields.putEach kept (row.entriesOf columns) =
      Fields.putAll kept (columns.filterMap fun column =>
        (row.get? (lastSegment column)).map (lastSegment column, ·)) := by
  induction columns generalizing kept with
  | nil => rfl
  | cons column rest ih =>
      rw [Row.entriesOf, List.map_cons, Fields.putEach_cons, ← Row.entriesOf, ih,
        List.filterMap_cons]
      cases row.get? (lastSegment column) <;> rfl

theorem Row.restrictedTo_putEach (row : Row) (columns : List String) :
    row.RestrictedTo columns (Fields.putEach [] (row.entriesOf columns)) where
  names_eq := by
    have hnames :
        Fields.names ((row.entriesOf columns).filter (·.2.isSome)) =
          (columns.map lastSegment).filter (· ∈ Fields.names row) := by
      have hsome (name : String) :
          (row.get? name).isSome = decide (name ∈ Fields.names row) := by
        rw [Bool.eq_iff_iff, decide_eq_true_iff, ← not_iff_not, ← Fields.get?_eq_none_iff]
        simp
      simp only [Row.entriesOf, Fields.names, List.filter_map, List.map_map, Function.comp_def,
        hsome]
    have hnil : Fields.names ([] : Row) = [] := rfl
    rw [Fields.names_putEach, hnames, hnil]
    simp
  get?_eq name := by
    have hnil : Fields.get? ([] : Row) name = none := rfl
    rw [Row.putEach_entriesOf, Fields.get?_putAll, Fields.last?_filterMap, hnil, Option.or_none]

theorem Record.project_eq_self {record : Record} {columns : List String}
    (h : columns = [] ∨ "*" ∈ columns) :
    record.project columns = record := by
  rw [project, projectRow_eq_self h]
  cases record
  rfl

theorem projectRow_eq_putEach {columns : List String} (hcolumns : columns ≠ [])
    (hstar : "*" ∉ columns) (row : Row) :
    projectRow columns row = Fields.putEach [] (row.entriesOf columns) := by
  have hwhole : ¬ (columns.isEmpty || columns.contains "*") = true := by simp [hcolumns, hstar]
  rw [projectRow, if_neg hwhole, Row.putEach_entriesOf]
  rfl

namespace Row.RestrictedTo

variable {row kept other : Row} {columns : List String}

theorem eq_of (h : row.RestrictedTo columns kept) (hother : row.RestrictedTo columns other) :
    kept = other := by
  have hnames : Fields.names kept = Fields.names other := by rw [h.names_eq, hother.names_eq]
  have hdistinct : (Fields.names kept).Nodup := by
    rw [h.names_eq]
    exact nodup_eraseDups _
  apply Fields.eq_of_get?_eq hnames hdistinct
  intro name
  rw [h.get?_eq, hother.get?_eq]

/-- A restriction to the same columns has nothing left to drop. -/
theorem self (h : row.RestrictedTo columns kept) :
    kept.RestrictedTo columns kept where
  names_eq := by
    have hmem (name : String) (hname : name ∈ columns.map lastSegment) :
        (name ∈ Fields.names kept) ↔ name ∈ Fields.names row := by
      rw [h.names_eq, List.mem_eraseDups, List.mem_filter, decide_eq_true_iff]
      exact and_iff_right hname
    rw [List.filter_congr fun name hname => decide_eq_decide.mpr (hmem name hname)]
    exact h.names_eq
  get?_eq name := by
    rw [h.get?_eq]
    split <;> rfl

end Row.RestrictedTo

theorem Row.restrictedTo_projectRow {columns : List String} (hcolumns : columns ≠ [])
    (hstar : "*" ∉ columns) (row : Row) :
    row.RestrictedTo columns (projectRow columns row) := by
  rw [projectRow_eq_putEach hcolumns hstar]
  exact row.restrictedTo_putEach columns

theorem projectRow_projectRow (columns : List String) (row : Row) :
    projectRow columns (projectRow columns row) = projectRow columns row := by
  by_cases hall : columns = [] ∨ "*" ∈ columns
  · rw [projectRow_eq_self hall]
  · rw [not_or] at hall
    have hkept := Row.restrictedTo_projectRow hall.1 hall.2 row
    have hagain := Row.restrictedTo_projectRow hall.1 hall.2 (projectRow columns row)
    exact hagain.eq_of hkept.self

/-! ## Restrictions in place -/

/-- A row from which attributes are being taken, and those that have been taken. -/
structure Restriction where
  left : Row
  kept : Row

namespace Restriction

def take (restriction : Restriction) (column : String) : Restriction :=
  match restriction.left.get? (lastSegment column) with
  | some value =>
    { left := restriction.left.swapRemove (lastSegment column)
      kept := restriction.kept.put (lastSegment column) value }
  | none => restriction

/-- The columns so far have taken what they end in, and nothing else is missing. -/
structure Took (row : Row) (columns : List String) (restriction : Restriction) : Prop where
  distinct : (Fields.names restriction.left).Nodup
  left_eq :
    ∀ name, restriction.left.get? name =
      if name ∈ columns.map lastSegment then none else row.get? name
  kept_eq : restriction.kept = Fields.putEach [] (row.entriesOf columns)

theorem took_nil {row : Row} (hdistinct : (Fields.names row).Nodup) :
    Took row [] ⟨row, []⟩ where
  distinct := hdistinct
  left_eq _ := rfl
  kept_eq := rfl

theorem kept_take (restriction : Restriction) (column : String) :
    (restriction.take column).kept =
      restriction.kept.putSome (lastSegment column)
        (restriction.left.get? (lastSegment column)) := by
  rw [take]
  cases restriction.left.get? (lastSegment column) <;> rfl

theorem distinct_take {restriction : Restriction}
    (hdistinct : (Fields.names restriction.left).Nodup) (column : String) :
    (Fields.names (restriction.take column).left).Nodup := by
  rw [take]
  split
  next => exact Fields.nodup_names_swapRemove hdistinct _
  next => exact hdistinct

theorem get?_left_take {restriction : Restriction}
    (hdistinct : (Fields.names restriction.left).Nodup) (column name : String) :
    (restriction.take column).left.get? name =
      if lastSegment column = name then none else restriction.left.get? name := by
  rw [take]
  split
  next => exact Fields.get?_swapRemove hdistinct _ _
  next hnone =>
    split
    next heq => rwa [← heq]
    next => rfl

theorem Took.take {row : Row} {columns : List String} {restriction : Restriction}
    (h : Took row columns restriction) (column : String) :
    Took row (columns ++ [column]) (restriction.take column) where
  distinct := distinct_take h.distinct column
  left_eq name := by
    have hmem :
        name ∈ (columns ++ [column]).map lastSegment ↔
          name ∈ columns.map lastSegment ∨ lastSegment column = name := by
      rw [List.map_append, List.mem_append, List.map_singleton, List.mem_singleton,
        eq_comm (a := name)]
    rw [get?_left_take h.distinct, h.left_eq]
    by_cases heq : lastSegment column = name
    · rw [if_pos heq, if_pos (hmem.mpr (.inr heq))]
    · simp only [hmem, heq, or_false, if_false]
  kept_eq := by
    have hentries :
        Fields.putEach [] (row.entriesOf (columns ++ [column])) =
          restriction.kept.putSome (lastSegment column) (row.get? (lastSegment column)) := by
      rw [h.kept_eq, Row.entriesOf, List.map_append, Fields.putEach_append]
      rfl
    rw [hentries, kept_take, h.left_eq]
    by_cases hseen : lastSegment column ∈ columns.map lastSegment
    · -- The value has been taken before, so putting it again changes nothing.
      have hkept :
          restriction.kept.get? (lastSegment column) = row.get? (lastSegment column) := by
        rw [h.kept_eq, (row.restrictedTo_putEach columns).get?_eq, if_pos hseen]
      rw [if_pos hseen]
      cases hrow : row.get? (lastSegment column) with
      | none => rfl
      | some value => exact (Fields.put_eq_self (hkept.trans hrow)).symm
    · rw [if_neg hseen]

theorem Took.takeAll {row : Row} {columns : List String} {restriction : Restriction}
    (h : Took row columns restriction) (more : List String) :
    Took row (columns ++ more) (more.foldl Restriction.take restriction) := by
  induction more generalizing columns restriction with
  | nil => rwa [List.append_nil]
  | cons column rest ih =>
      rw [List.foldl_cons, List.append_cons]
      exact ih (h.take column)

end Restriction

/-- Takes the attributes that are kept out of the record's own row. -/
def Record.projectInPlace (record : Record) (columns : List String) : Record :=
  if columns.isEmpty || columns.contains "*" then record
  else
    let ended := columns.foldl Restriction.take ⟨record.attributes, []⟩
    { record with attributes := ended.kept }

theorem Record.projectInPlace_eq {record : Record}
    (hdistinct : (Fields.names record.attributes).Nodup) (columns : List String) :
    record.projectInPlace columns = record.project columns := by
  by_cases hall : columns = [] ∨ "*" ∈ columns
  · have hwhole : (columns.isEmpty || columns.contains "*") = true := by simpa using hall
    rw [projectInPlace, if_pos hwhole, project_eq_self hall]
  · have hwhole : ¬ (columns.isEmpty || columns.contains "*") = true := by simpa using hall
    rw [not_or] at hall
    have hended := (Restriction.took_nil hdistinct).takeAll columns
    rw [List.nil_append] at hended
    rw [projectInPlace, if_neg hwhole, project, projectRow_eq_putEach hall.1 hall.2,
      ← hended.kept_eq]

/-- A restriction keeps the attributes in which columns end, and nothing else of a record changes.
It comes to the same when the attributes are taken out of the row one by one. -/
theorem project_restricts_record (record : Record) (columns : List String) :
    (columns = [] ∨ "*" ∈ columns → record.project columns = record) ∧
      (columns ≠ [] → "*" ∉ columns → ∀ kept : Row,
        Row.RestrictedTo record.attributes columns kept ↔
          kept = (record.project columns).attributes) ∧
      (record.project columns).model = record.model ∧
      (record.project columns).relations = record.relations ∧
      (∀ column ∈ columns,
        (record.project columns).column column = record.column column) ∧
      (record.project columns).project columns = record.project columns ∧
      ((Fields.names record.attributes).Nodup →
        record.projectInPlace columns = record.project columns) := by
  refine ⟨?_, ?_, rfl, rfl, ?_, ?_, ?_⟩
  · intro hall
    exact Record.project_eq_self hall
  · intro hcolumns hstar kept
    have hproject := Row.restrictedTo_projectRow hcolumns hstar record.attributes
    constructor
    · intro hkept
      exact hkept.eq_of hproject
    · intro hkept
      rw [hkept]
      exact hproject
  · intro column hcolumn
    have hget : Fields.get? (record.project columns).attributes (lastSegment column) =
        Fields.get? record.attributes (lastSegment column) :=
      get?_projectRow record.attributes hcolumn
    rw [Record.column, Record.column?, hget]
    rfl
  · have hrow := projectRow_projectRow columns record.attributes
    rw [Record.project, Record.project, hrow]
  · intro hdistinct
    exact Record.projectInPlace_eq hdistinct columns

theorem author_restricted_to_columns :
    let author : Record :=
      { model := "authors"
        attributes :=
          [("id", .number (.int 1)), ("name", .text "Ann"), ("born", .null), ("email", .text "a@x")]
        relations := [("books", .many [])] }
    let columns : List String := ["authors.born", "email", "nope", "x.email", "id", "born"]
    let kept : Row := [("born", .null), ("email", .text "a@x"), ("id", .number (.int 1))]
    columns ≠ [] ∧ "*" ∉ columns ∧ (Fields.names author.attributes).Nodup ∧
      Row.RestrictedTo author.attributes columns kept ∧
      author.projectInPlace columns = { author with attributes := kept } ∧
      "x.email" ∈ columns ∧
      (author.project columns).column "x.email" = author.column "x.email" ∧
      author.project ("*" :: columns) = author := by
  intro author columns kept
  have hcolumns : columns ≠ [] := List.cons_ne_nil _ _
  have hstar : "*" ∉ columns := by decide +kernel
  have hdistinct : (Fields.names author.attributes).Nodup := by decide +kernel
  have hkept : author.project columns = { author with attributes := kept } := rfl
  have hemail : "x.email" ∈ columns := by decide +kernel
  obtain ⟨_, hrestricted, _, _, hsame, _, hplace⟩ := project_restricts_record author columns
  have hwhole := (project_restricts_record author ("*" :: columns)).1
  refine ⟨hcolumns, hstar, hdistinct, ?_, ?_, hemail, hsame _ hemail, ?_⟩
  · exact (hrestricted hcolumns hstar kept).mpr rfl
  · rw [hplace hdistinct, hkept]
  · exact hwhole (.inr List.mem_cons_self)

end QueryShape
