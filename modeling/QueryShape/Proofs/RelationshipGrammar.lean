import QueryShape.Proofs.FilterGrammar
import QueryShape.Proofs.RelationshipTrees
import QueryShape.Proofs.ShortForms

/-!
# The grammar of relationships

The rules below say which JSON values are lists of relationships, without any limit of
nesting.  Two limits are put on top of them: one for the height of the tree of
relationships and one for the filter of each relationship, which is counted from the
start again at every relationship.  Both are guards: a list that derives is read
unchanged if it keeps to them, and if not their breach is the only fault.
-/

namespace QueryShape

/-! ## The rules -/

/-- Null stands for no columns; what is no string in an array is skipped. -/
inductive ColumnList.Derives : Json → List String → Prop
  | null : ColumnList.Derives .null []
  | array {items : List Json} : ColumnList.Derives (.array items) (items.filterMap Json.text?)

mutual

inductive Relationship.Derives : Json → Relationship → Prop
  | short {entry : String} {name : List Char} {columns : List (List Char)}
      (hentry : ∀ fields, ¬ (Json.object fields).SpelledBy entry)
      (hshort : Relationship.ShortForm entry.toList name columns) (hname : name ≠ []) :
      Relationship.Derives (.text entry)
        (.short (String.ofList name) (columns.map String.ofList))
  | spelled {entry : String} {fields : List (String × Json)} {relationship : Relationship}
      (hentry : (Json.object fields).SpelledBy entry)
      (h : Relationship.Derives (.object fields) relationship) :
      Relationship.Derives (.text entry) relationship
  | full {fields : List (String × Json)} {written : String} {columns : List String}
      {filter : Filter} {nested : List Relationship}
      (hwritten : Json.field fields "name" = .text written) (hname : trim written.toList ≠ [])
      (hcolumns : ColumnList.Derives (Json.field fields "columns") columns)
      (hfilter : Filter.Derives (Json.field fields "filters") filter)
      (hnested : RelationshipList.Derives (Json.field fields "relationships") nested) :
      Relationship.Derives (.object fields)
        (.full (String.ofList (trim written.toList)) columns filter nested)

inductive RelationshipItems.Derives : List Json → List Relationship → Prop
  | nil : RelationshipItems.Derives [] []
  | cons {item : Json} {items : List Json} {relationship : Relationship}
      {relationships : List Relationship} (h : Relationship.Derives item relationship)
      (hrest : RelationshipItems.Derives items relationships) :
      RelationshipItems.Derives (item :: items) (relationship :: relationships)

inductive RelationshipList.Derives : Json → List Relationship → Prop
  | null : RelationshipList.Derives .null []
  | array {items : List Json} {relationships : List Relationship}
      (h : RelationshipItems.Derives items relationships) :
      RelationshipList.Derives (.array items) relationships

end

/-! ## Entries -/

namespace Relationship

theorem names?_eq_some_iff {value : Json} {columns : List String} :
    value.names? = some columns ↔ ColumnList.Derives value columns := by
  constructor
  · intro h
    cases value with
    | null =>
        cases h
        exact .null
    | array items =>
        cases h
        exact .array
    | bool | number | text | object => cases h
  · intro h
    cases h <;> rfl

theorem fullName_eq_ok_iff {fields : List (String × Json)} {name : String} :
    fullName fields = .ok name ↔
      ∃ written, Json.field fields "name" = .text written ∧ trim written.toList ≠ [] ∧
        String.ofList (trim written.toList) = name := by
  simp only [fullName, List.isEmpty_iff]
  constructor
  · intro h
    split at h
    next written hwritten =>
      split at h
      next => cases h
      next hname =>
        cases h
        exact ⟨written, hwritten, hname, rfl⟩
    next => cases h
  · intro h
    obtain ⟨written, hwritten, hname, rfl⟩ := h
    simp only [hwritten, if_neg hname]

/-! ## What is read derives -/

section

variable {limit : Nat} {nested : Json → Except Error (List Relationship)}
  (hnested : ∀ raw relationships, nested raw = .ok relationships →
    RelationshipList.Derives raw relationships)

include hnested

theorem derives_of_parseFull {fields : List (String × Json)} {relationship : Relationship}
    (h : parseFull limit nested fields = .ok relationship) :
    Relationship.Derives (.object fields) relationship := by
  simp only [parseFull, bind_eq_ok_iff, fullName_eq_ok_iff] at h
  obtain ⟨_, ⟨written, hwritten, hname, rfl⟩, h⟩ := h
  split at h
  next => cases h
  next columns hcolumns =>
    simp only [bind_eq_ok_iff, pure_eq_ok_iff] at h
    obtain ⟨filter, hfilter, relationships, hrelationships, rfl⟩ := h
    exact .full hwritten hname (names?_eq_some_iff.mp hcolumns)
      (Filter.derives_of_parseWithin hfilter) (hnested _ _ hrelationships)

theorem derives_of_parseEntry {item : Json} {relationship : Relationship}
    (h : parseEntry limit nested item = .ok relationship) :
    Relationship.Derives item relationship := by
  cases item with
  | null | bool | number | array => cases h
  | object fields => exact derives_of_parseFull hnested h
  | text entry =>
      rw [parseEntry] at h
      split at h
      next fields hentry =>
        exact .spelled ((Json.embedded?_eq_some_iff rfl).mp hentry) (derives_of_parseFull hnested h)
      next hentry =>
        obtain ⟨name, columns, hshort, hname, rfl⟩ := parseShort_eq_ok_iff.mp h
        refine .short ?_ hshort hname
        intro fields hspelled
        exact hentry fields ((Json.embedded?_eq_some_iff rfl).mpr hspelled)

end

end Relationship

theorem RelationshipItems.derives_of_forall₂ {items : List Json}
    {relationships : List Relationship}
    (h : List.Forall₂ Relationship.Derives items relationships) :
    RelationshipItems.Derives items relationships := by
  induction h with
  | nil => exact .nil
  | cons hentry _ ih => exact .cons hentry ih

namespace Relationship

theorem derives_of_parseWithin {limit room : Nat} {raw : Json}
    {relationships : List Relationship}
    (h : parseWithin limit room raw = .ok relationships) :
    RelationshipList.Derives raw relationships := by
  induction room generalizing raw relationships with
  | zero =>
      unfold parseWithin at h
      split at h
      next =>
        cases h
        exact .null
      next =>
        cases h
        exact .array .nil
      next => cases h
      next heq => cases heq
      next => cases h
  | succ room ih =>
      unfold parseWithin at h
      split at h
      next =>
        cases h
        exact .null
      next =>
        cases h
        exact .array .nil
      next heq => cases heq
      next room' item rest heq =>
        cases heq
        have hentries := mapM_eq_ok_iff.mp h
        exact .array (RelationshipItems.derives_of_forall₂
          (hentries.imp fun _ _ hentry => derives_of_parseEntry (fun _ _ => ih) hentry))
      next => cases h

/-! ## What derives is read within the limits -/

theorem parseEntry_short {limit room : Nat} {nestedOf : Json → Except Error (List Relationship)}
    {entry : String} {name : List Char} {columns : List (List Char)}
    (hentry : ∀ fields, ¬ (Json.object fields).SpelledBy entry)
    (hshort : ShortForm entry.toList name columns) (hname : name ≠ []) :
    parseEntry limit nestedOf (.text entry) =
      guarded limit
        (EntryFits limit room (.short (String.ofList name) (columns.map String.ofList)))
        (.short (String.ofList name) (columns.map String.ofList)) := by
  have hfits : EntryFits limit room
      (.short (String.ofList name) (columns.map String.ofList)) :=
    ⟨Nat.zero_le room, Nat.zero_le limit⟩
  rw [guarded_of_fits hfits, parseEntry]
  split
  next fields hvalue =>
    exact absurd ((Json.embedded?_eq_some_iff rfl).mp hvalue) (hentry fields)
  next => exact parseShort_eq_ok_iff.mpr ⟨name, columns, hshort, hname, rfl⟩

theorem parseFull_eq {limit room : Nat} {nestedOf : Json → Except Error (List Relationship)}
    {fields : List (String × Json)} {written : String} {columns : List String} {filter : Filter}
    {nested : List Relationship} (hwritten : Json.field fields "name" = .text written)
    (hname : trim written.toList ≠ [])
    (hcolumns : ColumnList.Derives (Json.field fields "columns") columns)
    (hfilter : Filter.Derives (Json.field fields "filters") filter)
    (hnested : nestedOf (Json.field fields "relationships") =
      guarded limit (Fits limit room nested) nested) :
    parseFull limit nestedOf fields =
      guarded limit
        (EntryFits limit room (.full (String.ofList (trim written.toList)) columns filter nested))
        (.full (String.ofList (trim written.toList)) columns filter nested) := by
  have hfull : fullName fields = .ok (String.ofList (trim written.toList)) :=
    fullName_eq_ok_iff.mpr ⟨written, hwritten, hname, rfl⟩
  have hrest :
      (do
        let relationships ← nestedOf (Json.field fields "relationships")
        return full (String.ofList (trim written.toList)) columns filter relationships) =
        guarded limit (Fits limit room nested)
          (full (String.ofList (trim written.toList)) columns filter nested) := by
    rw [hnested]
    exact map_guarded (full (String.ofList (trim written.toList)) columns filter) nested
  have hfits : (filter.depth ≤ limit ∧ Fits limit room nested) ↔
      EntryFits limit room
        (full (String.ofList (trim written.toList)) columns filter nested) := by
    unfold Fits EntryFits
    rw [levels, filterDepth]
    omega
  rw [← guarded_congr hfits, parseFull, hfull]
  simp only [names?_eq_some_iff.mpr hcolumns]
  show Filter.parseWithin limit limit _ >>= _ = _
  rw [hfilter.parseWithin_eq]
  exact guarded_bind_guarded filter hrest

theorem parseWithin_array {limit : Nat} {items : List Json} {relationships : List Relationship}
    (h : ∀ room,
      List.Forall₂
        (fun item relationship =>
          parseEntry limit (fun raw => parseWithin limit room raw) item =
            guarded limit (EntryFits limit room relationship) relationship)
        items relationships)
    (room : Nat) :
    parseWithin limit room (.array items) =
      guarded limit (Fits limit room relationships) relationships := by
  cases items with
  | nil =>
      rw [List.forall₂_nil_left_iff.mp (h 0)]
      have hfits : Fits limit room [] := ⟨Nat.zero_le room, Nat.zero_le limit⟩
      rw [guarded_of_fits hfits]
      cases room <;> rfl
  | cons item rest =>
      cases room with
      | zero =>
          obtain ⟨relationship, later, _, _, rfl⟩ := List.forall₂_cons_left_iff.mp (h 0)
          have hfits : ¬ Fits limit 0 (relationship :: later) := by
            unfold Fits
            rw [height]
            omega
          rw [guarded_of_not_fits hfits, parseWithin]
      | succ room =>
          rw [parseWithin, mapM_guarded (h room)]
          exact guarded_congr fits_succ_iff.symm _

end Relationship

mutual

theorem Relationship.Derives.parseEntry_eq {limit : Nat} {item : Json}
    {relationship : Relationship} :
    Relationship.Derives item relationship → ∀ room,
      Relationship.parseEntry limit (fun raw => Relationship.parseWithin limit room raw) item =
        guarded limit (Relationship.EntryFits limit room relationship) relationship
  | .short hentry hshort hname, room =>
      Relationship.parseEntry_short hentry hshort hname
  | .spelled hentry h, room => by
      rw [Relationship.parseEntry, (Json.embedded?_eq_some_iff rfl).mpr hentry]
      exact h.parseEntry_eq room
  | .full hwritten hname hcolumns hfilter hnested, room =>
      Relationship.parseFull_eq hwritten hname hcolumns hfilter (hnested.parseWithin_eq room)

theorem RelationshipItems.Derives.parseEntry_eq {limit : Nat} {items : List Json}
    {relationships : List Relationship} :
    RelationshipItems.Derives items relationships → ∀ room,
      List.Forall₂
        (fun item relationship =>
          Relationship.parseEntry limit (fun raw => Relationship.parseWithin limit room raw)
              item =
            guarded limit (Relationship.EntryFits limit room relationship) relationship)
        items relationships
  | .nil, _ => .nil
  | .cons h hrest, room => .cons (h.parseEntry_eq room) (hrest.parseEntry_eq room)

theorem RelationshipList.Derives.parseWithin_eq {limit : Nat} {raw : Json}
    {relationships : List Relationship} :
    RelationshipList.Derives raw relationships → ∀ room,
      Relationship.parseWithin limit room raw =
        guarded limit (Relationship.Fits limit room relationships) relationships
  | .null, room => by
      rw [guarded_of_fits ⟨Nat.zero_le room, Nat.zero_le limit⟩]
      cases room <;> rfl
  | .array h, room => Relationship.parseWithin_array h.parseEntry_eq room

end

/-! ## The lists that are read -/

namespace Relationship

theorem parseWithin_eq_ok_iff {limit room : Nat} {raw : Json}
    {relationships : List Relationship} :
    parseWithin limit room raw = .ok relationships ↔
      RelationshipList.Derives raw relationships ∧ Fits limit room relationships := by
  constructor
  · intro h
    have hderives : RelationshipList.Derives raw relationships := derives_of_parseWithin h
    rw [hderives.parseWithin_eq] at h
    exact ⟨hderives, (guarded_eq_ok_iff.mp h).1⟩
  · intro h
    rw [h.1.parseWithin_eq, guarded_of_fits h.2]

/-- The name is not empty and without blanks around it. -/
def IsNamed (relationship : Relationship) : Prop :=
  trim relationship.name.toList = relationship.name.toList ∧ relationship.name ≠ ""

theorem isNamed_of_trim {relationship : Relationship} {name : List Char}
    (heq : relationship.name = String.ofList name) (htrim : trim name = name) (h : name ≠ []) :
    relationship.IsNamed := by
  unfold IsNamed
  rw [heq, String.toList_ofList]
  refine ⟨htrim, fun hempty => h ?_⟩
  rw [← String.toList_ofList (l := name), hempty]
  rfl

theorem Derives.isNamed {item : Json} {relationship : Relationship} :
    Relationship.Derives item relationship → relationship.IsNamed
  | .short _ hshort hname => isNamed_of_trim rfl hshort.trim_name hname
  | .spelled _ h => h.isNamed
  | .full _ hname _ _ _ => isNamed_of_trim rfl (trim_trim _) hname

theorem Derives.exists_nested {item : Json} {relationship : Relationship} :
    Relationship.Derives item relationship →
      ∃ raw, RelationshipList.Derives raw relationship.nested
  | .short _ _ _ => ⟨.null, .null⟩
  | .spelled _ h => h.exists_nested
  | .full _ _ _ _ hnested => ⟨_, hnested⟩

end Relationship

theorem RelationshipItems.Derives.exists_item {items : List Json}
    {relationships : List Relationship} {relationship : Relationship} :
    RelationshipItems.Derives items relationships → relationship ∈ relationships →
      ∃ item, Relationship.Derives item relationship
  | .nil, hmem => nomatch hmem
  | .cons h hrest, hmem => by
      rcases List.mem_cons.mp hmem with rfl | hmem
      · exact ⟨_, h⟩
      · exact hrest.exists_item hmem

theorem RelationshipList.Derives.exists_item {raw : Json}
    {relationships : List Relationship} {relationship : Relationship}
    (h : RelationshipList.Derives raw relationships) (hmem : relationship ∈ relationships) :
    ∃ item, Relationship.Derives item relationship := by
  cases h with
  | null => cases hmem
  | array h => exact h.exists_item hmem

theorem RelationshipList.Derives.isNamed {raw : Json} {relationships : List Relationship}
    {relationship : Relationship} (h : RelationshipList.Derives raw relationships)
    (hwithin : relationship.Within relationships) :
    relationship.IsNamed := by
  induction hwithin generalizing raw with
  | here hmem =>
      obtain ⟨item, hitem⟩ := h.exists_item hmem
      exact hitem.isNamed
  | nested hparent _ ih =>
      obtain ⟨item, hitem⟩ := h.exists_item hparent
      obtain ⟨below, hbelow⟩ := hitem.exists_nested
      exact ih hbelow

namespace Relationship

theorem parse_iff_grammar_within_limits (limit : Nat) (raw : Json) :
    (∀ relationships, parse limit raw = .ok relationships ↔
        RelationshipList.Derives raw relationships ∧ height relationships ≤ limit ∧
          ∀ relationship, Within relationship relationships →
            ∀ filter, relationship.filter? = some filter → filter.depth ≤ limit) ∧
      (∀ relationships, RelationshipList.Derives raw relationships →
        (limit < height relationships ∨
          ∃ relationship, Within relationship relationships ∧
            ∃ filter, relationship.filter? = some filter ∧ limit < filter.depth) →
        parse limit raw = .error (.nestingTooDeep limit)) ∧
      ∀ relationships, parse limit raw = .ok relationships →
        ∀ relationship, Within relationship relationships →
          trim relationship.name.toList = relationship.name.toList ∧ relationship.name ≠ "" := by
  refine ⟨?_, ?_, ?_⟩
  · intro relationships
    rw [← filterDepths_le_iff]
    exact parseWithin_eq_ok_iff
  · intro relationships hderives hbreach
    have hfits : ¬ Fits limit limit relationships := by
      intro hfits
      rcases hbreach with hheight | ⟨relationship, hwithin, filter, hfilter, hdepth⟩
      · exact absurd hfits.1 (Nat.not_le.mpr hheight)
      · have hle := filterDepths_le_iff.mp hfits.2 relationship hwithin filter hfilter
        exact absurd hle (Nat.not_le.mpr hdepth)
    rw [parse, hderives.parseWithin_eq, guarded_of_not_fits hfits]
  · intro relationships h relationship hwithin
    exact (parseWithin_eq_ok_iff.mp h).1.isNamed hwithin

def postsFields : List (String × Json) :=
  [("name", .text " posts "), ("relationships", .array [.text "author"])]

def postsText : String :=
  " \x7b\"name\": \" posts \", \"relationships\": [\"author\"]\x7d"

/-- A short form and a full form inside a string, which nests a list of its own. -/
def spelledRelations : Json :=
  .array [.text "tags: id,, name ", .text postsText]

def ofSpelledRelations : List Relationship :=
  [.short "tags" ["id", "name"], .full "posts" [] .empty [.short "author" []]]

theorem derives_short {entry name : String} {columns : List String}
    (hembedded : Json.embedded? entry = none)
    (h : parseShort entry = .ok (.short name columns)) :
    Relationship.Derives (.text entry) (.short name columns) := by
  obtain ⟨_, _, hshort, hname, heq⟩ := parseShort_eq_ok_iff.mp h
  rw [← heq]
  refine .short ?_ hshort hname
  intro fields hspelled
  rw [(Json.embedded?_eq_some_iff rfl).mpr hspelled] at hembedded
  cases hembedded

theorem derives_spelledRelations :
    RelationshipList.Derives spelledRelations ofSpelledRelations := by
  have htags : Relationship.Derives (.text "tags: id,, name ") (.short "tags" ["id", "name"]) :=
    derives_short (by decide +kernel) (by rfl)
  have hauthor : Relationship.Derives (.text "author") (.short "author" []) :=
    derives_short (by decide +kernel) (by rfl)
  have hposts : Relationship.Derives (.object postsFields)
      (.full "posts" [] .empty [.short "author" []]) := by
    have hname : String.ofList (trim " posts ".toList) = "posts" := by decide
    have hwritten : Json.field postsFields "name" = .text " posts " := by decide
    have hcolumns : Json.field postsFields "columns" = .null := by decide
    have hfilters : Json.field postsFields "filters" = .null := by decide
    have hnested : Json.field postsFields "relationships" = .array [.text "author"] := by decide
    rw [← hname]
    refine .full hwritten (by decide) ?_ ?_ ?_
    · rw [hcolumns]
      exact .null
    · rw [hfilters]
      exact .null
    · rw [hnested]
      exact .array (.cons hauthor .nil)
  have hspelled : (Json.object postsFields).SpelledBy postsText :=
    (Json.embedded?_eq_some_iff rfl).mp (by decide +kernel)
  exact .array (.cons htags (.cons (.spelled hspelled hposts) .nil))

theorem parse_spelledRelations :
    parse 1 spelledRelations = .error (.nestingTooDeep 1) ∧
      ∃ relationships, parse 2 spelledRelations = .ok relationships ∧
        ∀ relationship, Within relationship relationships → relationship.name ≠ "" :=
  have htwo : parse 2 spelledRelations = .ok ofSpelledRelations :=
    ((parse_iff_grammar_within_limits 2 spelledRelations).1 ofSpelledRelations).mpr
      ⟨derives_spelledRelations, by decide, filterDepths_le_iff.mp (by decide)⟩
  ⟨(parse_iff_grammar_within_limits 1 spelledRelations).2.1 ofSpelledRelations
      derives_spelledRelations (.inl (by decide)),
    ofSpelledRelations, htwo, fun relationship hwithin =>
      ((parse_iff_grammar_within_limits 2 spelledRelations).2.2 ofSpelledRelations htwo
        relationship hwithin).2⟩

end Relationship

end QueryShape
