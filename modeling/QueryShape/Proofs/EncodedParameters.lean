import QueryShape.Proofs.FilterElements
import QueryShape.Proofs.RelationshipGrammar
import QueryShape.Service.Request

/-!
# Parameters written as texts

A query string has only texts, so the arrays and objects of a request may each be
written as the text that spells them: a whole parameter, an element of a filter, a
relationship, and those inside of a text again.  A value encodes another one when it
can be turned into it by reading such texts.  A request reads the same from values
that encode those of another request, or fails with the same error; the encoding has
to be one for each role that the name of a parameter has.
-/

namespace QueryShape

/-! ## Values that encode others -/

mutual

/-- An element of a filter, where strings may spell arrays and objects. -/
inductive FilterItem.Encodes : Json → Json → Prop
  | same (value : Json) : FilterItem.Encodes value value
  | group {wire plain : List Json} (h : FilterItems.Encodes wire plain) :
      FilterItem.Encodes (.array wire) (.array plain)
  | spelled {s : String} {value plain : Json} (hspelled : value.SpelledBy s)
      (h : FilterItem.Encodes value plain) :
      FilterItem.Encodes (.text s) plain

inductive FilterItems.Encodes : List Json → List Json → Prop
  | nil : FilterItems.Encodes [] []
  | cons {item plainItem : Json} {rest plainRest : List Json}
      (h : FilterItem.Encodes item plainItem) (hrest : FilterItems.Encodes rest plainRest) :
      FilterItems.Encodes (item :: rest) (plainItem :: plainRest)

end

/-- The filter of a relationship is never a text itself. -/
inductive FilterList.Encodes : Json → Json → Prop
  | same (value : Json) : FilterList.Encodes value value
  | array {wire plain : List Json} (h : FilterItems.Encodes wire plain) :
      FilterList.Encodes (.array wire) (.array plain)

mutual

/-- An entry of a list of relationships, where strings may spell objects. -/
inductive RelationshipItem.Encodes : Json → Json → Prop
  | same (value : Json) : RelationshipItem.Encodes value value
  | full {wire plain : List (String × Json)}
      (hname : Json.field wire "name" = Json.field plain "name")
      (hcolumns : Json.field wire "columns" = Json.field plain "columns")
      (hfilters : FilterList.Encodes (Json.field wire "filters") (Json.field plain "filters"))
      (hnested : RelationshipList.Encodes (Json.field wire "relationships")
        (Json.field plain "relationships")) :
      RelationshipItem.Encodes (.object wire) (.object plain)
  | spelled {s : String} {fields : List (String × Json)} {plain : Json}
      (hspelled : (Json.object fields).SpelledBy s)
      (h : RelationshipItem.Encodes (.object fields) plain) :
      RelationshipItem.Encodes (.text s) plain

inductive RelationshipItems.Encodes : List Json → List Json → Prop
  | nil : RelationshipItems.Encodes [] []
  | cons {item plainItem : Json} {rest plainRest : List Json}
      (h : RelationshipItem.Encodes item plainItem)
      (hrest : RelationshipItems.Encodes rest plainRest) :
      RelationshipItems.Encodes (item :: rest) (plainItem :: plainRest)

inductive RelationshipList.Encodes : Json → Json → Prop
  | same (value : Json) : RelationshipList.Encodes value value
  | array {wire plain : List Json} (h : RelationshipItems.Encodes wire plain) :
      RelationshipList.Encodes (.array wire) (.array plain)

end

/-- A parameter, if there is one, where a string may spell the whole array. -/
inductive Parameter.Encodes (Items : List Json → List Json → Prop) :
    Option Json → Option Json → Prop
  | same (value : Option Json) : Encodes Items value value
  | array {wire plain : List Json} (h : Items wire plain) :
      Encodes Items (some (.array wire)) (some (.array plain))
  | text {s : String} {wire plain : List Json} (hs : Json.ofText? s = some (.array wire))
      (h : Items wire plain) :
      Encodes Items (some (.text s)) (some (.array plain))

/-! ## Filters -/

theorem Filter.parseWithin_array_congr {limit : Nat} {wire plain : List Json}
    (h : ∀ room,
      List.Forall₂
        (fun item plainItem =>
          FilterElement.parse (fun raw => parseWithin limit room raw) item =
            FilterElement.parse (fun raw => parseWithin limit room raw) plainItem)
        wire plain)
    (room : Nat) :
    parseWithin limit room (.array wire) = parseWithin limit room (.array plain) := by
  cases h room with
  | nil => rfl
  | cons =>
      cases room with
      | zero => rfl
      | succ room => simp only [parseWithin, mapM_congr_of_forall₂ (h room)]

mutual

theorem FilterItem.Encodes.parse_eq {limit : Nat} {wire plain : Json} :
    FilterItem.Encodes wire plain → ∀ room,
      FilterElement.parse (fun raw => Filter.parseWithin limit room raw) wire =
        FilterElement.parse (fun raw => Filter.parseWithin limit room raw) plain
  | .same _, _ => rfl
  | .group h, room => by
      simp only [FilterElement.parse, FilterElement.parseValue]
      rw [Filter.parseWithin_array_congr h.parse_eq room]
  | .spelled hspelled h, room => by
      rw [FilterElement.parse_text_of_spelled hspelled,
        ← FilterElement.parse_of_isStructure hspelled.1]
      exact h.parse_eq room

theorem FilterItems.Encodes.parse_eq {limit : Nat} {wire plain : List Json} :
    FilterItems.Encodes wire plain → ∀ room,
      List.Forall₂
        (fun item plainItem =>
          FilterElement.parse (fun raw => Filter.parseWithin limit room raw) item =
            FilterElement.parse (fun raw => Filter.parseWithin limit room raw) plainItem)
        wire plain
  | .nil, _ => .nil
  | .cons h hrest, room => .cons (h.parse_eq room) (hrest.parse_eq room)

end

theorem FilterItems.Encodes.parse_array_eq {wire plain : List Json}
    (h : FilterItems.Encodes wire plain) (limit : Nat) :
    Filter.parse limit (.array wire) = Filter.parse limit (.array plain) :=
  Filter.parseWithin_array_congr h.parse_eq limit

theorem FilterList.Encodes.parse_eq {wire plain : Json} (h : FilterList.Encodes wire plain)
    (limit : Nat) :
    Filter.parse limit wire = Filter.parse limit plain := by
  cases h with
  | same => rfl
  | array h => exact h.parse_array_eq limit

/-! ## Relationships -/

namespace Relationship

theorem parseFull_congr {limit : Nat} {nested : Json → Except Error (List Relationship)}
    {wire plain : List (String × Json)}
    (hname : Json.field wire "name" = Json.field plain "name")
    (hcolumns : Json.field wire "columns" = Json.field plain "columns")
    (hfilters : Filter.parse limit (Json.field wire "filters") =
      Filter.parse limit (Json.field plain "filters"))
    (hnested : nested (Json.field wire "relationships") =
      nested (Json.field plain "relationships")) :
    parseFull limit nested wire = parseFull limit nested plain := by
  simp only [parseFull, fullName, hname, hcolumns, hfilters, hnested]

theorem parseWithin_array_congr {limit : Nat} {wire plain : List Json}
    (h : ∀ room,
      List.Forall₂
        (fun item plainItem =>
          parseEntry limit (fun raw => parseWithin limit room raw) item =
            parseEntry limit (fun raw => parseWithin limit room raw) plainItem)
        wire plain)
    (room : Nat) :
    parseWithin limit room (.array wire) = parseWithin limit room (.array plain) := by
  cases h room with
  | nil => rfl
  | cons =>
      cases room with
      | zero => rfl
      | succ room => simp only [parseWithin, mapM_congr_of_forall₂ (h room)]

end Relationship

mutual

theorem RelationshipItem.Encodes.parseEntry_eq {limit : Nat} {wire plain : Json} :
    RelationshipItem.Encodes wire plain → ∀ room,
      Relationship.parseEntry limit (fun raw => Relationship.parseWithin limit room raw) wire =
        Relationship.parseEntry limit (fun raw => Relationship.parseWithin limit room raw) plain
  | .same _, _ => rfl
  | .full hname hcolumns hfilters hnested, room =>
      Relationship.parseFull_congr hname hcolumns (hfilters.parse_eq limit)
        (hnested.parseWithin_eq room)
  | .spelled hspelled h, room => by
      rw [Relationship.parseEntry, (Json.embedded?_eq_some_iff rfl).mpr hspelled]
      exact h.parseEntry_eq room

theorem RelationshipItems.Encodes.parseEntry_eq {limit : Nat} {wire plain : List Json} :
    RelationshipItems.Encodes wire plain → ∀ room,
      List.Forall₂
        (fun item plainItem =>
          Relationship.parseEntry limit (fun raw => Relationship.parseWithin limit room raw)
              item =
            Relationship.parseEntry limit (fun raw => Relationship.parseWithin limit room raw)
              plainItem)
        wire plain
  | .nil, _ => .nil
  | .cons h hrest, room => .cons (h.parseEntry_eq room) (hrest.parseEntry_eq room)

theorem RelationshipList.Encodes.parseWithin_eq {limit : Nat} {wire plain : Json} :
    RelationshipList.Encodes wire plain → ∀ room,
      Relationship.parseWithin limit room wire = Relationship.parseWithin limit room plain
  | .same _, _ => rfl
  | .array h, room => Relationship.parseWithin_array_congr h.parseEntry_eq room

end

theorem RelationshipItems.Encodes.parse_array_eq {wire plain : List Json}
    (h : RelationshipItems.Encodes wire plain) (limit : Nat) :
    Relationship.parse limit (.array wire) = Relationship.parse limit (.array plain) :=
  Relationship.parseWithin_array_congr h.parseEntry_eq limit

/-! ## Requests -/

/-- A blank text spells nothing. -/
theorem Json.trim_ne_nil_of_ofText? {s : String} {value : Json} (h : ofText? s = some value) :
    trim s.toList ≠ [] := by
  have htext : ofChars? (trimStart s.toList) = some value := ofChars?_trimStart h
  cases hstart : trimStart s.toList with
  | nil =>
      rw [hstart] at htext
      cases htext
  | cons c rest => exact trim_ne_nil hstart

namespace Request

variable {Items : List Json → List Json → Prop}

theorem parameter?_of_array {params : Json} {name : String} {items : List Json}
    (h : params.get? name = some (.array items)) :
    parameter? params name = .ok (some (.array items)) := by
  simp only [parameter?, h]

theorem parameter?_of_text {params : Json} {name s : String} {items : List Json}
    (h : params.get? name = some (.text s)) (hs : Json.ofText? s = some (.array items)) :
    parameter? params name = .ok (some (.array items)) := by
  simp [parameter?, h, hs, Json.trim_ne_nil_of_ofText? hs]

theorem read_eq_of_encodes {wire plain : Json} {name : String} {α : Type}
    {parse : Json → Except Error α}
    (h : Parameter.Encodes Items (wire.get? name) (plain.get? name))
    (hparse : ∀ items plainItems, Items items plainItems →
      parse (.array items) = parse (.array plainItems)) :
    read wire name parse = read plain name parse := by
  generalize hwire : wire.get? name = found at h
  generalize hplain : plain.get? name = original at h
  cases h with
  | same =>
      have hsame : parameter? wire name = parameter? plain name := by
        simp only [parameter?, hwire, hplain]
      rw [read, read, hsame]
  | array h =>
      rw [read, read, parameter?_of_array hwire, parameter?_of_array hplain]
      exact hparse _ _ h
  | text hs h =>
      rw [read, read, parameter?_of_text hwire hs, parameter?_of_array hplain]
      exact hparse _ _ h

/-- Every role finds an encoding under the name that it is configured with. -/
structure Encodes (names : ParameterNames) (wire plain : Json) : Prop where
  columns :
    Parameter.Encodes Eq (wire.get? names.columns) (plain.get? names.columns)
  filters :
    Parameter.Encodes FilterItems.Encodes (wire.get? names.filters) (plain.get? names.filters)
  relationships :
    Parameter.Encodes RelationshipItems.Encodes (wire.get? names.relationships)
      (plain.get? names.relationships)

theorem Encodes.parse_eq {config : Config} {wire plain : Json}
    (h : Encodes config.names wire plain) :
    parse config wire = parse config plain := by
  have hcolumns : read wire config.names.columns parseColumns =
      read plain config.names.columns parseColumns :=
    read_eq_of_encodes h.columns fun _ _ hitems => by rw [hitems]
  have hfilters : read wire config.names.filters (Filter.parse config.maxDepth) =
      read plain config.names.filters (Filter.parse config.maxDepth) :=
    read_eq_of_encodes h.filters fun _ _ hitems => hitems.parse_array_eq config.maxDepth
  have hrelationships :
      read wire config.names.relationships (Relationship.parse config.maxDepth) =
        read plain config.names.relationships (Relationship.parse config.maxDepth) :=
    read_eq_of_encodes h.relationships fun _ _ hitems => hitems.parse_array_eq config.maxDepth
  rw [parse, parse, hcolumns, hfilters, hrelationships]

end Request

/-! ## Names of parameters -/

namespace ParameterNames

structure Distinct (names : ParameterNames) : Prop where
  columns_ne_filters : names.columns ≠ names.filters
  columns_ne_relationships : names.columns ≠ names.relationships
  filters_ne_relationships : names.filters ≠ names.relationships

instance (names : ParameterNames) : Decidable names.Distinct :=
  decidable_of_iff
    (names.columns ≠ names.filters ∧ names.columns ≠ names.relationships ∧
      names.filters ≠ names.relationships)
    ⟨fun h => ⟨h.1, h.2.1, h.2.2⟩, fun h => ⟨h.1, h.2, h.3⟩⟩

/-- One role of a name is enough to replace the value of the name. -/
inductive Replaces (names : ParameterNames) (key : String) (wire plain : Option Json) : Prop
  | unchanged (h : wire = plain)
  | columns (hkey : key = names.columns) (h : Parameter.Encodes Eq wire plain)
  | filters (hkey : key = names.filters) (h : Parameter.Encodes FilterItems.Encodes wire plain)
  | relationships (hkey : key = names.relationships)
      (h : Parameter.Encodes RelationshipItems.Encodes wire plain)

theorem Distinct.encodes {names : ParameterNames} {wire plain : Json} (hdistinct : names.Distinct)
    (h : ∀ key, names.Replaces key (wire.get? key) (plain.get? key)) :
    Request.Encodes names wire plain where
  columns := by
    cases h names.columns with
    | unchanged h => rw [h]; exact .same _
    | columns _ h => exact h
    | filters hkey => exact absurd hkey hdistinct.columns_ne_filters
    | relationships hkey => exact absurd hkey hdistinct.columns_ne_relationships
  filters := by
    cases h names.filters with
    | unchanged h => rw [h]; exact .same _
    | columns hkey => exact absurd hkey.symm hdistinct.columns_ne_filters
    | filters _ h => exact h
    | relationships hkey => exact absurd hkey hdistinct.filters_ne_relationships
  relationships := by
    cases h names.relationships with
    | unchanged h => rw [h]; exact .same _
    | columns hkey => exact absurd hkey.symm hdistinct.columns_ne_relationships
    | filters hkey => exact absurd hkey.symm hdistinct.filters_ne_relationships
    | relationships _ h => exact h

end ParameterNames

/-- A request does not see the encoding.  Where the names differ, each value may be replaced by one
that encodes it in the role of its name. -/
theorem encoded_request_eq (config : Config) (wire plain : Json) :
    (Request.Encodes config.names wire plain →
        Request.parse config wire = Request.parse config plain) ∧
      (config.names.Distinct →
        (∀ key, config.names.Replaces key (wire.get? key) (plain.get? key)) →
          Request.parse config wire = Request.parse config plain) := by
  constructor
  · intro h
    exact h.parse_eq
  · intro hdistinct h
    exact (hdistinct.encodes h).parse_eq

namespace EncodedParameters

def condition : Json :=
  .object [("args", .array [.text "a", .number (.int 1)])]

def conditionText : String :=
  "\x7b\"args\":[\"a\",1]\x7d"

theorem spelledBy_conditionText :
    condition.SpelledBy conditionText :=
  (Json.embedded?_eq_some_iff rfl).mp (by decide +kernel)

theorem encodes_conditionText :
    FilterItem.Encodes (.text conditionText) condition :=
  .spelled spelledBy_conditionText (.same _)

/-- Columns and filters have one name. -/
def sharedName : Config where
  names := { columns := "_p", filters := "_p" }

def sharedWire : Json :=
  .object [("_p", .array [.text conditionText])]

def sharedPlain : Json :=
  .object [("_p", .array [condition])]

/-- A condition that is replaced by its text turns up among the columns. -/
theorem shared_name_not_transparent :
    (∀ key, sharedName.names.Replaces key (sharedWire.get? key) (sharedPlain.get? key)) ∧
      Request.parse sharedName sharedWire ≠ Request.parse sharedName sharedPlain := by
  constructor
  · intro key
    by_cases hkey : key = "_p"
    · subst hkey
      exact .filters rfl (.array (.cons encodes_conditionText .nil))
    · refine .unchanged ?_
      simp [sharedWire, sharedPlain, Json.get?, Fields.get?, Ne.symm hkey]
  · intro h
    have hcolumns : (Request.parse sharedName sharedWire).map Request.columns =
        (Request.parse sharedName sharedPlain).map Request.columns := by
      rw [h]
    revert hcolumns
    decide +kernel

/-- A whole parameter with a condition as a text inside of it. -/
def filtersText : String :=
  "[\"\x7b\\\"args\\\":[\\\"a\\\",1]\x7d\"]"

/-- A relationship with a group as a text inside of its filter. -/
def postsText : String :=
  " \x7b\"name\":\"posts\",\"filters\":[\"[\x7b\\\"args\\\":[\\\"a\\\",1]\x7d]\"]\x7d"

def groupText : String :=
  "[\x7b\"args\":[\"a\",1]\x7d]"

def wire : Json :=
  .object
    [("_filters", .text filtersText), ("_relationships", .array [.text postsText])]

def plain : Json :=
  .object
    [("_filters", .array [condition]),
      ("_relationships", .array
        [.object [("name", .text "posts"), ("filters", .array [.array [condition]])]])]

theorem encodes_postsText :
    RelationshipItem.Encodes (.text postsText)
      (.object [("name", .text "posts"), ("filters", .array [.array [condition]])]) := by
  have hposts : (Json.object
      [("name", .text "posts"), ("filters", .array [.text groupText])]).SpelledBy postsText :=
    (Json.embedded?_eq_some_iff rfl).mp (by decide +kernel)
  have hgroup : (Json.array [condition]).SpelledBy groupText :=
    (Json.embedded?_eq_some_iff rfl).mp (by decide +kernel)
  refine .spelled hposts (.full rfl rfl ?_ (.same _))
  exact .array (.cons (.spelled hgroup (.same _)) .nil)

theorem encoded_posts_request_eq :
    (∀ key, ({} : Config).names.Replaces key (wire.get? key) (plain.get? key)) ∧
      Request.parse {} wire = Request.parse {} plain ∧
        ∃ request, Request.parse {} plain = .ok request ∧
          request.relationships.map Relationship.name = ["posts"] := by
  have hdistinct : ({} : Config).names.Distinct := by decide
  have hreplaces : ∀ key, ({} : Config).names.Replaces key (wire.get? key) (plain.get? key) := by
    intro key
    by_cases hfilters : key = "_filters"
    · subst hfilters
      have htext : Json.ofText? filtersText = some (.array [.text conditionText]) := by
        decide +kernel
      exact .filters rfl (.text htext (.cons encodes_conditionText .nil))
    · by_cases hrelationships : key = "_relationships"
      · subst hrelationships
        exact .relationships rfl (.array (.cons encodes_postsText .nil))
      · refine .unchanged ?_
        simp [wire, plain, Json.get?, Fields.get?, Ne.symm hfilters, Ne.symm hrelationships]
  refine ⟨hreplaces, (encoded_request_eq {} wire plain).2 hdistinct hreplaces, _, rfl, ?_⟩
  decide

end EncodedParameters

end QueryShape
