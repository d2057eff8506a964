import QueryShape.Proofs.FilterElements
import QueryShape.Proofs.FilterTranslation
import QueryShape.Proofs.NestingLimit

/-!
# The grammar of filters

The rules below say which JSON values are filters, and of which filter, without any
limit of nesting.  Reading follows these rules: a value that derives a filter is read as
this filter when its depth is within the limit, and otherwise the limit is the only
fault that is reported.  No other value is accepted.  So the limit decides whether a
filter is read and never which one.
-/

namespace QueryShape

/-! ## The rules -/

mutual

inductive FilterTerm.Derives : Json → FilterTerm → Prop
  | condition {fields : List (String × Json)} {condition : Condition}
      (h : Condition.Derives fields condition) :
      FilterTerm.Derives (.object fields) (.condition condition)
  | group {items : List Json} {chain : FilterChain} (h : FilterChain.Derives items chain) :
      FilterTerm.Derives (.array items) (.group chain)
  | spelled {s : String} {value : Json} {term : FilterTerm} (hspelled : value.SpelledBy s)
      (h : FilterTerm.Derives value term) :
      FilterTerm.Derives (.text s) term

/-- Terms and combinators alternate. -/
inductive FilterChain.Derives : List Json → FilterChain → Prop
  | one {item : Json} {term : FilterTerm} (h : FilterTerm.Derives item term) :
      FilterChain.Derives [item] (.one term)
  | join {item : Json} {token : String} {rest : List Json} {term : FilterTerm}
      {combinator : Combinator} {chain : FilterChain} (h : FilterTerm.Derives item term)
      (hcombinator : combinator.SpelledBy token) (hrest : FilterChain.Derives rest chain) :
      FilterChain.Derives (item :: .text token :: rest) (.join term combinator chain)

end

inductive Filter.Derives : Json → Filter → Prop
  | null : Derives .null .empty
  | empty : Derives (.array []) .empty
  | chain {items : List Json} {chain : FilterChain} (h : FilterChain.Derives items chain) :
      Derives (.array items) (.chain chain)

/-! ## What is read derives -/

section

variable {group : Json → Except Error Filter}
  (hgroup : ∀ raw filter, group raw = .ok filter → Filter.Derives raw filter)

include hgroup

theorem FilterTerm.derives_of_parseValue {value : Json} {term : FilterTerm}
    (h : FilterElement.parseValue group value = .ok term.element) :
    FilterTerm.Derives value term := by
  cases value with
  | null | bool | number | text => cases h
  | object fields =>
      rw [FilterElement.parseValue, functor_map_eq_ok_iff] at h
      obtain ⟨condition, hparse, heq⟩ := h
      cases term with
      | condition =>
          cases heq
          exact .condition (Condition.parse_eq_ok_iff.mp hparse)
      | group => cases heq
  | array items =>
      rw [FilterElement.parseValue, functor_map_eq_ok_iff] at h
      obtain ⟨filter, hparse, heq⟩ := h
      cases term with
      | condition => cases heq
      | group chain =>
          cases heq
          cases hgroup _ _ hparse with
          | chain hchain => exact .group hchain

theorem FilterTerm.derives_of_parse {item : Json} {term : FilterTerm}
    (h : FilterElement.parse group item = .ok term.element) :
    FilterTerm.Derives item term := by
  cases item with
  | null | bool | number => cases h
  | array | object => exact derives_of_parseValue hgroup h
  | text s =>
      rcases FilterElement.parse_text_eq_ok_iff.mp h with
        ⟨combinator, _, heq⟩ | ⟨value, hspelled, hvalue⟩
      · cases term <;> cases heq
      · exact .spelled hspelled (derives_of_parseValue hgroup hvalue)

theorem FilterChain.derives_of_parse {items : List Json} {chain : FilterChain}
    (h : List.Forall₂ (fun item element => FilterElement.parse group item = .ok element) items
      chain.elements) :
    FilterChain.Derives items chain := by
  fun_induction FilterChain.elements chain generalizing items with
  | case1 term =>
      obtain ⟨item, hitem, rfl⟩ : ∃ item, FilterElement.parse group item = .ok term.element ∧
          items = [item] := by
        simpa [List.forall₂_cons_right_iff] using h
      exact .one (FilterTerm.derives_of_parse hgroup hitem)
  | case2 term combinator rest ih =>
      rw [List.forall₂_cons_right_iff] at h
      obtain ⟨item, later, hitem, hlater, rfl⟩ := h
      rw [List.forall₂_cons_right_iff] at hlater
      obtain ⟨separator, others, hseparator, hothers, rfl⟩ := hlater
      obtain ⟨token, rfl, hspelled⟩ := FilterElement.exists_spelledBy_of_parse hseparator
      exact .join (FilterTerm.derives_of_parse hgroup hitem) hspelled (ih hothers)

end

theorem Filter.derives_of_parseWithin {limit room : Nat} {raw : Json} {filter : Filter}
    (h : Filter.parseWithin limit room raw = .ok filter) :
    Filter.Derives raw filter := by
  -- An array uses up one level of the room, whichever way it is nested.
  induction room generalizing raw filter with
  | zero =>
      unfold Filter.parseWithin at h
      split at h
      next =>
        cases h
        exact .null
      next =>
        cases h
        exact .empty
      next => cases h
      next heq => cases heq
      next => cases h
  | succ room ih =>
      unfold Filter.parseWithin at h
      split at h
      next =>
        cases h
        exact .null
      next =>
        cases h
        exact .empty
      next heq => cases heq
      next room' item rest heq =>
        cases heq
        simp only [bind_eq_ok_iff, mapM_eq_ok_iff,
          FilterElement.mapError_assemble_eq_ok_iff] at h
        obtain ⟨elements, helements, heq⟩ := h
        cases filter with
        | empty =>
            rw [heq] at helements
            cases helements
        | chain terms =>
            rw [heq] at helements
            exact .chain (FilterChain.derives_of_parse (fun _ _ => ih) helements)
      next => cases h

/-! ## What derives is read within the limit -/

theorem FilterTerm.depth_element (term : FilterTerm) :
    term.element.depth = term.depth := by
  cases term <;> rfl

theorem FilterChain.depth_le_succ_iff {chain : FilterChain} {room : Nat} :
    chain.depth ≤ room + 1 ↔ ∀ element ∈ chain.elements, element.depth ≤ room := by
  fun_induction FilterChain.elements chain with
  | case1 term => simp [FilterChain.depth, FilterTerm.depth_element]
  | case2 term combinator rest ih =>
      have hcombinator : (FilterElement.combinator combinator).depth ≤ room := Nat.zero_le room
      simp only [FilterChain.depth, List.forall_mem_cons, FilterTerm.depth_element]
      rw [← ih]
      omega

/-- With one level taken by the array, the items are read with the room that is left. -/
theorem Filter.parseWithin_array {limit : Nat} {items : List Json} {chain : FilterChain}
    (h : ∀ room,
      List.Forall₂
        (fun item element =>
          FilterElement.parse (fun raw => Filter.parseWithin limit room raw) item =
            guarded limit (element.depth ≤ room) element)
        items chain.elements)
    (room : Nat) :
    Filter.parseWithin limit room (.array items) =
      guarded limit (chain.depth ≤ room) (.chain chain) := by
  have hitems : ∃ item rest, items = item :: rest := by
    have hlength := (h 0).length_eq
    have hodd := chain.length_elements
    cases items with
    | nil =>
        rw [List.length_nil] at hlength
        omega
    | cons item rest => exact ⟨item, rest, rfl⟩
  obtain ⟨item, rest, rfl⟩ := hitems
  cases room with
  | zero =>
      have hdepth : ¬ chain.depth ≤ 0 := by
        have hpos := chain.depth_pos
        omega
      rw [guarded_of_not_fits hdepth, Filter.parseWithin]
  | succ room =>
      rw [Filter.parseWithin, mapM_guarded (h room),
        guarded_congr FilterChain.depth_le_succ_iff]
      exact guarded_bind (FilterElement.mapError_assemble_eq_ok_iff.mpr rfl)

mutual

theorem FilterTerm.Derives.parse_eq {limit : Nat} {item : Json} {term : FilterTerm} :
    FilterTerm.Derives item term → ∀ room,
      FilterElement.parse (fun raw => Filter.parseWithin limit room raw) item =
        guarded limit (term.element.depth ≤ room) term.element
  | .condition h, room => by
      rw [FilterElement.parse_of_isStructure rfl, FilterElement.parseValue,
        Condition.parse_eq_ok_iff.mpr h]
      exact (guarded_of_fits (Nat.zero_le room) _).symm
  | .group h, room => by
      rw [FilterElement.parse_of_isStructure rfl, FilterElement.parseValue,
        Filter.parseWithin_array h.parse_eq room]
      exact map_guarded FilterElement.group _
  | .spelled hspelled h, room => by
      rw [FilterElement.parse_text_of_spelled hspelled,
        ← FilterElement.parse_of_isStructure hspelled.1]
      exact h.parse_eq room

theorem FilterChain.Derives.parse_eq {limit : Nat} {items : List Json} {chain : FilterChain} :
    FilterChain.Derives items chain → ∀ room,
      List.Forall₂
        (fun item element =>
          FilterElement.parse (fun raw => Filter.parseWithin limit room raw) item =
            guarded limit (element.depth ≤ room) element)
        items chain.elements
  | .one h, room => .cons (h.parse_eq room) .nil
  | .join h hcombinator hrest, room => by
      refine .cons (h.parse_eq room) (.cons ?_ (hrest.parse_eq room))
      rw [FilterElement.parse_text_of_spelledBy hcombinator]
      exact (guarded_of_fits (Nat.zero_le room) _).symm

end

namespace Filter

/-- A value that derives a filter has no other fault than its depth. -/
theorem Derives.parseWithin_eq {limit room : Nat} {raw : Json} {filter : Filter}
    (h : Filter.Derives raw filter) :
    parseWithin limit room raw = guarded limit (filter.depth ≤ room) filter := by
  have hempty : guarded limit (Filter.empty.depth ≤ room) Filter.empty = .ok .empty :=
    guarded_of_fits (Nat.zero_le room) _
  cases h with
  | null =>
      rw [hempty]
      cases room <;> rfl
  | empty =>
      rw [hempty]
      cases room <;> rfl
  | chain h => exact parseWithin_array h.parse_eq room

theorem parseWithin_eq_ok_iff {limit room : Nat} {raw : Json} {filter : Filter} :
    parseWithin limit room raw = .ok filter ↔ Filter.Derives raw filter ∧ filter.depth ≤ room := by
  constructor
  · intro h
    have hderives : Filter.Derives raw filter := derives_of_parseWithin h
    rw [hderives.parseWithin_eq] at h
    exact ⟨hderives, (guarded_eq_ok_iff.mp h).1⟩
  · intro h
    rw [h.1.parseWithin_eq, guarded_of_fits h.2]

end Filter

theorem FilterChain.Derives.length_eq {items : List Json} {chain : FilterChain}
    (h : FilterChain.Derives items chain) :
    items.length = chain.elements.length := by
  have hitems := @FilterChain.Derives.parse_eq 0 items chain h 0
  exact hitems.length_eq

/-! ## The filters that are read -/

namespace Filter

theorem parse_iff_grammar_within_limit (limit : Nat) (raw : Json) :
    (∀ filter, parse limit raw = .ok filter ↔ Filter.Derives raw filter ∧ filter.depth ≤ limit) ∧
      (∀ filter, Filter.Derives raw filter → limit < filter.depth →
        parse limit raw = .error (.nestingTooDeep limit)) ∧
      ∀ filter, parse limit raw = .ok filter →
        (∀ items, raw = .array items → items.length = filter.elements.length) ∧
          (∀ chain ∈ filter.chains, chain.Alternates) ∧
          filter.elements.length = filter.length ∧
          ∀ more, limit ≤ more → parse more raw = .ok filter := by
  refine ⟨fun filter => parseWithin_eq_ok_iff, ?_, ?_⟩
  · intro filter hderives hdeep
    rw [parse, hderives.parseWithin_eq, guarded_of_not_fits (Nat.not_le.mpr hdeep)]
  · intro filter h
    obtain ⟨hderives, hdepth⟩ := parseWithin_eq_ok_iff.mp h
    refine ⟨?_, fun chain _ => chain.alternates, filter.length_elements, ?_⟩
    · intro items hraw
      subst hraw
      cases hderives with
      | empty => rfl
      | chain hchain => exact hchain.length_eq
    · intro more hmore
      exact parseWithin_eq_ok_iff.mpr ⟨hderives, hdepth.trans hmore⟩

/-- Two levels, the inner one inside a string. -/
def spelledGroup : Json :=
  .array [
    .object [("type", .text "null"), ("args", .array [.text "a"])],
    .text "aNd",
    .text " [\x7b\"type\": \"whereNotNull\", \"args\": [\"b\"]\x7d]"]

def ofSpelledGroup : Filter :=
  .chain (.join (.condition ⟨.null, [.text "a"]⟩) .and
    (.one (.group (.one (.condition ⟨.notNull, [.text "b"]⟩)))))

theorem derives_spelledGroup : Filter.Derives spelledGroup ofSpelledGroup :=
  have hgroup : FilterTerm.Derives
      (.array [.object [("type", .text "whereNotNull"), ("args", .array [.text "b"])]])
      (.group (.one (.condition ⟨.notNull, [.text "b"]⟩))) :=
    .group (.one (.condition ⟨.named (by decide), rfl⟩))
  have hcombinator : Combinator.and.SpelledBy "aNd" :=
    Combinator.ofToken?_eq_some_iff.mp (by decide)
  .chain (.join (.condition ⟨.named (by decide), rfl⟩) hcombinator
    (.one (.spelled ((Json.embedded?_eq_some_iff rfl).mp (by decide +kernel)) hgroup)))

theorem parse_spelledGroup :
    parse 1 spelledGroup = .error (.nestingTooDeep 1) ∧
      parse 7 spelledGroup = .ok ofSpelledGroup :=
  have htwo : parse 2 spelledGroup = .ok ofSpelledGroup :=
    ((parse_iff_grammar_within_limit 2 spelledGroup).1 ofSpelledGroup).mpr
      ⟨derives_spelledGroup, by decide⟩
  ⟨(parse_iff_grammar_within_limit 1 spelledGroup).2.1 ofSpelledGroup derives_spelledGroup
      (by decide),
    ((parse_iff_grammar_within_limit 2 spelledGroup).2.2 ofSpelledGroup htwo).2.2.2 7 (by decide)⟩

end Filter

end QueryShape
