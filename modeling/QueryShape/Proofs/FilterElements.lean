import QueryShape.Proofs.FilterWords

/-!
# Filters as lists of elements

Written out, a filter is a list in which terms and combinators alternate.  Putting elements
together succeeds for exactly the lists that are written out so, and gives back the filter.
-/

namespace QueryShape

def FilterTerm.element : FilterTerm → FilterElement
  | .condition c => .condition c
  | .group chain => .group (.chain chain)

def FilterChain.elements : FilterChain → List FilterElement
  | .one term => [term.element]
  | .join term combinator rest => term.element :: .combinator combinator :: rest.elements

/-- The terms and combinators at the top of a filter in the order in which they are written. -/
def Filter.elements : Filter → List FilterElement
  | .empty => []
  | .chain terms => terms.elements

namespace FilterElement

def isCombinator : FilterElement → Bool
  | .combinator _ => true
  | .condition _ | .group _ => false

def depth : FilterElement → Nat
  | .combinator _ | .condition _ => 0
  | .group filter => filter.depth

end FilterElement

mutual

def FilterTerm.chains : FilterTerm → List FilterChain
  | .condition _ => []
  | .group chain => chain :: chain.groups

/-- The groups of a chain at every depth. -/
def FilterChain.groups : FilterChain → List FilterChain
  | .one term => term.chains
  | .join term _ rest => term.chains ++ rest.groups

end

/-- The chains of a filter at every level of nesting. -/
def Filter.chains : Filter → List FilterChain
  | .empty => []
  | .chain terms => terms :: terms.groups

/-! ## Elements -/

namespace FilterChain

/-- Between two terms stands one combinator. -/
theorem length_elements (chain : FilterChain) :
    chain.elements.length + 1 = 2 * chain.termCount := by
  fun_induction elements chain with
  | case1 => rfl
  | case2 term combinator rest ih =>
      simp only [List.length_cons, termCount]
      omega

end FilterChain

namespace FilterElement

variable {group : Json → Except Error Filter}

theorem parse_text_of_spelledBy {token : String} {combinator : Combinator}
    (h : combinator.SpelledBy token) :
    parse group (.text token) = .ok (.combinator combinator) := by
  simp only [parse, Combinator.ofToken?_eq_some_iff.mpr h]

theorem parse_text_of_spelled {s : String} {value : Json} (h : value.SpelledBy s) :
    parse group (.text s) = parseValue group value := by
  have hembedded : Json.embedded? s = some value := (Json.embedded?_eq_some_iff h.1).mpr h
  have htoken : Combinator.ofToken? s = none := by
    cases hcombinator : Combinator.ofToken? s with
    | none => rfl
    | some combinator =>
        have hnone := Combinator.embedded?_eq_none (Combinator.ofToken?_eq_some_iff.mp hcombinator)
        rw [hembedded] at hnone
        cases hnone
  simp only [parse, htoken, hembedded]

theorem parse_of_isStructure {value : Json} (h : value.isStructure = true) :
    parse group value = parseValue group value := by
  cases value with
  | null | bool | number | text => cases h
  | array | object => rfl

theorem isStructure_of_parseValue {value : Json} {element : FilterElement}
    (h : parseValue group value = .ok element) :
    value.isStructure = true := by
  cases value with
  | null | bool | number | text => cases h
  | array | object => rfl

theorem parse_text_eq_ok_iff {s : String} {element : FilterElement} :
    parse group (.text s) = .ok element ↔
      (∃ combinator : Combinator, combinator.SpelledBy s ∧ element = .combinator combinator) ∨
        ∃ value : Json, value.SpelledBy s ∧ parseValue group value = .ok element := by
  constructor
  · intro h
    simp only [parse] at h
    split at h
    next combinator hcombinator =>
      cases h
      exact .inl ⟨combinator, Combinator.ofToken?_eq_some_iff.mp hcombinator, rfl⟩
    next =>
      split at h
      next value hvalue =>
        have hstructure := isStructure_of_parseValue h
        exact .inr ⟨value, (Json.embedded?_eq_some_iff hstructure).mp hvalue, h⟩
      next => cases h
  · intro h
    rcases h with ⟨combinator, hspelled, rfl⟩ | ⟨value, hspelled, hvalue⟩
    · exact parse_text_of_spelledBy hspelled
    · rw [parse_text_of_spelled hspelled]
      exact hvalue

theorem parseValue_ne_combinator {value : Json} {combinator : Combinator} :
    parseValue group value ≠ .ok (.combinator combinator) := by
  intro h
  cases value with
  | null | bool | number | text => cases h
  | array | object =>
      rw [parseValue, functor_map_eq_ok_iff] at h
      obtain ⟨_, _, heq⟩ := h
      cases heq

theorem exists_spelledBy_of_parse {item : Json} {combinator : Combinator}
    (h : parse group item = .ok (.combinator combinator)) :
    ∃ token, item = .text token ∧ combinator.SpelledBy token := by
  cases item with
  | null | bool | number => cases h
  | array | object =>
      rw [parse_of_isStructure rfl] at h
      exact absurd h parseValue_ne_combinator
  | text s =>
      rcases parse_text_eq_ok_iff.mp h with ⟨other, hspelled, heq⟩ | ⟨value, _, hvalue⟩
      · cases heq
        exact ⟨s, rfl, hspelled⟩
      · exact absurd hvalue parseValue_ne_combinator

theorem term_eq_ok_iff {position : Nat} {element : FilterElement} {term : FilterTerm} :
    element.term position = .ok term ↔ element = term.element := by
  cases element with
  | combinator => cases term <;> simp [FilterElement.term, FilterTerm.element]
  | condition => cases term <;> simp [FilterElement.term, FilterTerm.element]
  | group filter =>
      cases filter <;> cases term <;> simp [FilterElement.term, FilterTerm.element]

theorem chain_eq_ok_iff {position : Nat} {elements : List FilterElement} {terms : FilterChain} :
    chain position elements = .ok terms ↔ elements = terms.elements := by
  fun_induction chain position elements generalizing terms with
  | case1 => cases terms <;> simp [FilterChain.elements]
  | case2 position element =>
      rw [functor_map_eq_ok_iff]
      cases terms with
      | one term => simp [FilterChain.elements, term_eq_ok_iff]
      | join => simp [FilterChain.elements]
  | case3 position element separator rest ih =>
      simp only [bind_eq_ok_iff, term_eq_ok_iff]
      cases separator with
      | combinator c =>
          simp only [functor_map_eq_ok_iff, ih]
          cases terms with
          | one => simp [FilterChain.elements]
          | join term next chain =>
              simp only [FilterChain.elements, List.cons.injEq, FilterElement.combinator.injEq]
              constructor
              · intro h
                obtain ⟨first, hfirst, last, hlast, heq⟩ := h
                cases heq
                exact ⟨hfirst, rfl, hlast⟩
              · intro h
                obtain ⟨hfirst, rfl, hlast⟩ := h
                exact ⟨term, hfirst, chain, hlast, rfl⟩
      | condition | group =>
          cases terms <;> simp [FilterChain.elements]

theorem assemble_eq_ok_iff {elements : List FilterElement} {filter : Filter} :
    assemble elements = .ok filter ↔ elements = filter.elements := by
  unfold assemble
  split
  next hempty =>
    rw [List.isEmpty_iff] at hempty
    subst hempty
    cases filter with
    | empty => simp [Filter.elements]
    | chain terms => cases terms <;> simp [Filter.elements, FilterChain.elements]
  next hempty =>
    rw [List.isEmpty_iff] at hempty
    split
    next heven =>
      refine ⟨nofun, fun heq => ?_⟩
      subst heq
      cases filter with
      | empty => exact absurd rfl hempty
      | chain terms =>
          have hlength : terms.elements.length + 1 = 2 * terms.termCount := terms.length_elements
          simp only [Filter.elements] at heven
          omega
    next =>
      simp only [functor_map_eq_ok_iff, chain_eq_ok_iff]
      cases filter with
      | empty =>
          refine ⟨?_, fun heq => absurd heq hempty⟩
          intro h
          obtain ⟨_, _, heq⟩ := h
          cases heq
      | chain terms =>
          constructor
          · intro h
            obtain ⟨_, heq, hchain⟩ := h
            cases hchain
            exact heq
          · intro heq
            exact ⟨terms, heq, rfl⟩

end FilterElement

theorem FilterElement.mapError_assemble_eq_ok_iff {elements : List FilterElement}
    {filter : Filter} :
    (FilterElement.assemble elements).mapError Error.malformedFilter = .ok filter ↔
      elements = filter.elements := by
  rw [← FilterElement.assemble_eq_ok_iff]
  cases FilterElement.assemble elements <;> simp [Except.mapError]

/-! ## Alternation -/

/-- Combinators stand at the odd positions of a chain, terms at the even ones. -/
structure FilterChain.Alternates (chain : FilterChain) : Prop where
  odd : chain.elements.length % 2 = 1
  alternate : ∀ (position : Nat) (element : FilterElement),
    chain.elements[position]? = some element → (element.isCombinator = true ↔ position % 2 = 1)
  groups : ∀ filter, FilterElement.group filter ∈ chain.elements → filter.isEmpty = false
  termCount : chain.termCount = chain.elements.countP (!·.isCombinator)

namespace FilterTerm

theorem isCombinator_element (term : FilterTerm) : term.element.isCombinator = false := by
  cases term <;> rfl

theorem isEmpty_of_element_eq_group {term : FilterTerm} {filter : Filter}
    (h : term.element = .group filter) :
    filter.isEmpty = false := by
  cases term with
  | condition => cases h
  | group =>
      cases h
      rfl

end FilterTerm

namespace FilterChain

theorem alternates (chain : FilterChain) : chain.Alternates where
  odd := by
    have hlength := chain.length_elements
    omega
  alternate := by
    fun_induction elements chain with
    | case1 term =>
        intro position element h
        rw [List.getElem?_singleton] at h
        split at h
        next hzero =>
          cases h
          simp [hzero, term.isCombinator_element]
        next => cases h
    | case2 term combinator rest ih =>
        intro position element h
        match position with
        | 0 =>
            cases h
            simp [term.isCombinator_element]
        | 1 =>
            cases h
            simp [FilterElement.isCombinator]
        | position + 2 =>
            rw [ih position element h]
            omega
  groups := by
    fun_induction elements chain with
    | case1 term =>
        intro filter h
        exact FilterTerm.isEmpty_of_element_eq_group (List.mem_singleton.mp h).symm
    | case2 term combinator rest ih =>
        intro filter h
        rcases List.mem_cons.mp h with hterm | hrest
        · exact FilterTerm.isEmpty_of_element_eq_group hterm.symm
        · rcases List.mem_cons.mp hrest with hcombinator | hrest
          · cases hcombinator
          · exact ih filter hrest
  termCount := by
    fun_induction elements chain with
    | case1 term => simp [termCount, term.isCombinator_element]
    | case2 term combinator rest ih =>
        have hcombinator : (FilterElement.combinator combinator).isCombinator = true := rfl
        simp [termCount, term.isCombinator_element, hcombinator, ih]

end FilterChain

theorem Filter.length_elements (filter : Filter) :
    filter.elements.length = filter.length := by
  cases filter with
  | empty => rfl
  | chain terms =>
      have hlength := terms.length_elements
      simp only [elements, length, termCount]
      omega

end QueryShape
