import Mathlib.Data.List.Forall2
import QueryShape.Proofs.ConditionTranslation
import QueryShape.Query.Backend

/-!
# Translating filters

A filter denotes the clause with one predicate for each of its terms, in order, under
the combinator written before the term.  A group denotes a group with the translation
of all of its terms.  Applying a filter adds this translation term by term and stops
at the first fault, where the parts of the filter are visited from left to right and a
group before its terms.  The terms before the faulty one stay added, and nothing of
the faulty one does.
-/

namespace QueryShape

mutual

inductive FilterTerm.Denotes (scope : Scope) : FilterTerm → Predicate → Prop
  | condition {condition : Condition} {predicate : Predicate}
      (h : condition.Denotes scope predicate) :
      FilterTerm.Denotes scope (.condition condition) predicate
  | group {chain : FilterChain} {clause : Clause}
      (h : FilterChain.Denotes scope .and chain clause) :
      FilterTerm.Denotes scope (.group chain) (.group clause)

/-- The combinator is the one that stands before the first term. -/
inductive FilterChain.Denotes (scope : Scope) : Combinator → FilterChain → Clause → Prop
  | one {combinator : Combinator} {term : FilterTerm} {predicate : Predicate}
      (h : FilterTerm.Denotes scope term predicate) :
      FilterChain.Denotes scope combinator (.one term) [(combinator, predicate)]
  | join {combinator next : Combinator} {term : FilterTerm} {rest : FilterChain}
      {predicate : Predicate} {clause : Clause}
      (h : FilterTerm.Denotes scope term predicate)
      (hrest : FilterChain.Denotes scope next rest clause) :
      FilterChain.Denotes scope combinator (.join term next rest)
        ((combinator, predicate) :: clause)

end

inductive Filter.Denotes (scope : Scope) : Filter → Clause → Prop
  | empty : Denotes scope .empty []
  | chain {terms : FilterChain} {clause : Clause} (h : terms.Denotes scope .and clause) :
      Denotes scope (.chain terms) clause

/-! ## The parts of a filter -/

/-- The terms of a chain, each with the combinator before it. -/
def FilterChain.joined (combinator : Combinator) : FilterChain → List (Combinator × FilterTerm)
  | .one term => [(combinator, term)]
  | .join term next rest => (combinator, term) :: rest.joined next

/-- The terms at the top of a filter, the first one joined by `and`. -/
def Filter.joined : Filter → List (Combinator × FilterTerm)
  | .empty => []
  | .chain terms => terms.joined .and

mutual

def FilterTerm.conditions : FilterTerm → List Condition
  | .condition condition => [condition]
  | .group chain => chain.conditions

def FilterChain.conditions : FilterChain → List Condition
  | .one term => term.conditions
  | .join term _ rest => term.conditions ++ rest.conditions

end

/-- The conditions of a filter at every depth. -/
def Filter.conditions : Filter → List Condition
  | .empty => []
  | .chain terms => terms.conditions

/-- What can be wrong with a filter: a level of nesting, or a condition where it stands. -/
inductive FilterPart where
  | level (depth : Nat)
  | leaf (combinator : Combinator) (condition : Condition)

def FilterPart.fault? (scope : Scope) (limit : Nat) : FilterPart → Option Error
  | .level depth => if depth ≤ limit then none else some (.nestingTooDeep limit)
  | .leaf combinator condition =>
    match condition.predicate scope combinator with
    | .ok _ => none
    | .error e => some e

mutual

/-- The parts of a term that stands at a depth, in depth-first order. -/
def FilterTerm.parts (depth : Nat) (combinator : Combinator) : FilterTerm → List FilterPart
  | .condition condition => [.leaf combinator condition]
  | .group chain => .level (depth + 1) :: chain.parts (depth + 1) .and

def FilterChain.parts (depth : Nat) (combinator : Combinator) : FilterChain → List FilterPart
  | .one term => term.parts depth combinator
  | .join term next rest => term.parts depth combinator ++ rest.parts depth next

end

/-- The parts of a filter; its top level counts also when it is empty. -/
def Filter.parts : Filter → List FilterPart
  | .empty => [.level 1]
  | .chain terms => .level 1 :: terms.parts 1 .and

/-! ## Successful runs -/

theorem FilterChain.Denotes.ne_nil {scope : Scope} {combinator : Combinator}
    {chain : FilterChain} {clause : Clause} (h : chain.Denotes scope combinator clause) :
    clause ≠ [] := by
  cases h with
  | one h => exact List.cons_ne_nil _ _
  | join h hrest => exact List.cons_ne_nil _ _

theorem FilterChain.depth_pos (chain : FilterChain) :
    0 < chain.depth := by
  cases chain with
  | one term => exact Nat.succ_pos _
  | join term next rest => exact Nat.lt_of_lt_of_le (Nat.succ_pos _) (Nat.le_max_left _ _)

theorem Clause.addGroup_of_ne_nil {inner : Clause} (h : inner ≠ []) (clause : Clause)
    (combinator : Combinator) :
    clause.addGroup combinator inner = clause.add combinator (.group inner) := by
  simp [Clause.addGroup, h]

mutual

theorem FilterTerm.addTo_eq_done_iff {scope : Scope} {limit : Nat} :
    ∀ {term : FilterTerm} {room : Nat} {combinator : Combinator} {clause next : Clause},
      term.addTo scope limit room combinator clause = .done next ↔
        ∃ predicate, term.Denotes scope predicate ∧ term.depth ≤ room ∧
          next = clause.add combinator predicate
  | .condition condition, room, combinator, clause, next => by
      simp only [FilterTerm.addTo, Run.step_eq_done_iff, map_eq_ok_iff,
        Condition.predicate_eq_ok_iff, FilterTerm.depth]
      constructor
      · rintro ⟨predicate, h, rfl⟩
        exact ⟨predicate, .condition h, Nat.zero_le room, rfl⟩
      · rintro ⟨predicate, ⟨h⟩, _, rfl⟩
        exact ⟨predicate, h, rfl⟩
  | .group chain, 0, combinator, clause, next => by
      have hdepth : 0 < chain.depth := chain.depth_pos
      simp only [FilterTerm.addTo, FilterTerm.depth, Run.eq_done_iff]
      constructor
      · rintro ⟨_, h⟩
        cases h
      · rintro ⟨_, _, hle, _⟩
        omega
  | .group chain, room + 1, combinator, clause, next => by
      simp only [FilterTerm.addTo, Run.step_eq_done_iff, map_eq_ok_iff, Run.result_eq_ok_iff,
        FilterChain.addTo_eq_done_iff, FilterTerm.depth, List.nil_append]
      constructor
      · rintro ⟨inner, ⟨added, h, hdepth, rfl⟩, rfl⟩
        exact ⟨.group inner, .group h, hdepth, Clause.addGroup_of_ne_nil h.ne_nil _ _⟩
      · rintro ⟨_, _ | ⟨h⟩, hdepth, rfl⟩
        exact ⟨_, ⟨_, h, hdepth, rfl⟩, Clause.addGroup_of_ne_nil h.ne_nil _ _⟩

theorem FilterChain.addTo_eq_done_iff {scope : Scope} {limit : Nat} :
    ∀ {chain : FilterChain} {room : Nat} {combinator : Combinator} {clause next : Clause},
      chain.addTo scope limit room combinator clause = .done next ↔
        ∃ added, chain.Denotes scope combinator added ∧ chain.depth ≤ room + 1 ∧
          next = clause ++ added
  | .one term, room, combinator, clause, next => by
      simp only [FilterChain.addTo, FilterTerm.addTo_eq_done_iff, FilterChain.depth,
        Nat.add_le_add_iff_right]
      constructor
      · rintro ⟨predicate, h, hdepth, rfl⟩
        exact ⟨_, .one h, hdepth, rfl⟩
      · rintro ⟨_, ⟨h⟩, hdepth, rfl⟩
        exact ⟨_, h, hdepth, rfl⟩
  | .join term after rest, room, combinator, clause, next => by
      simp only [FilterChain.addTo, Run.andThen_eq_done_iff, FilterTerm.addTo_eq_done_iff,
        FilterChain.addTo_eq_done_iff, FilterChain.depth, Nat.max_le, Nat.add_le_add_iff_right]
      constructor
      · rintro ⟨_, ⟨predicate, h, hdepth, rfl⟩, added, hrest, hdepths, rfl⟩
        exact ⟨_, .join h hrest, ⟨hdepth, hdepths⟩, by simp [Clause.add]⟩
      · rintro ⟨_, _ | ⟨h, hrest⟩, ⟨hdepth, hdepths⟩, rfl⟩
        exact ⟨_, ⟨_, h, hdepth, rfl⟩, _, hrest, hdepths, by simp [Clause.add]⟩

end

theorem Filter.addTo_eq_done_iff {scope : Scope} {limit : Nat} {filter : Filter}
    {clause next : Clause} :
    filter.addTo scope limit clause = .done next ↔
      ∃ added, filter.Denotes scope added ∧ 1 ≤ limit ∧ filter.depth ≤ limit ∧
        next = clause ++ added := by
  cases limit with
  | zero => simp [Filter.addTo, Run.eq_done_iff]
  | succ room =>
      cases filter with
      | empty =>
          simp only [Filter.addTo, Filter.depth, Run.eq_done_iff]
          constructor
          · rintro ⟨rfl, _⟩
            exact ⟨[], .empty, by simp, by simp, by simp [Run.done]⟩
          · rintro ⟨_, ⟨⟩, _, _, rfl⟩
            exact ⟨by simp [Run.done], rfl⟩
      | chain terms =>
          simp only [Filter.addTo, FilterChain.addTo_eq_done_iff, Filter.depth]
          constructor
          · rintro ⟨added, h, hdepth, rfl⟩
            exact ⟨added, .chain h, by simp, hdepth, rfl⟩
          · rintro ⟨_, _ | ⟨h⟩, _, hdepth, rfl⟩
            exact ⟨_, h, hdepth, rfl⟩

/-! ## The first fault -/

/-- The first fault of a list of parts. -/
def FilterPart.firstFault? (scope : Scope) (limit : Nat) (parts : List FilterPart) :
    Option Error :=
  parts.findSome? (FilterPart.fault? scope limit)

namespace FilterPart

variable {scope : Scope} {limit : Nat}

theorem firstFault?_append (parts more : List FilterPart) :
    firstFault? scope limit (parts ++ more) =
      (firstFault? scope limit parts).or (firstFault? scope limit more) := by
  simp [firstFault?, List.findSome?_append]

theorem firstFault?_level_of_le {depth : Nat} (h : depth ≤ limit) (parts : List FilterPart) :
    firstFault? scope limit (.level depth :: parts) = firstFault? scope limit parts := by
  simp [firstFault?, fault?, h]

theorem firstFault?_level_of_lt {depth : Nat} (h : limit < depth) (parts : List FilterPart) :
    firstFault? scope limit (.level depth :: parts) = some (.nestingTooDeep limit) := by
  simp [firstFault?, fault?, Nat.not_le.mpr h]

end FilterPart

mutual

theorem FilterTerm.failure_addTo {scope : Scope} {limit : Nat} :
    ∀ {term : FilterTerm} {depth room : Nat} {combinator : Combinator} {clause : Clause},
      depth + room = limit →
        (term.addTo scope limit room combinator clause).failure =
          FilterPart.firstFault? scope limit (term.parts depth combinator)
  | .condition condition, depth, room, combinator, clause, _ => by
      simp only [FilterTerm.addTo, Run.failure_step, FilterTerm.parts, FilterPart.firstFault?,
        List.findSome?_singleton, FilterPart.fault?]
      cases condition.predicate scope combinator <;> rfl
  | .group chain, depth, 0, combinator, clause, hroom => by
      have hlimit : limit < depth + 1 := by omega
      simp only [FilterTerm.addTo, FilterTerm.parts]
      exact (FilterPart.firstFault?_level_of_lt hlimit _).symm
  | .group chain, depth, room + 1, combinator, clause, hroom => by
      have hlimit : depth + 1 ≤ limit := by omega
      have hchain :
          (chain.addTo scope limit room .and []).failure =
            FilterPart.firstFault? scope limit (chain.parts (depth + 1) .and) :=
        FilterChain.failure_addTo (by omega)
      rw [FilterTerm.parts, FilterPart.firstFault?_level_of_le hlimit, ← hchain]
      simp only [FilterTerm.addTo, Run.failure_step, Run.result]
      cases (chain.addTo scope limit room .and []).failure <;> rfl

theorem FilterChain.failure_addTo {scope : Scope} {limit : Nat} :
    ∀ {chain : FilterChain} {depth room : Nat} {combinator : Combinator} {clause : Clause},
      depth + room = limit →
        (chain.addTo scope limit room combinator clause).failure =
          FilterPart.firstFault? scope limit (chain.parts depth combinator)
  | .one term, depth, room, combinator, clause, hroom => by
      simpa only [FilterChain.addTo, FilterChain.parts] using FilterTerm.failure_addTo hroom
  | .join term next rest, depth, room, combinator, clause, hroom => by
      rw [FilterChain.addTo, FilterChain.parts, Run.failure_andThen,
        FilterTerm.failure_addTo hroom, FilterChain.failure_addTo hroom,
        FilterPart.firstFault?_append]

end

theorem Filter.failure_addTo (scope : Scope) (limit : Nat) (filter : Filter) (clause : Clause) :
    (filter.addTo scope limit clause).failure =
      FilterPart.firstFault? scope limit filter.parts := by
  cases limit with
  | zero =>
      cases filter with
      | empty => exact (FilterPart.firstFault?_level_of_lt Nat.zero_lt_one _).symm
      | chain terms => exact (FilterPart.firstFault?_level_of_lt Nat.zero_lt_one _).symm
  | succ room =>
      have hlimit : 1 ≤ room + 1 := Nat.le_add_left 1 room
      cases filter with
      | empty => exact (FilterPart.firstFault?_level_of_le hlimit []).symm
      | chain terms =>
          rw [Filter.parts, FilterPart.firstFault?_level_of_le hlimit]
          exact FilterChain.failure_addTo (Nat.add_comm 1 room)

/-! ## Terms before a fault -/

/-- A term of a filter becomes a term of a clause under the same combinator. -/
def Translates (scope : Scope) (term : Combinator × FilterTerm)
    (translation : Combinator × Predicate) : Prop :=
  translation.1 = term.1 ∧ term.2.Denotes scope translation.2

theorem FilterChain.denotes_iff_forall₂ {scope : Scope} {combinator : Combinator}
    {chain : FilterChain} {clause : Clause} :
    chain.Denotes scope combinator clause ↔
      List.Forall₂ (Translates scope) (chain.joined combinator) clause := by
  fun_induction FilterChain.joined combinator chain generalizing clause with
  | case1 combinator term =>
      constructor
      · rintro ⟨h⟩
        exact .cons ⟨rfl, h⟩ .nil
      · rintro (_ | ⟨⟨rfl, h⟩, ⟨⟩⟩)
        exact .one h
  | case2 combinator term next rest ih =>
      constructor
      · rintro (_ | ⟨h, hrest⟩)
        exact .cons ⟨rfl, h⟩ (ih.mp hrest)
      · rintro (_ | ⟨⟨rfl, h⟩, hrest⟩)
        exact .join h (ih.mpr hrest)

theorem Filter.denotes_iff_forall₂ {scope : Scope} {filter : Filter} {clause : Clause} :
    filter.Denotes scope clause ↔ List.Forall₂ (Translates scope) filter.joined clause := by
  cases filter with
  | empty =>
      constructor
      · rintro ⟨⟩
        exact .nil
      · rintro ⟨⟩
        exact .empty
  | chain terms =>
      constructor
      · rintro (_ | ⟨h⟩)
        exact FilterChain.denotes_iff_forall₂.mp h
      · intro h
        exact .chain (FilterChain.denotes_iff_forall₂.mpr h)

theorem FilterChain.length_joined (combinator : Combinator) (chain : FilterChain) :
    (chain.joined combinator).length = chain.termCount := by
  fun_induction FilterChain.joined combinator chain with
  | case1 combinator term => rfl
  | case2 combinator term next rest ih => simp [FilterChain.termCount, ih]

theorem Filter.length_joined (filter : Filter) :
    filter.joined.length = filter.termCount := by
  cases filter with
  | empty => rfl
  | chain terms => exact terms.length_joined .and

theorem FilterTerm.state_addTo_of_failure {scope : Scope} {limit room : Nat}
    {combinator : Combinator} {term : FilterTerm} {clause : Clause} {e : Error}
    (h : (term.addTo scope limit room combinator clause).failure = some e) :
    (term.addTo scope limit room combinator clause).state = clause := by
  cases term with
  | condition condition => exact Run.state_step_of_failure h
  | group chain =>
      cases room with
      | zero => rfl
      | succ room => exact Run.state_step_of_failure h

/-- Some terms have been translated, and the one after them is the first with a fault. -/
def StopsAt (scope : Scope) (limit depth : Nat) (terms : List (Combinator × FilterTerm))
    (added : Clause) (e : Error) : Prop :=
  ∃ sound faulty rest,
    terms = sound ++ faulty :: rest ∧
      List.Forall₂ (Translates scope) sound added ∧
      (∀ term ∈ sound, FilterPart.firstFault? scope limit (term.2.parts depth term.1) = none) ∧
      FilterPart.firstFault? scope limit (faulty.2.parts depth faulty.1) = some e

theorem FilterChain.stopsAt_of_failure {scope : Scope} {limit depth room : Nat}
    {combinator : Combinator} {chain : FilterChain} {clause : Clause} {e : Error}
    (hroom : depth + room = limit)
    (h : (chain.addTo scope limit room combinator clause).failure = some e) :
    ∃ added,
      (chain.addTo scope limit room combinator clause).state = clause ++ added ∧
        StopsAt scope limit depth (chain.joined combinator) added e := by
  fun_induction FilterChain.joined combinator chain generalizing clause with
  | case1 combinator term =>
      rw [FilterChain.addTo] at h ⊢
      refine ⟨[], ?_, [], (combinator, term), [], rfl, .nil, by simp, ?_⟩
      · rw [FilterTerm.state_addTo_of_failure h, List.append_nil]
      · rw [← FilterTerm.failure_addTo hroom, h]
  | case2 combinator term next rest ih =>
      rw [FilterChain.addTo] at h ⊢
      cases hterm : (term.addTo scope limit room combinator clause).failure with
      | some found =>
          rw [Run.andThen_of_failure hterm] at h ⊢
          refine ⟨[], ?_, [], (combinator, term), rest.joined next, rfl, .nil, by simp, ?_⟩
          · rw [FilterTerm.state_addTo_of_failure h, List.append_nil]
          · rw [← FilterTerm.failure_addTo hroom, h]
      | none =>
          obtain ⟨middle, hmiddle⟩ := Run.failure_eq_none_iff.mp hterm
          obtain ⟨predicate, hdenotes, _, rfl⟩ := FilterTerm.addTo_eq_done_iff.mp hmiddle
          rw [hmiddle, Run.andThen_done] at h ⊢
          obtain ⟨added, hstate, sound, faulty, others, hsplit, hsound, hnone, hfault⟩ := ih h
          refine ⟨(combinator, predicate) :: added, ?_, (combinator, term) :: sound, faulty,
            others, ?_, .cons ⟨rfl, hdenotes⟩ hsound, ?_, hfault⟩
          · rw [hstate, Clause.add, List.append_assoc, List.singleton_append]
          · rw [hsplit, List.cons_append]
          · intro other hother
            rcases List.mem_cons.mp hother with rfl | hmem
            · rw [← FilterTerm.failure_addTo hroom, hterm]
            · exact hnone other hmem

/-! ## Applying a filter to a query -/

mutual

theorem FilterTerm.exists_denotes_iff {scope : Scope} :
    ∀ {term : FilterTerm},
      (∃ predicate, term.Denotes scope predicate) ↔
        ∀ condition ∈ term.conditions, ∃ predicate, condition.Denotes scope predicate
  | .condition condition => by
      simp only [FilterTerm.conditions, List.mem_singleton, forall_eq]
      constructor
      · rintro ⟨predicate, ⟨h⟩⟩
        exact ⟨predicate, h⟩
      · rintro ⟨predicate, h⟩
        exact ⟨predicate, .condition h⟩
  | .group chain => by
      rw [FilterTerm.conditions, ← FilterChain.exists_denotes_iff (.and)]
      constructor
      · rintro ⟨_, _ | ⟨h⟩⟩
        exact ⟨_, h⟩
      · rintro ⟨clause, h⟩
        exact ⟨.group clause, .group h⟩

theorem FilterChain.exists_denotes_iff {scope : Scope} (combinator : Combinator) :
    ∀ {chain : FilterChain},
      (∃ clause, chain.Denotes scope combinator clause) ↔
        ∀ condition ∈ chain.conditions, ∃ predicate, condition.Denotes scope predicate
  | .one term => by
      rw [FilterChain.conditions, ← FilterTerm.exists_denotes_iff]
      constructor
      · rintro ⟨_, ⟨h⟩⟩
        exact ⟨_, h⟩
      · rintro ⟨predicate, h⟩
        exact ⟨_, .one h⟩
  | .join term next rest => by
      simp only [FilterChain.conditions, List.mem_append, or_imp, forall_and,
        ← FilterTerm.exists_denotes_iff, ← FilterChain.exists_denotes_iff next]
      constructor
      · rintro ⟨_, _ | ⟨h, hrest⟩⟩
        exact ⟨⟨_, h⟩, ⟨_, hrest⟩⟩
      · rintro ⟨⟨predicate, h⟩, ⟨clause, hrest⟩⟩
        exact ⟨_, .join h hrest⟩

end

theorem Filter.exists_denotes_iff {scope : Scope} {filter : Filter} :
    (∃ clause, filter.Denotes scope clause) ↔
      ∀ condition ∈ filter.conditions, ∃ predicate, condition.Denotes scope predicate := by
  cases filter with
  | empty =>
      constructor
      · intro _ condition hmem
        cases hmem
      · intro _
        exact ⟨[], .empty⟩
  | chain terms =>
      rw [Filter.conditions, ← FilterChain.exists_denotes_iff (.and)]
      constructor
      · rintro ⟨clause, _ | ⟨h⟩⟩
        exact ⟨clause, h⟩
      · rintro ⟨clause, h⟩
        exact ⟨clause, .chain h⟩

/-- What has happened to a clause when a filter was applied to it. -/
structure Filter.Applied (scope : Scope) (limit : Nat) (filter : Filter)
    (before after : Clause) (failure : Option Error) : Prop where
  failure_eq : failure = FilterPart.firstFault? scope limit filter.parts
  succeeds_iff :
    failure = none ↔
      1 ≤ limit ∧ filter.depth ≤ limit ∧
        ∀ condition ∈ filter.conditions, ∃ predicate, condition.Denotes scope predicate
  translated :
    failure = none →
      ∃ added,
        after = before ++ added ∧ filter.Denotes scope added ∧
          added.length = filter.termCount
  stopped :
    ∀ e, failure = some e →
      limit = 0 ∧ after = before ∨
        ∃ added, after = before ++ added ∧ StopsAt scope limit 1 filter.joined added e

theorem Filter.applied_addTo (scope : Scope) (limit : Nat) (filter : Filter) (clause : Clause) :
    filter.Applied scope limit clause (filter.addTo scope limit clause).state
      (filter.addTo scope limit clause).failure where
  failure_eq := filter.failure_addTo scope limit clause
  succeeds_iff := by
    simp only [Run.failure_eq_none_iff, Filter.addTo_eq_done_iff, ← Filter.exists_denotes_iff]
    constructor
    · rintro ⟨next, added, h, hlimit, hdepth, rfl⟩
      exact ⟨hlimit, hdepth, added, h⟩
    · rintro ⟨hlimit, hdepth, added, h⟩
      exact ⟨_, added, h, hlimit, hdepth, rfl⟩
  translated := by
    intro h
    obtain ⟨next, hnext⟩ := Run.failure_eq_none_iff.mp h
    obtain ⟨added, hdenotes, _, _, rfl⟩ := Filter.addTo_eq_done_iff.mp hnext
    have hlength : added.length = filter.termCount := by
      rw [← filter.length_joined]
      exact (Filter.denotes_iff_forall₂.mp hdenotes).length_eq.symm
    exact ⟨added, by rw [hnext]; rfl, hdenotes, hlength⟩
  stopped := by
    intro e h
    cases limit with
    | zero => exact .inl ⟨rfl, rfl⟩
    | succ room =>
        cases filter with
        | empty => cases h
        | chain terms => exact .inr (FilterChain.stopsAt_of_failure (Nat.add_comm 1 room) h)

/-- In any case the clause has grown by the translation of some first terms of the filter. -/
theorem Filter.Applied.exists_added {scope : Scope} {limit : Nat} {filter : Filter}
    {before after : Clause} {failure : Option Error}
    (h : filter.Applied scope limit before after failure) :
    ∃ sound added,
      sound <+: filter.joined ∧ List.Forall₂ (Translates scope) sound added ∧
        after = before ++ added := by
  cases failure with
  | none =>
      obtain ⟨added, hafter, hdenotes, _⟩ := h.translated rfl
      exact ⟨filter.joined, added, List.prefix_rfl, Filter.denotes_iff_forall₂.mp hdenotes, hafter⟩
  | some e =>
      rcases h.stopped e rfl with
        ⟨_, hafter⟩ | ⟨added, hafter, sound, faulty, rest, hsplit, hadded, _⟩
      · exact ⟨[], [], List.nil_prefix, .nil, by rw [hafter, List.append_nil]⟩
      · exact ⟨sound, added, ⟨faulty :: rest, hsplit.symm⟩, hadded, hafter⟩

/-- A filter acts on the clause of a query alone, and there by its translation. -/
theorem filter_adds_translation (limit : Nat) (filter : Filter) :
    (∀ query : SelectQuery, ∃ after,
        (Backend.plain.filter limit filter query).state = { query with clause := after } ∧
          filter.Applied .plain limit query.clause after
            (Backend.plain.filter limit filter query).failure) ∧
      ∀ (schema : Schema) (query : ModelQuery), ∃ after,
        ((Backend.relational schema).filter limit filter query).state =
            { query with select := { query.select with clause := after } } ∧
          filter.Applied (.model schema query.model) limit query.select.clause after
            ((Backend.relational schema).filter limit filter query).failure := by
  constructor
  · intro query
    exact ⟨_, rfl, filter.applied_addTo .plain limit query.clause⟩
  · intro schema query
    exact ⟨_, rfl, filter.applied_addTo (.model schema query.model) limit query.select.clause⟩

end QueryShape
