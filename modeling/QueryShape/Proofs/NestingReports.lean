import QueryShape.Proofs.LimitAgreement

/-!
# Reports of too deep a nesting

A run visits the parts of a filter in order and ends at the first fault.  The levels among
the parts reach as far as the filter is deep, so a filter that is deeper than the limit has
a level beyond it, and the run reports the limit there unless a condition before it is
faulty.  A filter within the limit is not reported.  Only for the empty filter the count of
the run differs: its depth is zero, but the run takes it for a level.
-/

namespace QueryShape

/-- A level beyond the limit is too deep; the nesting of a condition is that of its level. -/
def FilterPart.within (limit : Nat) : FilterPart → Bool
  | .level depth => depth ≤ limit
  | .leaf _ _ => true

/-- The parts that a run visits before the first level beyond the limit. -/
def Filter.visited (limit : Nat) (filter : Filter) : List FilterPart :=
  filter.parts.takeWhile (FilterPart.within limit)

/-! ## Levels of a filter -/

mutual

theorem FilterTerm.parts_within_iff {limit : Nat} :
    ∀ {term : FilterTerm} {depth : Nat} {combinator : Combinator}, depth ≤ limit →
      ((∀ part ∈ term.parts depth combinator, part.within limit = true) ↔
        depth + term.depth ≤ limit)
  | .condition condition, depth, combinator, h => by
      simp [FilterTerm.parts, FilterPart.within, FilterTerm.depth, h]
  | .group chain, depth, combinator, h => by
      have hpos : 0 < chain.depth := chain.depth_pos
      rw [FilterTerm.parts, List.forall_mem_cons, FilterTerm.depth, FilterPart.within,
        decide_eq_true_iff]
      by_cases hnext : depth + 1 ≤ limit
      · rw [FilterChain.parts_within_iff hnext]
        omega
      · omega

theorem FilterChain.parts_within_iff {limit : Nat} :
    ∀ {chain : FilterChain} {depth : Nat} {combinator : Combinator}, depth ≤ limit →
      ((∀ part ∈ chain.parts depth combinator, part.within limit = true) ↔
        depth + chain.depth ≤ limit + 1)
  | .one term, depth, combinator, h => by
      rw [FilterChain.parts, FilterTerm.parts_within_iff h, FilterChain.depth]
      omega
  | .join term next rest, depth, combinator, h => by
      rw [FilterChain.parts, List.forall_mem_append, FilterTerm.parts_within_iff h,
        FilterChain.parts_within_iff h, FilterChain.depth]
      omega

end

theorem Filter.parts_within_iff {limit : Nat} {filter : Filter} :
    (∀ part ∈ filter.parts, part.within limit = true) ↔ 1 ≤ limit ∧ filter.depth ≤ limit := by
  cases filter with
  | empty => simp [Filter.parts, Filter.depth, FilterPart.within]
  | chain terms =>
      rw [Filter.parts, List.forall_mem_cons, Filter.depth, FilterPart.within, decide_eq_true_iff]
      refine and_congr_right fun hlimit => ?_
      rw [FilterChain.parts_within_iff hlimit]
      omega

/-- Of the filters only the empty one is less deep than its first level. -/
theorem Filter.one_le_limit {limit : Nat} {filter : Filter} (h : 1 ≤ limit ∨ filter ≠ .empty)
    (hdepth : filter.depth ≤ limit) :
    1 ≤ limit := by
  cases filter with
  | empty => exact h.resolve_right fun hne => hne rfl
  | chain terms => exact Nat.le_trans terms.depth_pos hdepth

/-! ## The fault of a level -/

namespace FilterPart

variable {scope : Scope} {limit : Nat}

theorem fault?_of_not_within {part : FilterPart} (h : part.within limit = false) :
    part.fault? scope limit = some (.nestingTooDeep limit) := by
  cases part with
  | level depth => exact if_neg (by simpa [within] using h)
  | leaf combinator condition => cases h

theorem fault?_ne_nestingTooDeep {part : FilterPart} (h : part.within limit = true)
    (reported : Nat) :
    part.fault? scope limit ≠ some (.nestingTooDeep reported) := by
  cases part with
  | level depth =>
      have hlevel : depth ≤ limit := by simpa [within] using h
      simp [fault?, hlevel]
  | leaf combinator condition =>
      have hleaf := condition.predicate_notTooDeep scope combinator
      rw [fault?]
      cases hpredicate : condition.predicate scope combinator with
      | ok predicate => exact nofun
      | error e =>
          intro hreported
          exact hleaf reported
            (hpredicate.trans (congrArg Except.error (Option.some.inj hreported)))

/-- The limit is reported if some level is beyond it and no part before such a level is faulty. -/
theorem firstFault?_eq_nestingTooDeep_iff {parts : List FilterPart} :
    firstFault? scope limit parts = some (.nestingTooDeep limit) ↔
      (¬ ∀ part ∈ parts, part.within limit = true) ∧
        ∀ part ∈ parts.takeWhile (within limit), part.fault? scope limit = none := by
  induction parts with
  | nil => simp [firstFault?]
  | cons part rest ih =>
      unfold firstFault? at ih ⊢
      rw [List.findSome?_cons, List.forall_mem_cons]
      cases hwithin : part.within limit with
      | false =>
          rw [fault?_of_not_within hwithin, List.takeWhile_cons_of_neg (by simp [hwithin])]
          simp
      | true =>
          rw [List.takeWhile_cons_of_pos hwithin, List.forall_mem_cons]
          cases hfault : part.fault? scope limit with
          | none => simpa using ih
          | some e =>
              -- An earlier fault ends the run, and it is of another kind.
              have he : some e ≠ some (.nestingTooDeep limit) :=
                hfault ▸ fault?_ne_nestingTooDeep hwithin limit
              simp [he]

end FilterPart

theorem Filter.visited_sound_iff {scope : Scope} {limit : Nat} {filter : Filter} :
    (∀ part ∈ filter.visited limit, part.fault? scope limit = none) ↔
      ∀ combinator condition, .leaf combinator condition ∈ filter.visited limit →
        ∃ predicate, condition.Denotes scope predicate := by
  constructor
  · intro h combinator condition hmem
    have hleaf := h _ hmem
    cases hpredicate : condition.predicate scope combinator with
    | ok predicate => exact ⟨predicate, Condition.predicate_eq_ok_iff.mp hpredicate⟩
    | error e => simp [FilterPart.fault?, hpredicate] at hleaf
  · intro h part hmem
    cases part with
    | level depth =>
        have hwithin : FilterPart.within limit (.level depth) = true :=
          List.mem_takeWhile_imp hmem
        exact if_pos (by simpa [FilterPart.within] using hwithin)
    | leaf combinator condition =>
        obtain ⟨predicate, hdenotes⟩ := h combinator condition hmem
        simp [FilterPart.fault?, Condition.predicate_eq_ok_iff.mpr hdenotes]

/-- Apart from the empty filter under the limit zero, a filter is reported for its nesting exactly
if it is deeper than the limit and no condition before the excess is faulty, so it never is after
it was read with the limit. -/
theorem filter_reports_nesting_iff {limit : Nat} {filter : Filter}
    (h : 1 ≤ limit ∨ filter ≠ .empty) {Q : Type} (backend : Backend Q) (query : Q) :
    (filter.depth ≤ limit → NotTooDeep (backend.filter limit filter query).result) ∧
      (limit < filter.depth →
        ((backend.filter limit filter query).result = .error (.nestingTooDeep limit) ↔
          ∀ combinator condition, .leaf combinator condition ∈ filter.visited limit →
            ∃ predicate, condition.Denotes (backend.scope query) predicate)) ∧
      ∀ raw, Filter.parse limit raw = .ok filter →
        NotTooDeep (backend.filter limit filter query).result := by
  have hfits (hdepth : filter.depth ≤ limit) :
      NotTooDeep (backend.filter limit filter query).result :=
    backend.filter_notTooDeep (Filter.one_le_limit h hdepth) hdepth query
  refine ⟨hfits, ?_, ?_⟩
  · intro hdeep
    have hfailure :
        (backend.filter limit filter query).failure =
          FilterPart.firstFault? (backend.scope query) limit filter.parts :=
      filter.failure_addTo (backend.scope query) limit _
    have hbeyond : ¬ ∀ part ∈ filter.parts, part.within limit = true := by
      rw [Filter.parts_within_iff]
      omega
    rw [Run.result_eq_error_iff, hfailure, FilterPart.firstFault?_eq_nestingTooDeep_iff,
      ← Filter.visited_sound_iff]
    exact and_iff_right hbeyond
  · intro raw hparse
    exact hfits (Filter.parseWithin_eq_ok_iff.mp hparse).2

/-- The group is too deep for one level; with two levels its condition is what is wrong. -/
theorem nested_filter_reported :
    let sound : Condition := ⟨.compare, [.text "a", .number (.int 1)]⟩
    let unsupported : Condition := ⟨.relation, [.text "books", .text "title", .text "A"]⟩
    let filter : Filter :=
      .chain (.join (.condition sound) .or (.one (.group (.one (.condition unsupported)))))
    let fresh : SelectQuery := { table := "authors" }
    filter.depth = 2 ∧
      (Backend.plain.filter 1 filter fresh).result = .error (.nestingTooDeep 1) ∧
      (Backend.plain.filter 2 filter fresh).result =
        .error (.unsupportedPredicate "whereRelation") ∧
      NotTooDeep (Backend.plain.filter 2 filter fresh).result := by
  intro sound unsupported filter fresh
  have hnested : filter ≠ .empty := nofun
  have hvisited : filter.visited 1 = [.level 1, .leaf .and sound] := rfl
  have hsound : Condition.Denotes .plain sound (.compare "a" .eq (.number (.int 1))) :=
    .compare (by decide +kernel) (.equality _) nofun
  have hreported : (Backend.plain.filter 1 filter fresh).result = .error (.nestingTooDeep 1) := by
    refine ((filter_reports_nesting_iff (.inr hnested) Backend.plain fresh).2.1
      (by decide +kernel)).mpr ?_
    intro combinator condition hmem
    rw [hvisited] at hmem
    simp only [List.mem_cons, FilterPart.leaf.injEq, reduceCtorEq, List.not_mem_nil, or_false,
      false_or] at hmem
    exact ⟨_, hmem.2 ▸ hsound⟩
  exact ⟨rfl, hreported, rfl,
    (filter_reports_nesting_iff (.inr hnested) Backend.plain fresh).1 (by decide +kernel)⟩

/-- The empty filter is read with a limit of zero, and an empty list of relationships passes it, but
the filter is reported as too deep when it is applied. -/
theorem empty_filter_reported :
    let request : Request := { filter := some .empty }
    let fresh : SelectQuery := { table := "t" }
    Filter.empty.depth = 0 ∧ Filter.parse 0 (.array []) = .ok .empty ∧
      (Backend.plain.filter 0 .empty fresh).result = .error (.nestingTooDeep 0) ∧
      (request.applyPlain Backend.plain 0 fresh).result = .error (.nestingTooDeep 0) ∧
      ∀ schema query, Relationship.register schema 0 [] query = .done query := by
  intro request fresh
  exact ⟨rfl, rfl, rfl, rfl, fun _ _ => rfl⟩

end QueryShape
