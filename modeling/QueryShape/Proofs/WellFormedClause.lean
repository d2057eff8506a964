import QueryShape.Proofs.FilterTranslation

/-!
# Well-formed clauses

The clauses that a query can come to hold have a common form: every column is an
identifier, no group is empty, and every relation test is correlated as the schema
declares the relation, with comparisons to null written as null tests.
-/

namespace QueryShape

mutual

def Predicate.WellFormed (scope : Scope) : Predicate → Prop
  | .compare column _ _ => isIdentifier column
  | .null column _ => isIdentifier column
  | .isIn column _ _ => isIdentifier column
  | .related name correlation column test =>
    ∃ schema model relation op value,
      scope = .model schema model ∧ schema.relation model name = .ok relation ∧
        isIdentifier column ∧ correlation = relation.correlation model ∧
        test = .ofComparison op value
  | .group terms => terms ≠ [] ∧ Clause.WellFormed scope terms

def Clause.WellFormed (scope : Scope) : List (Combinator × Predicate) → Prop
  | [] => True
  | (_, predicate) :: rest => predicate.WellFormed scope ∧ Clause.WellFormed scope rest

end

mutual

/-- The number of groups around the innermost predicate. -/
def Predicate.nesting : Predicate → Nat
  | .compare _ _ _ | .null _ _ | .isIn _ _ _ | .related _ _ _ _ => 0
  | .group terms => Clause.nesting terms + 1

def Clause.nesting : List (Combinator × Predicate) → Nat
  | [] => 0
  | (_, predicate) :: rest => max predicate.nesting (Clause.nesting rest)

end

theorem Clause.wellFormed_append {scope : Scope} {clause more : Clause} :
    Clause.WellFormed scope (clause ++ more) ↔
      Clause.WellFormed scope clause ∧ Clause.WellFormed scope more := by
  induction clause with
  | nil => simp [Clause.WellFormed]
  | cons term rest ih =>
      obtain ⟨combinator, predicate⟩ := term
      simp [Clause.WellFormed, ih, and_assoc]

theorem Clause.wellFormed_add {scope : Scope} {clause : Clause} {combinator : Combinator}
    {predicate : Predicate} :
    Clause.WellFormed scope (clause.add combinator predicate) ↔
      Clause.WellFormed scope clause ∧ predicate.WellFormed scope := by
  simp [Clause.add, Clause.wellFormed_append, Clause.WellFormed]

/-! ## Clauses that filters denote -/

theorem Condition.Denotes.wellFormed {scope : Scope} {condition : Condition}
    {predicate : Predicate} (h : condition.Denotes scope predicate) :
    predicate.WellFormed scope := by
  cases h with
  | isNull hcolumn | isNotNull hcolumn | compare hcolumn | null hcolumn | notNull hcolumn
  | isIn hcolumn | notIn hcolumn => exact hcolumn
  | related hscope hrelation hcolumn hargs htest =>
      exact ⟨_, _, _, _, _, hscope, hrelation, hcolumn, rfl, htest.test_eq⟩

theorem Condition.Denotes.nesting_eq_zero {scope : Scope} {condition : Condition}
    {predicate : Predicate} (h : condition.Denotes scope predicate) :
    predicate.nesting = 0 := by
  cases h <;> rfl

mutual

theorem FilterTerm.Denotes.wellFormed {scope : Scope} :
    ∀ {term : FilterTerm} {predicate : Predicate},
      term.Denotes scope predicate → predicate.WellFormed scope
  | _, _, .condition h => h.wellFormed
  | _, _, .group h => ⟨h.ne_nil, FilterChain.Denotes.wellFormed h⟩

theorem FilterChain.Denotes.wellFormed {scope : Scope} :
    ∀ {combinator : Combinator} {chain : FilterChain} {clause : Clause},
      chain.Denotes scope combinator clause → Clause.WellFormed scope clause
  | _, _, _, .one h => ⟨FilterTerm.Denotes.wellFormed h, trivial⟩
  | _, _, _, .join h hrest =>
      ⟨FilterTerm.Denotes.wellFormed h, FilterChain.Denotes.wellFormed hrest⟩

end

mutual

theorem FilterTerm.Denotes.nesting_eq {scope : Scope} :
    ∀ {term : FilterTerm} {predicate : Predicate},
      term.Denotes scope predicate → predicate.nesting = term.depth
  | _, _, .condition h => h.nesting_eq_zero
  | _, _, .group h => FilterChain.Denotes.nesting_eq h

theorem FilterChain.Denotes.nesting_eq {scope : Scope} :
    ∀ {combinator : Combinator} {chain : FilterChain} {clause : Clause},
      chain.Denotes scope combinator clause → Clause.nesting clause + 1 = chain.depth
  | _, _, _, .one h => by
      simp [Clause.nesting, FilterChain.depth, FilterTerm.Denotes.nesting_eq h]
  | _, _, _, .join h hrest => by
      rw [FilterChain.depth, Clause.nesting, FilterTerm.Denotes.nesting_eq h,
        ← FilterChain.Denotes.nesting_eq hrest]
      omega

end

theorem Clause.wellFormed_of_forall₂ {scope : Scope} {terms : List (Combinator × FilterTerm)}
    {clause : Clause} (h : List.Forall₂ (Translates scope) terms clause) :
    Clause.WellFormed scope clause := by
  induction h with
  | nil => trivial
  | cons hterm _ ih => exact ⟨hterm.2.wellFormed, ih⟩

theorem Filter.Applied.wellFormed {scope : Scope} {limit : Nat} {filter : Filter}
    {before after : Clause} {failure : Option Error}
    (h : filter.Applied scope limit before after failure)
    (hbefore : Clause.WellFormed scope before) :
    Clause.WellFormed scope after := by
  obtain ⟨sound, added, _, hadded, rfl⟩ := h.exists_added
  exact Clause.wellFormed_append.mpr ⟨hbefore, Clause.wellFormed_of_forall₂ hadded⟩

end QueryShape
