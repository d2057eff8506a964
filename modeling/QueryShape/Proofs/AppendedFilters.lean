import QueryShape.Proofs.FilterMeaning
import QueryShape.Proofs.ListAnswers

/-!
# Filters on constrained queries

A clause selects a row when all terms of one of its runs between `or`s hold.  A filter is
appended to the clause of a query without a group around it, and its first term is joined by
`and`.  So the first run of the filter narrows the last run of the clause, while the other
runs of the clause and of the filter stand beside it unchanged.  A filter without an `or` of
its own can therefore only narrow a query, but one with an `or` selects rows that the clause
before it kept out.
-/

namespace QueryShape

section

variable {α β : Type}

def orRunsFrom (run : List α) : List (Combinator × α) → List (List α)
  | [] => [run]
  | (.and, item) :: rest => orRunsFrom (run ++ [item]) rest
  | (.or, item) :: rest => run :: orRunsFrom [item] rest

/-- The runs of some joined items between their `or`s; without items there is one empty run.  The
combinator of the first item means nothing. -/
def orRuns : List (Combinator × α) → List (List α)
  | [] => [[]]
  | (_, item) :: rest => orRunsFrom [item] rest

/-- No item after the first one is joined by `or`. -/
def WithoutOr (items : List (Combinator × α)) : Prop :=
  ∀ item ∈ items.tail, item.1 = .and

/-! ## Runs of appended items -/

theorem orRunsFrom_append (run : List α) (items : List (Combinator × α)) :
    ∃ before last, ∀ more, orRunsFrom run (items ++ more) = before ++ orRunsFrom last more := by
  induction items generalizing run with
  | nil => exact ⟨[], run, fun _ => rfl⟩
  | cons item rest ih =>
      obtain ⟨combinator, item⟩ := item
      cases combinator with
      | and => exact ih (run ++ [item])
      | or =>
          obtain ⟨before, last, hrest⟩ := ih [item]
          refine ⟨run :: before, last, ?_⟩
          intro more
          rw [List.cons_append, orRunsFrom, hrest more, List.cons_append]

/-- What the items add to the run under way does not depend on it. -/
theorem exists_orRunsFrom_eq_cons (items : List (Combinator × α)) :
    ∃ first after, ∀ run, orRunsFrom run items = (run ++ first) :: after := by
  induction items with
  | nil => exact ⟨[], [], fun run => by rw [orRunsFrom, List.append_nil]⟩
  | cons item rest ih =>
      obtain ⟨first, after, hrest⟩ := ih
      obtain ⟨combinator, item⟩ := item
      cases combinator with
      | and =>
          refine ⟨item :: first, after, ?_⟩
          intro run
          rw [orRunsFrom, hrest, List.append_assoc, List.singleton_append]
      | or => exact ⟨[], _, fun run => by rw [orRunsFrom, List.append_nil]⟩

/-- Behind an `and` the last run before goes on with the first run of what is appended. -/
theorem orRuns_append (items : List (Combinator × α)) (item : α)
    (rest : List (Combinator × α)) :
    ∃ before last first after,
      orRuns items = before ++ [last] ∧
        orRuns ((.and, item) :: rest) = first :: after ∧
          orRuns (items ++ (.and, item) :: rest) = before ++ (last ++ first) :: after := by
  obtain ⟨first, after, hrest⟩ := exists_orRunsFrom_eq_cons rest
  cases items with
  | nil => exact ⟨[], [], [item] ++ first, after, rfl, hrest [item], hrest [item]⟩
  | cons head items =>
      obtain ⟨before, last, hitems⟩ := orRunsFrom_append [head.2] items
      have halone : orRunsFrom [head.2] items = before ++ [last] := by
        have hnil := hitems []
        rwa [List.append_nil] at hnil
      refine ⟨before, last, [item] ++ first, after, halone, hrest [item], ?_⟩
      rw [List.cons_append, orRuns, hitems, orRunsFrom, hrest, List.append_assoc]

theorem orRunsFrom_of_forall_and {items : List (Combinator × α)} (run : List α)
    (h : ∀ item ∈ items, item.1 = .and) :
    orRunsFrom run items = [run ++ items.map Prod.snd] := by
  induction items generalizing run with
  | nil => rw [orRunsFrom, List.map_nil, List.append_nil]
  | cons item rest ih =>
      obtain ⟨hitem, hrest⟩ := List.forall_mem_cons.mp h
      obtain ⟨combinator, item⟩ := item
      cases hitem
      rw [orRunsFrom, ih _ hrest, List.append_assoc, List.map_cons, List.singleton_append]

theorem WithoutOr.orRuns_eq {items : List (Combinator × α)} (h : WithoutOr items) :
    orRuns items = [items.map Prod.snd] := by
  cases items with
  | nil => rfl
  | cons item rest => exact orRunsFrom_of_forall_and [item.2] h

/-- Items that correspond one by one under the same combinators have corresponding runs. -/
theorem forall₂_orRunsFrom {R : α → β → Prop} {items : List (Combinator × α)}
    {others : List (Combinator × β)}
    (h : List.Forall₂ (fun item other => other.1 = item.1 ∧ R item.2 other.2) items others)
    {run : List α} {started : List β} (hrun : List.Forall₂ R run started) :
    List.Forall₂ (List.Forall₂ R) (orRunsFrom run items) (orRunsFrom started others) := by
  induction h generalizing run started with
  | nil => exact .cons hrun .nil
  | @cons item other items others hitem _ ih =>
      obtain ⟨combinator, item⟩ := item
      obtain ⟨same, other⟩ := other
      obtain ⟨hsame, hitem⟩ := hitem
      cases hsame
      cases combinator with
      | and => exact ih (List.rel_append hrun (.cons hitem .nil))
      | or => exact .cons hrun (ih (.cons hitem .nil))

theorem forall₂_orRuns {R : α → β → Prop} {items : List (Combinator × α)}
    {others : List (Combinator × β)}
    (h : List.Forall₂ (fun item other => other.1 = item.1 ∧ R item.2 other.2) items others) :
    List.Forall₂ (List.Forall₂ R) (orRuns items) (orRuns others) := by
  cases h with
  | nil => exact .cons .nil .nil
  | cons hitem hrest => exact forall₂_orRunsFrom hrest (.cons hitem.2 .nil)

end

/-! ## Rows of runs -/

/-- All predicates of a run hold. -/
def Clause.RunHolds (rows : RowSource) (row : Row) (run : List Predicate) : Prop :=
  ∀ predicate ∈ run, predicate.holds rows row = true

/-- A row of a model satisfies all terms of a run. -/
def FilterTerm.RunHolds (store : Store) (model : String) (row : Row) (run : List FilterTerm) :
    Prop :=
  ∀ term ∈ run, term.holds store model row = true

theorem Clause.holdsFrom_iff_exists_run {rows : RowSource} {row : Row} {held : Bool}
    {run : List Predicate} (hrun : held = true ↔ Clause.RunHolds rows row run) (rest : Clause) :
    Clause.holdsFrom rows row held rest = true ↔
      ∃ later ∈ orRunsFrom run rest, Clause.RunHolds rows row later := by
  induction rest generalizing held run with
  | nil => simp [Clause.holdsFrom, orRunsFrom, hrun]
  | cons term rest ih =>
      obtain ⟨combinator, predicate⟩ := term
      have halone : predicate.holds rows row = true ↔ Clause.RunHolds rows row [predicate] := by
        simp [Clause.RunHolds]
      cases combinator with
      | and =>
          have hlonger :
              (held && predicate.holds rows row) = true ↔
                Clause.RunHolds rows row (run ++ [predicate]) := by
            rw [Bool.and_eq_true, hrun, halone]
            exact List.forall_mem_append.symm
          rw [Clause.holdsFrom_and, orRunsFrom]
          exact ih hlonger
      | or =>
          rw [Clause.holdsFrom_or, Bool.or_eq_true, hrun, ih halone, orRunsFrom]
          simp

theorem Clause.holds_iff_exists_run (rows : RowSource) (row : Row) (clause : Clause) :
    Clause.holds rows row clause = true ↔
      ∃ run ∈ orRuns clause, Clause.RunHolds rows row run := by
  cases clause with
  | nil => simp [Clause.holds, orRuns, Clause.RunHolds]
  | cons term rest =>
      have halone :
          term.2.holds rows row = true ↔ Clause.RunHolds rows row [term.2] := by
        simp [Clause.RunHolds]
      exact Clause.holdsFrom_iff_exists_run halone rest

/-! ## Filters without tests of relations -/

theorem Condition.Denotes.of_plain {condition : Condition} {predicate : Predicate}
    (h : condition.Denotes .plain predicate) (scope : Scope) :
    condition.Denotes scope predicate := by
  cases h with
  | isNull hcolumn hargs => exact .isNull hcolumn hargs
  | isNotNull hcolumn hargs => exact .isNotNull hcolumn hargs
  | compare hcolumn hargs hvalue => exact .compare hcolumn hargs hvalue
  | null hcolumn => exact .null hcolumn
  | notNull hcolumn => exact .notNull hcolumn
  | isIn hcolumn => exact .isIn hcolumn
  | notIn hcolumn => exact .notIn hcolumn
  | related hscope => cases hscope

mutual

theorem FilterTerm.Denotes.of_plain (scope : Scope) :
    ∀ {term : FilterTerm} {predicate : Predicate},
      term.Denotes .plain predicate → term.Denotes scope predicate
  | .condition _, _, .condition h => .condition (h.of_plain scope)
  | .group _, _, .group h => .group (FilterChain.Denotes.of_plain scope h)

theorem FilterChain.Denotes.of_plain (scope : Scope) :
    ∀ {chain : FilterChain} {combinator : Combinator} {clause : Clause},
      chain.Denotes .plain combinator clause → chain.Denotes scope combinator clause
  | .one _, _, _, .one h => .one (FilterTerm.Denotes.of_plain scope h)
  | .join _ _ _, _, _, .join h hrest =>
      .join (FilterTerm.Denotes.of_plain scope h) (FilterChain.Denotes.of_plain scope hrest)

end

/-! ## Corresponding runs -/

theorem FilterTerm.runHolds_iff_of_forall₂ {store : Store} {model : String} (row : Row)
    {terms : List FilterTerm} {predicates : List Predicate}
    (h : List.Forall₂ (FilterTerm.Denotes (.model store.schema model)) terms predicates) :
    Clause.RunHolds store.rows row predicates ↔ FilterTerm.RunHolds store model row terms := by
  induction h with
  | nil => simp [Clause.RunHolds, FilterTerm.RunHolds]
  | @cons term predicate terms predicates hterm _ ih =>
      have hfirst : predicate.holds store.rows row = term.holds store model row :=
        FilterTerm.Denotes.holds_eq row hterm
      unfold Clause.RunHolds FilterTerm.RunHolds at ih ⊢
      rw [List.forall_mem_cons, List.forall_mem_cons, hfirst, ih]

theorem FilterTerm.exists_run_iff_of_forall₂ {store : Store} {model : String} (row : Row)
    {runs : List (List FilterTerm)} {translated : List (List Predicate)}
    (h : List.Forall₂ (List.Forall₂ (FilterTerm.Denotes (.model store.schema model))) runs
      translated) :
    (∃ run ∈ translated, Clause.RunHolds store.rows row run) ↔
      ∃ run ∈ runs, FilterTerm.RunHolds store model row run := by
  induction h with
  | nil => simp
  | cons hrun _ ih =>
      rw [List.exists_mem_cons_iff, List.exists_mem_cons_iff, ih,
        FilterTerm.runHolds_iff_of_forall₂ row hrun]

theorem Filter.Denotes.holds_iff_exists_run {store : Store} {model : String} {filter : Filter}
    {clause : Clause} (h : filter.Denotes (.model store.schema model) clause) (row : Row) :
    filter.holds store model row = true ↔
      ∃ run ∈ orRuns filter.joined, FilterTerm.RunHolds store model row run := by
  have hruns := forall₂_orRuns (Filter.denotes_iff_forall₂.mp h)
  rw [← h.holds_eq row, Clause.holds_iff_exists_run,
    FilterTerm.exists_run_iff_of_forall₂ row hruns]

/-! ## Clauses with an appended filter -/

/-- How the runs of a clause and of a filter on a model select rows after the filter was added: the
last run before goes on with the first run of the filter, the others stand for themselves. -/
structure Clause.Seam (store : Store) (model : String) (clause : Clause) (filter : Filter)
    (after : Clause) (before : List (List Predicate)) (last : List Predicate)
    (first : List FilterTerm) (others : List (List FilterTerm)) : Prop where
  clause_eq : orRuns clause = before ++ [last]
  filter_eq : orRuns filter.joined = first :: others
  holds_iff :
    ∀ row, Clause.holds store.rows row after = true ↔
      (∃ run ∈ before, Clause.RunHolds store.rows row run) ∨
        (Clause.RunHolds store.rows row last ∧ FilterTerm.RunHolds store model row first) ∨
          ∃ run ∈ others, FilterTerm.RunHolds store model row run

namespace Clause.Seam

variable {store : Store} {model : String} {clause after : Clause} {filter : Filter}
  {before : List (List Predicate)} {last : List Predicate} {first : List FilterTerm}
  {others : List (List FilterTerm)}

theorem others_eq_nil (h : Seam store model clause filter after before last first others)
    (hor : WithoutOr filter.joined) :
    others = [] := by
  have hsingle : [filter.joined.map Prod.snd] = first :: others :=
    hor.orRuns_eq.symm.trans h.filter_eq
  exact (List.cons.inj hsingle).2.symm

theorem before_eq_nil (h : Seam store model clause filter after before last first others)
    (hor : WithoutOr clause) :
    before = [] := by
  have hsingle : [clause.map Prod.snd] = before ++ [last] :=
    hor.orRuns_eq.symm.trans h.clause_eq
  cases before with
  | nil => rfl
  | cons run runs => simp at hsingle

theorem clause_holds_iff (h : Seam store model clause filter after before last first others)
    (row : Row) :
    Clause.holds store.rows row clause = true ↔
      (∃ run ∈ before, Clause.RunHolds store.rows row run) ∨
        Clause.RunHolds store.rows row last := by
  rw [Clause.holds_iff_exists_run, h.clause_eq]
  simp only [List.mem_append, List.mem_singleton, or_and_right, exists_or, exists_eq_left]

/-- Without alternatives of its own the filter cannot select more rows. -/
theorem narrows (h : Seam store model clause filter after before last first others)
    (hor : WithoutOr filter.joined) {row : Row}
    (hafter : Clause.holds store.rows row after = true) :
    Clause.holds store.rows row clause = true := by
  rw [h.holds_iff, h.others_eq_nil hor] at hafter
  rw [h.clause_holds_iff]
  rcases hafter with hrun | ⟨hlast, _⟩ | ⟨_, hmem, _⟩
  · exact .inl hrun
  · exact .inr hlast
  · cases hmem

theorem conjoins (h : Seam store model clause filter after before last first others)
    {added : Clause} (hdenotes : filter.Denotes (.model store.schema model) added)
    (hor : WithoutOr filter.joined) (hclause : WithoutOr clause) (row : Row) :
    Clause.holds store.rows row after =
      (Clause.holds store.rows row clause && filter.holds store model row) := by
  have hfilter :
      filter.holds store model row = true ↔ FilterTerm.RunHolds store model row first := by
    rw [hdenotes.holds_iff_exists_run, h.filter_eq, h.others_eq_nil hor]
    simp
  rw [Bool.eq_iff_iff, Bool.and_eq_true, h.holds_iff, h.clause_holds_iff, hfilter,
    h.others_eq_nil hor, h.before_eq_nil hclause]
  simp

end Clause.Seam

/-- What is selected once a filter on a model was added to a clause. -/
structure Clause.FilteredBy (store : Store) (model : String) (clause : Clause) (filter : Filter)
    (after : Clause) : Prop where
  seam : ∃ before last first others,
    Clause.Seam store model clause filter after before last first others
  narrows :
    WithoutOr filter.joined → ∀ row,
      Clause.holds store.rows row after = true → Clause.holds store.rows row clause = true
  conjoins :
    WithoutOr filter.joined → WithoutOr clause → ∀ row,
      Clause.holds store.rows row after =
        (Clause.holds store.rows row clause && filter.holds store model row)

theorem FilterChain.Denotes.exists_seam {store : Store} {model : String} {terms : FilterChain}
    {added : Clause} (h : terms.Denotes (.model store.schema model) .and added)
    (clause : Clause) :
    ∃ before last first others,
      Clause.Seam store model clause (.chain terms) (clause ++ added) before last first
        others := by
  have hruns := forall₂_orRuns (FilterChain.denotes_iff_forall₂.mp h)
  obtain ⟨predicate, rest, rfl⟩ : ∃ predicate rest, added = (.and, predicate) :: rest := by
    cases h with
    | one h => exact ⟨_, _, rfl⟩
    | join h hrest => exact ⟨_, _, rfl⟩
  obtain ⟨before, last, narrowing, alternatives, hclause, hadded, hafter⟩ :=
    orRuns_append clause predicate rest
  rw [hadded] at hruns
  obtain ⟨first, others, hfirst, hothers, hjoined⟩ := List.forall₂_cons_right_iff.mp hruns
  refine ⟨before, last, first, others, hclause, hjoined, ?_⟩
  intro row
  have hseam :
      Clause.RunHolds store.rows row (last ++ narrowing) ↔
        Clause.RunHolds store.rows row last ∧ FilterTerm.RunHolds store model row first := by
    rw [← FilterTerm.runHolds_iff_of_forall₂ row hfirst]
    exact List.forall_mem_append
  rw [Clause.holds_iff_exists_run, hafter, ← hseam,
    ← FilterTerm.exists_run_iff_of_forall₂ row hothers]
  simp only [List.mem_append, List.mem_cons, or_and_right, exists_or, exists_eq_left]

theorem FilterChain.Denotes.filteredBy {store : Store} {model : String} {terms : FilterChain}
    {added : Clause} (h : terms.Denotes (.model store.schema model) .and added)
    (clause : Clause) :
    Clause.FilteredBy store model clause (.chain terms) (clause ++ added) := by
  obtain ⟨before, last, first, others, hseam⟩ := h.exists_seam clause
  exact
    { seam := ⟨before, last, first, others, hseam⟩
      narrows := fun hor _ => hseam.narrows hor
      conjoins := fun hor hclause row => hseam.conjoins (.chain h) hor hclause row }

theorem Filter.filteredBy_of_addTo {store : Store} {model : String} {scope : Scope} {limit : Nat}
    {terms : FilterChain} {clause next : Clause}
    (hscope : scope = .plain ∨ scope = .model store.schema model)
    (h : (Filter.chain terms).addTo scope limit clause = .done next) :
    Clause.FilteredBy store model clause (.chain terms) next := by
  obtain ⟨added, hdenotes, _, _, rfl⟩ := Filter.addTo_eq_done_iff.mp h
  cases hdenotes with
  | chain hterms =>
      rcases hscope with rfl | rfl
      · exact (FilterChain.Denotes.of_plain (.model store.schema model) hterms).filteredBy clause
      · exact hterms.filteredBy clause

/-- Whatever clause a query has, an accepted filter narrows its last run by the first run of its own
and adds its other runs as alternatives; the clause is kept only by filters without `or`. -/
theorem appended_filter_selects (store : Store) (limit : Nat) (terms : FilterChain) :
    (∀ (query : SelectQuery),
        (Backend.plain.filter limit (.chain terms) query).failure = none → ∀ model,
          Clause.FilteredBy store model query.clause (.chain terms)
            (Backend.plain.filter limit (.chain terms) query).state.clause) ∧
      ∀ (query : ModelQuery),
        ((Backend.relational store.schema).filter limit (.chain terms) query).failure = none →
          Clause.FilteredBy store query.model query.select.clause (.chain terms)
            ((Backend.relational store.schema).filter limit (.chain terms)
              query).state.select.clause := by
  constructor
  · intro query haccepted model
    exact Filter.filteredBy_of_addTo (.inl rfl) (Run.eq_done_iff.mpr ⟨rfl, haccepted⟩)
  · intro query haccepted
    exact Filter.filteredBy_of_addTo (.inr rfl) (Run.eq_done_iff.mpr ⟨rfl, haccepted⟩)

/-- Behind a clause for one author a filter with an `or` selects another author. -/
theorem library_filter_passes_scope :
    let owned : Clause := [(.and, .compare "name" .eq (.text "Ann"))]
    let select : SelectQuery := { table := "authors", clause := owned }
    let terms : FilterChain :=
      .join (.condition ⟨.compare, [.text "id", .number (.int 1)]⟩) .or
        (.one (.condition ⟨.compare, [.text "name", .text "Bo"]⟩))
    let plain := Backend.plain.filter 1 (.chain terms) select
    let full :=
      (Backend.relational libraryStore.schema).filter 1 (.chain terms) { select := select }
    let bo : Row := [("id", .number (.int 2)), ("name", .text "Bo")]
    Clause.FilteredBy libraryStore "authors" owned (.chain terms) plain.state.clause ∧
      Clause.FilteredBy libraryStore "authors" owned (.chain terms) full.state.select.clause ∧
        bo ∈ libraryStore.rows "authors" ∧
          Clause.holds libraryStore.rows bo owned = false ∧
            Clause.holds libraryStore.rows bo full.state.select.clause = true := by
  intro owned select terms plain full bo
  obtain ⟨hplain, hfull⟩ := appended_filter_selects libraryStore 1 terms
  exact ⟨hplain select rfl "authors", hfull { select := select } rfl, by decide +kernel,
    by decide +kernel, by decide +kernel⟩

end QueryShape
