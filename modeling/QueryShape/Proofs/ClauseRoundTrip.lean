import QueryShape.Filter.Parser
import QueryShape.Proofs.BuilderReach
import QueryShape.Query.FilterValue

/-!
# Clauses written as filters and read back

A clause that builder calls have made can be written as a filter.  Reading that filter
and applying it to a new query gives the clause back, up to two details: the first
combinator of a level, which has no meaning, becomes `and`, and a comparison that asks
for null becomes a null test.  A clause that a filter has made has neither, so it comes
back as it was.
-/

namespace QueryShape

mutual

def Predicate.norm : Predicate → Predicate
  | .compare column op value =>
    match op, value with
    | .eq, .null => .null column false
    | .ne, .null => .null column true
    | op, value => .compare column op value
  | .null column negated => .null column negated
  | .isIn column values negated => .isIn column values negated
  | .related relation correlation column test => .related relation correlation column test
  | .group terms => .group (Clause.norm terms)

def Clause.norm : List (Combinator × Predicate) → Clause
  | [] => []
  | (_, predicate) :: rest => (.and, predicate.norm) :: Clause.normRest rest

/-- The terms after the first one keep their combinators. -/
def Clause.normRest : List (Combinator × Predicate) → Clause
  | [] => []
  | (combinator, predicate) :: rest => (combinator, predicate.norm) :: Clause.normRest rest

end

theorem Predicate.norm_compare_of_not_testsNull {op : Comparison} {value : Json}
    (h : ¬ op.TestsNull value) (column : String) :
    (Predicate.compare column op value).norm = .compare column op value := by
  unfold Predicate.norm
  split
  next => exact absurd ⟨.inl rfl, rfl⟩ h
  next => exact absurd ⟨.inr rfl, rfl⟩ h
  next => rfl

theorem Predicate.nesting_norm_compare (column : String) (op : Comparison) (value : Json) :
    (Predicate.compare column op value).norm.nesting = 0 := by
  unfold Predicate.norm
  split <;> rfl

mutual

theorem Predicate.nesting_norm : ∀ predicate : Predicate,
    predicate.norm.nesting = predicate.nesting
  | .compare column op value => Predicate.nesting_norm_compare column op value
  | .null _ _ | .isIn _ _ _ | .related _ _ _ _ => rfl
  | .group [] => rfl
  | .group ((_, predicate) :: rest) => by
      simp only [Predicate.norm, Clause.norm, Predicate.nesting, Clause.nesting,
        Predicate.nesting_norm predicate, Clause.nesting_normRest rest]

theorem Clause.nesting_normRest : ∀ rest : List (Combinator × Predicate),
    Clause.nesting (Clause.normRest rest) = Clause.nesting rest
  | [] => rfl
  | (_, predicate) :: rest => by
      simp only [Clause.normRest, Clause.nesting, Predicate.nesting_norm predicate,
        Clause.nesting_normRest rest]

end

theorem Clause.nesting_norm (clause : Clause) :
    Clause.nesting (Clause.norm clause) = Clause.nesting clause := by
  cases clause with
  | nil => rfl
  | cons term rest =>
      obtain ⟨combinator, predicate⟩ := term
      rw [Clause.norm, Clause.nesting, Clause.nesting, predicate.nesting_norm,
        Clause.nesting_normRest]

/-! ## Clauses that filters denote are normal -/

theorem Condition.Denotes.norm_eq {scope : Scope} {condition : Condition}
    {predicate : Predicate} (h : condition.Denotes scope predicate) :
    predicate.norm = predicate := by
  cases h with
  | compare _ _ hvalue => exact Predicate.norm_compare_of_not_testsNull hvalue _
  | isNull | isNotNull | null | notNull | isIn | notIn | related => rfl

mutual

theorem FilterTerm.Denotes.norm_eq {scope : Scope} :
    ∀ {term : FilterTerm} {predicate : Predicate},
      term.Denotes scope predicate → predicate.norm = predicate
  | _, _, .condition h => h.norm_eq
  | _, _, .group (.one h) => by
      simp only [Predicate.norm, Clause.norm, Clause.normRest, FilterTerm.Denotes.norm_eq h]
  | _, _, .group (.join h hrest) => by
      simp only [Predicate.norm, Clause.norm, FilterTerm.Denotes.norm_eq h,
        FilterChain.Denotes.normRest_eq hrest]

theorem FilterChain.Denotes.normRest_eq {scope : Scope} :
    ∀ {combinator : Combinator} {chain : FilterChain} {clause : Clause},
      chain.Denotes scope combinator clause → Clause.normRest clause = clause
  | _, _, _, .one h => by
      simp only [Clause.normRest, FilterTerm.Denotes.norm_eq h]
  | _, _, _, .join h hrest => by
      simp only [Clause.normRest, FilterTerm.Denotes.norm_eq h,
        FilterChain.Denotes.normRest_eq hrest]

end

theorem Clause.normRest_eq_of_forall₂ {scope : Scope} {terms : List (Combinator × FilterTerm)}
    {clause : Clause} (h : List.Forall₂ (Translates scope) terms clause) :
    Clause.normRest clause = clause := by
  induction h with
  | nil => rfl
  | cons hterm _ ih => rw [Clause.normRest, hterm.2.norm_eq, ih]

theorem Filter.combinator_head_joined {filter : Filter} {first : Combinator × FilterTerm}
    {rest : List (Combinator × FilterTerm)} (h : filter.joined = first :: rest) :
    first.1 = .and := by
  cases filter with
  | empty => cases h
  | chain terms =>
      cases terms with
      | one term =>
          cases h
          rfl
      | join term next more =>
          cases h
          rfl

/-- The clause that a filter makes of the empty one is normal, also when the filter fails. -/
theorem Filter.Applied.norm_eq {scope : Scope} {limit : Nat} {filter : Filter} {after : Clause}
    {failure : Option Error} (h : filter.Applied scope limit [] after failure) :
    Clause.norm after = after := by
  obtain ⟨sound, added, ⟨others, hprefix⟩, hadded, rfl⟩ := h.exists_added
  cases hadded with
  | nil => rfl
  | @cons first translation terms rest hfirst hrest =>
      have hand : first.1 = .and := Filter.combinator_head_joined hprefix.symm
      obtain ⟨combinator, predicate⟩ := translation
      obtain ⟨hcombinator, hdenotes⟩ := hfirst
      rw [hand] at hcombinator
      cases hcombinator
      rw [Clause.norm, hdenotes.norm_eq, Clause.normRest_eq_of_forall₂ hrest]

/-! ## Reading a written clause -/

theorem Condition.parse_conditionValue (kind : ConditionKind) (args : List Json) :
    Condition.parse [("type", .text kind.name), ("args", .array args)] = .ok ⟨kind, args⟩ := by
  cases kind <;> rfl

theorem Combinator.ofToken?_token (combinator : Combinator) :
    Combinator.ofToken? combinator.token = some combinator := by
  cases combinator <;> decide +kernel

theorem Comparison.Asks.comparisonArgs {op : Comparison} {value : Json} {test : ColumnTest}
    (h : op.Asks value test) :
    ComparisonArgs test.args op value := by
  cases h with
  | isNull => exact .operator .null (Comparison.ofToken?_token .eq)
  | isNotNull => exact .operator .null (Comparison.ofToken?_token .ne)
  | compare => exact .operator value (Comparison.ofToken?_token op)

/-- An element is read as a term, wherever it stands. -/
def FilterElement.IsTerm (element : FilterElement) (term : FilterTerm) : Prop :=
  ∀ position, element.term position = .ok term

theorem FilterElement.isTerm_condition (condition : Condition) :
    (FilterElement.condition condition).IsTerm (.condition condition) :=
  fun _ => rfl

theorem FilterElement.isTerm_group (terms : FilterChain) :
    (FilterElement.group (.chain terms)).IsTerm (.group terms) :=
  fun _ => rfl

/-- The reader of the elements of an array with some levels of room for groups. -/
abbrev elementReader (limit room : Nat) : Json → Except Error FilterElement :=
  FilterElement.parse fun raw => Filter.parseWithin limit room raw

theorem parse_conditionValue (limit room : Nat) (kind : ConditionKind) (args : List Json) :
    elementReader limit room (conditionValue kind args) = .ok (.condition ⟨kind, args⟩) := by
  show FilterElement.condition <$> Condition.parse _ = _
  rw [Condition.parse_conditionValue]
  rfl

/-- Reading a predicate that has been written gives a term that denotes its normal form. -/
def Predicate.ReadsAs (scope : Scope) (limit room : Nat) (predicate : Predicate) : Prop :=
  ∃ element term,
    elementReader limit room predicate.filterValue = .ok element ∧ element.IsTerm term ∧
      term.Denotes scope predicate.norm

theorem Predicate.readsAs_of_condition {scope : Scope} {predicate : Predicate}
    {kind : ConditionKind} {args : List Json}
    (hvalue : predicate.filterValue = conditionValue kind args)
    (h : Condition.Denotes scope ⟨kind, args⟩ predicate.norm) (limit room : Nat) :
    predicate.ReadsAs scope limit room := by
  refine ⟨_, _, ?_, FilterElement.isTerm_condition _, .condition h⟩
  rw [hvalue]
  exact QueryShape.parse_conditionValue limit room kind args

theorem Predicate.compare_readsAs {scope : Scope} {column : String}
    (hcolumn : isIdentifier column) (op : Comparison) (value : Json) (limit room : Nat) :
    (Predicate.compare column op value).ReadsAs scope limit room := by
  have hargs : ComparisonArgs [.text op.token, value] op value :=
    .operator value (Comparison.ofToken?_token op)
  apply Predicate.readsAs_of_condition rfl
  by_cases h : op.TestsNull value
  · obtain ⟨rfl | rfl, rfl⟩ := h
    · exact .isNull hcolumn hargs
    · exact .isNotNull hcolumn hargs
  · rw [Predicate.norm_compare_of_not_testsNull h]
    exact .compare hcolumn hargs h

/-- Reading the terms after a first one joins them to whatever that one has been read as. -/
def Clause.RestReadsAs (scope : Scope) (limit room : Nat) (rest : Clause) : Prop :=
  ∃ elements,
    (Clause.filterRest rest).mapM (elementReader limit room) = .ok elements ∧
      elements.length = 2 * rest.length ∧
      ∀ (position : Nat) (combinator : Combinator) {first : FilterElement} {term : FilterTerm}
        {predicate : Predicate},
        first.IsTerm term → term.Denotes scope predicate →
          ∃ terms,
            FilterElement.chain position (first :: elements) = .ok terms ∧
              terms.Denotes scope combinator ((combinator, predicate) :: Clause.normRest rest)

theorem Clause.restReadsAs_nil (scope : Scope) (limit room : Nat) :
    Clause.RestReadsAs scope limit room [] := by
  refine ⟨[], rfl, rfl, ?_⟩
  intro position combinator first term predicate hterm hdenotes
  refine ⟨.one term, ?_, .one hdenotes⟩
  rw [FilterElement.chain, hterm]
  rfl

theorem Clause.restReadsAs_cons {scope : Scope} {limit room : Nat} {next : Predicate}
    {rest : Clause} (hnext : next.ReadsAs scope limit room)
    (hrest : Clause.RestReadsAs scope limit room rest) (after : Combinator) :
    Clause.RestReadsAs scope limit room ((after, next) :: rest) := by
  obtain ⟨element, nextTerm, hread, hnextTerm, hnextDenotes⟩ := hnext
  obtain ⟨elements, hreads, hlength, hchain⟩ := hrest
  have hafter : elementReader limit room (.text after.token) = .ok (.combinator after) := by
    rw [elementReader, FilterElement.parse, Combinator.ofToken?_token]
  refine ⟨.combinator after :: element :: elements, ?_, ?_, ?_⟩
  · exact mapM_cons_eq_ok hafter (mapM_cons_eq_ok hread hreads)
  · simp only [List.length_cons, hlength]
    omega
  · intro position combinator first term predicate hterm hdenotes
    obtain ⟨terms, hterms, htermsDenote⟩ := hchain (position + 2) after hnextTerm hnextDenotes
    refine ⟨.join term after terms, ?_, .join hdenotes htermsDenote⟩
    rw [FilterElement.chain, hterm]
    show FilterChain.join term after <$>
        FilterElement.chain (position + 2) (element :: elements) = _
    rw [hterms]
    rfl

theorem Clause.exists_parseWithin {scope : Scope} {limit room : Nat} {first : Predicate}
    {rest : Clause} (hfirst : first.ReadsAs scope limit room)
    (hrest : Clause.RestReadsAs scope limit room rest) (combinator : Combinator) :
    ∃ terms,
      Filter.parseWithin limit (room + 1)
            (.array (Clause.filterItems ((combinator, first) :: rest))) =
          .ok (.chain terms) ∧
        terms.Denotes scope .and (Clause.norm ((combinator, first) :: rest)) := by
  obtain ⟨element, term, hread, hterm, hdenotes⟩ := hfirst
  obtain ⟨elements, hreads, hlength, hchain⟩ := hrest
  obtain ⟨terms, hterms, htermsDenote⟩ := hchain 0 .and hterm hdenotes
  refine ⟨terms, ?_, htermsDenote⟩
  have hassemble : FilterElement.assemble (element :: elements) = .ok (.chain terms) := by
    have hodd : (element :: elements).length % 2 ≠ 0 := by
      rw [List.length_cons, hlength]
      omega
    rw [FilterElement.assemble, if_neg (by simp), if_neg hodd, hterms]
    rfl
  show (do
      let elements ← (first.filterValue :: Clause.filterRest rest).mapM (elementReader limit room)
      (FilterElement.assemble elements).mapError Error.malformedFilter) = _
  rw [mapM_cons_eq_ok hread hreads]
  show (FilterElement.assemble (element :: elements)).mapError Error.malformedFilter = _
  rw [hassemble]
  rfl

mutual

theorem Predicate.readsAs {scope : Scope} {limit : Nat} :
    ∀ {predicate : Predicate} {room : Nat},
      predicate.WellFormed scope → predicate.nesting ≤ room →
        predicate.ReadsAs scope limit room
  | .compare column op value, room, hcolumn, _ =>
      Predicate.compare_readsAs hcolumn op value limit room
  | .null column false, room, hcolumn, _ =>
      Predicate.readsAs_of_condition rfl (.null hcolumn) limit room
  | .null column true, room, hcolumn, _ =>
      Predicate.readsAs_of_condition rfl (.notNull hcolumn) limit room
  | .isIn column values false, room, hcolumn, _ =>
      Predicate.readsAs_of_condition rfl (.isIn hcolumn) limit room
  | .isIn column values true, room, hcolumn, _ =>
      Predicate.readsAs_of_condition rfl (.notIn hcolumn) limit room
  | .related name correlation column test, room, h, _ => by
      obtain ⟨schema, model, relation, op, value, hscope, hrelation, hcolumn, rfl, rfl⟩ := h
      have htest := op.asks_ofComparison value
      exact Predicate.readsAs_of_condition rfl
        (.related hscope hrelation hcolumn htest.comparisonArgs htest) limit room
  | .group [], _, h, _ => absurd rfl h.1
  | .group ((combinator, first) :: rest), 0, _, hnesting => by
      simp [Predicate.nesting] at hnesting
  | .group ((combinator, first) :: rest), room + 1, h, hnesting => by
      obtain ⟨_, hfirst, hrest⟩ := h
      simp only [Predicate.nesting, Clause.nesting, Nat.add_le_add_iff_right, Nat.max_le]
        at hnesting
      have hfirstReads : first.ReadsAs scope limit room := Predicate.readsAs hfirst hnesting.1
      obtain ⟨terms, hterms, hdenotes⟩ :=
        Clause.exists_parseWithin hfirstReads (Clause.restReadsAs hrest hnesting.2) combinator
      refine ⟨_, _, ?_, FilterElement.isTerm_group terms, .group hdenotes⟩
      show FilterElement.group <$> Filter.parseWithin limit (room + 1) _ = _
      rw [hterms]
      rfl

theorem Clause.restReadsAs {scope : Scope} {limit : Nat} :
    ∀ {rest : List (Combinator × Predicate)} {room : Nat},
      Clause.WellFormed scope rest → Clause.nesting rest ≤ room →
        Clause.RestReadsAs scope limit room rest
  | [], room, _, _ => Clause.restReadsAs_nil scope limit room
  | (after, next) :: rest, room, h, hnesting => by
      simp only [Clause.nesting, Nat.max_le] at hnesting
      exact Clause.restReadsAs_cons (Predicate.readsAs h.1 hnesting.1)
        (Clause.restReadsAs h.2 hnesting.2) after

end

theorem Clause.exists_parse_filterValue {scope : Scope} {clause : Clause} {depth : Nat}
    (h : Clause.WellFormed scope clause) (hdepth : Clause.nesting clause + 1 ≤ depth) :
    ∃ filter,
      Filter.parse depth (Clause.filterValue clause) = .ok filter ∧
        filter.Denotes scope (Clause.norm clause) := by
  obtain ⟨room, rfl⟩ : ∃ room, depth = room + 1 := ⟨depth - 1, by omega⟩
  cases clause with
  | nil => exact ⟨.empty, rfl, .empty⟩
  | cons term rest =>
      obtain ⟨combinator, first⟩ := term
      simp only [Clause.nesting, Nat.add_le_add_iff_right, Nat.max_le] at hdepth
      obtain ⟨terms, hterms, hdenotes⟩ :=
        Clause.exists_parseWithin (Predicate.readsAs h.1 hdepth.1)
          (Clause.restReadsAs h.2 hdepth.2) combinator
      exact ⟨.chain terms, hterms, .chain hdenotes⟩

theorem Filter.Denotes.depth_le {scope : Scope} {filter : Filter} {clause : Clause}
    (h : filter.Denotes scope clause) :
    filter.depth ≤ Clause.nesting clause + 1 := by
  cases h with
  | empty => exact Nat.zero_le _
  | chain h => exact Nat.le_of_eq h.nesting_eq.symm

/-! ## The round trip of a query -/

/-- A clause that is written, read and applied to a query without a clause gives another clause. -/
def Backend.ReadsBack {Q : Type} (backend : Backend Q) (fresh : Q) (clause expected : Clause) :
    Prop :=
  ∀ depth, Clause.nesting clause + 1 ≤ depth →
    ∃ filter,
      Filter.parse depth (Clause.filterValue clause) = .ok filter ∧
        backend.filter depth filter fresh =
          .done (backend.replace fresh { backend.select fresh with clause := expected })

theorem Backend.readsBack_norm {Q : Type} {backend : Backend Q} {fresh : Q} {clause : Clause}
    (hfresh : (backend.select fresh).clause = [])
    (h : Clause.WellFormed (backend.scope fresh) clause) :
    backend.ReadsBack fresh clause (Clause.norm clause) := by
  intro depth hdepth
  obtain ⟨filter, hparse, hdenotes⟩ := Clause.exists_parse_filterValue h hdepth
  refine ⟨filter, hparse, ?_⟩
  have hadd :
      filter.addTo (backend.scope fresh) depth (backend.select fresh).clause =
        .done (Clause.norm clause) := by
    have hfilter : filter.depth ≤ Clause.nesting clause + 1 := by
      simpa only [Clause.nesting_norm] using hdenotes.depth_le
    rw [hfresh]
    exact Filter.addTo_eq_done_iff.mpr ⟨_, hdenotes, by omega, by omega, rfl⟩
  rw [Backend.filter, hadd]
  rfl

structure Backend.RoundTrips {Q : Type} (backend : Backend Q) (fresh : Q) : Prop where
  built :
    ∀ query, backend.Reaches fresh query →
      backend.ReadsBack fresh (backend.select query).clause
        (Clause.norm (backend.select query).clause)
  filtered :
    ∀ limit filter,
      let clause := (backend.select (backend.filter limit filter fresh).state).clause
      Clause.norm clause = clause ∧ backend.ReadsBack fresh clause clause

theorem Backend.Lawful.roundTrips {Q : Type} {backend : Backend Q} (hlawful : backend.Lawful)
    {fresh : Q} (hfresh : (backend.select fresh).clause = []) :
    backend.RoundTrips fresh where
  built query hreach := by
    apply Backend.readsBack_norm hfresh
    apply (hreach.keeps hlawful).wellFormed
    rw [hfresh]
    trivial
  filtered limit filter := by
    have happlied := filter.applied_addTo (backend.scope fresh) limit []
    have hclause :
        (backend.select (backend.filter limit filter fresh).state).clause =
          (filter.addTo (backend.scope fresh) limit []).state := by
      rw [Backend.filter, hlawful.select_replace, hfresh]
    have hnorm := happlied.norm_eq
    refine ⟨by rw [hclause, hnorm], ?_⟩
    rw [hclause]
    have hreads := Backend.readsBack_norm hfresh (happlied.wellFormed trivial)
    rwa [hnorm] at hreads

/-- New queries of both kinds take a written clause back. -/
theorem written_clause_reads_back :
    (∀ table fresh, SelectQuery.ofTable table = .ok fresh → Backend.plain.RoundTrips fresh) ∧
      ∀ schema model fresh, ModelQuery.ofModel schema model = .ok fresh →
        (Backend.relational schema).RoundTrips fresh := by
  constructor
  · intro table fresh h
    obtain ⟨_, rfl⟩ := identifier_map_eq_ok_iff.mp h
    exact Backend.plain_lawful.roundTrips rfl
  · intro schema model fresh h
    simp only [ModelQuery.ofModel, bind_eq_ok_iff, pure_eq_ok_iff] at h
    obtain ⟨_, _, select, hselect, rfl⟩ := h
    obtain ⟨_, rfl⟩ := identifier_map_eq_ok_iff.mp hselect
    exact (Backend.relational_lawful schema).roundTrips rfl

/-- Authors with posts. -/
def authorSchema : Schema where
  models :=
    [("authors", { relations := [("posts", ⟨.hasMany, "posts", "author_id", "id"⟩)] }),
      ("posts", {})]

def authorQuery : ModelQuery where
  select := { table := "authors" }

def authorSteps : List BuildStep :=
  [.compare .or "name" .eq .null,
    .related .or "posts" "title" .like (.text "%lean%"),
    .group .or
      [.isIn .or "id" [.number (.int 1), .number (.int 2)] true,
        .compare .and "authors.age" .ne .null]]

theorem written_author_clause_reads_back :
    (Backend.relational authorSchema).ReadsBack authorQuery
        (BuildStep.runAll (.relational authorSchema) authorSteps authorQuery).state.select.clause
        [(.and, .null "name" false),
          (.or, .related "posts" ⟨"authors", "id", "posts", "author_id"⟩ "title"
            (.compare .like (.text "%lean%"))),
          (.or, .group
            [(.and, .isIn "id" [.number (.int 1), .number (.int 2)] true),
              (.and, .null "authors.age" true)])] := by
  have hfresh : ModelQuery.ofModel authorSchema "authors" = .ok authorQuery := by
    rfl
  have hreach :=
    Backend.reaches_runAll (Backend.relational_lawful authorSchema) authorSteps authorQuery
  exact (written_clause_reads_back.2 authorSchema "authors" authorQuery hfresh).built _ hreach

end QueryShape
