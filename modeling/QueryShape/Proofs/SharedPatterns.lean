import QueryShape.Match.Evaluate

/-!
# Searching with shared patterns

A query prepares each pattern once and keeps it for all of its rows.  A row is searched
with two flags: whether a complete run has held and whether the run under way still does.
A term of a run that has failed is skipped, and with it every pattern that it would have
prepared.  As long as what is kept under a pattern is that pattern prepared, the search
finds the rows that the clause selects.
-/

namespace QueryShape

/-- Prepared patterns by their texts. -/
abbrev PatternCache : Type := List (String × List Char)

def preparePattern (pattern : String) : List Char :=
  pattern.toList.map foldCase

def likePrepared (text : String) (prepared : List Char) : Bool :=
  (patternRow (text.toList.map foldCase) prepared).headD false

/-- Whatever is kept under a pattern is this pattern prepared. -/
def PatternCache.Sound (cache : PatternCache) : Prop :=
  ∀ pattern prepared, cache.lookup pattern = some prepared → prepared = preparePattern pattern

/-- A search that uses the cache, tells a truth value and hands on a sound cache. -/
def Tells (search : PatternCache → Bool × PatternCache) (truth : Bool) : Prop :=
  ∀ cache, cache.Sound → (search cache).1 = truth ∧ (search cache).2.Sound

namespace PatternCache

theorem sound_nil :
    Sound [] := by
  intro pattern prepared h
  cases h

theorem Sound.cons {cache : PatternCache} (h : cache.Sound) (pattern : String) :
    Sound ((pattern, preparePattern pattern) :: cache) := by
  intro other prepared hlookup
  rw [List.lookup_cons] at hlookup
  split at hlookup
  next hsame =>
    cases hlookup
    rw [eq_of_beq hsame]
  next => exact h other prepared hlookup

/-- Prepares a pattern only if it is not kept already. -/
def like (text pattern : String) (cache : PatternCache) : Bool × PatternCache :=
  match cache.lookup pattern with
  | some prepared => (likePrepared text prepared, cache)
  | none =>
    let prepared := preparePattern pattern
    (likePrepared text prepared, (pattern, prepared) :: cache)

end PatternCache

/-! ## The search -/

def Comparison.search (op : Comparison) (actual expected : Json) (cache : PatternCache) :
    Bool × PatternCache :=
  match op with
  | .like | .notLike =>
    match actual.likeText?, expected.likeText? with
    | some text, some pattern =>
      let (found, cache) := cache.like text pattern
      (found == (op == .like), cache)
    | _, _ => (false, cache)
  | op => ((actual.compare? expected).any op.accepts, cache)

def ColumnTest.search (actual : Json) (test : ColumnTest) (cache : PatternCache) :
    Bool × PatternCache :=
  match test with
  | .compare op expected => op.search actual expected cache
  | .null negated => (actual.isNull != negated, cache)

/-- Stops at the first row that is found. -/
def searchAny (search : Row → PatternCache → Bool × PatternCache) :
    List Row → PatternCache → Bool × PatternCache
  | [], cache => (false, cache)
  | row :: rest, cache =>
    match search row cache with
    | (true, cache) => (true, cache)
    | (false, cache) => searchAny search rest cache

def relatedSearch (rows : RowSource) (correlation : Correlation) (column : String)
    (test : ColumnTest) (row : Row) (cache : PatternCache) : Bool × PatternCache :=
  let key := row.column correlation.parentKey
  if key.isNull then (false, cache)
  else
    searchAny
      (fun related cache =>
        if (related.column correlation.relatedKey).equals key then
          test.search (related.column column) cache
        else (false, cache))
      (rows correlation.relatedTable) cache

mutual

def Predicate.search (rows : RowSource) (row : Row) :
    Predicate → PatternCache → Bool × PatternCache
  | .compare column op expected, cache => op.search (row.column column) expected cache
  | .null column negated, cache => ((row.column column).isNull != negated, cache)
  | .isIn column values negated, cache => (inList (row.column column) values negated, cache)
  | .related _ correlation column test, cache =>
    relatedSearch rows correlation column test row cache
  | .group terms, cache => Clause.search rows row terms cache

def Clause.search (rows : RowSource) (row : Row) :
    List (Combinator × Predicate) → PatternCache → Bool × PatternCache
  | [], cache => (true, cache)
  | (_, predicate) :: rest, cache =>
    let (running, cache) := predicate.search rows row cache
    Clause.searchFrom rows row false running rest cache

/-- Goes on when a complete run has held or not, and the run under way still holds or not. -/
def Clause.searchFrom (rows : RowSource) (row : Row) (found running : Bool) :
    List (Combinator × Predicate) → PatternCache → Bool × PatternCache
  | [], cache => (found || running, cache)
  | (.and, predicate) :: rest, cache =>
    if running then
      let (running, cache) := predicate.search rows row cache
      Clause.searchFrom rows row found running rest cache
    else Clause.searchFrom rows row found false rest cache
  | (.or, predicate) :: rest, cache =>
    let (started, cache) := predicate.search rows row cache
    Clause.searchFrom rows row (found || running) started rest cache

end

/-- Searches rows one after another with one cache. -/
def Clause.searchRows (rows : RowSource) (clause : Clause) :
    List Row → PatternCache → List Row × PatternCache
  | [], cache => ([], cache)
  | row :: rest, cache =>
    let (found, cache) := Clause.search rows row clause cache
    let (others, cache) := Clause.searchRows rows clause rest cache
    (if found then row :: others else others, cache)

/-! ## The search tells the truth -/

theorem tells_const (truth : Bool) :
    Tells (fun cache => (truth, cache)) truth :=
  fun _ h => ⟨rfl, h⟩

/-- What follows a search is told its truth value. -/
theorem Tells.andThen {search : PatternCache → Bool × PatternCache} {truth result : Bool}
    (h : Tells search truth) (next : Bool → PatternCache → Bool × PatternCache)
    (hnext : Tells (next truth) result) :
    Tells
      (fun cache =>
        let (told, cache) := search cache
        next told cache)
      result := by
  intro cache hcache
  obtain ⟨htruth, hsound⟩ := h cache hcache
  show (next (search cache).1 (search cache).2).1 = result ∧
    (next (search cache).1 (search cache).2).2.Sound
  rw [htruth]
  exact hnext _ hsound

theorem PatternCache.tells_like (text pattern : String) :
    Tells (PatternCache.like text pattern) (QueryShape.like text pattern) := by
  intro cache h
  unfold PatternCache.like
  split
  next prepared hlookup =>
    rw [h pattern prepared hlookup]
    exact ⟨rfl, h⟩
  next => exact ⟨rfl, h.cons pattern⟩

theorem Comparison.tells_search (op : Comparison) (actual expected : Json) :
    Tells (op.search actual expected) (op.holds actual expected) := by
  have hpattern : ∀ negated : Bool,
      Tells
        (fun cache =>
          match actual.likeText?, expected.likeText? with
          | some text, some pattern =>
            let (found, cache) := cache.like text pattern
            (found == !negated, cache)
          | _, _ => (false, cache))
        (likeValues actual expected == some !negated) := by
    intro negated
    unfold likeValues
    cases hactual : actual.likeText? with
    | none => exact tells_const false
    | some text =>
        cases hexpected : expected.likeText? with
        | none => exact tells_const false
        | some pattern =>
            exact (PatternCache.tells_like text pattern).andThen
              (fun found cache => (found == !negated, cache))
              (tells_const (QueryShape.like text pattern == !negated))
  cases op with
  | eq | ne | lt | le | gt | ge => exact tells_const _
  | like => exact hpattern false
  | notLike => exact hpattern true

theorem ColumnTest.tells_search (actual : Json) (test : ColumnTest) :
    Tells (test.search actual) (test.holds actual) := by
  cases test with
  | compare op expected => exact op.tells_search actual expected
  | null negated => exact tells_const _

theorem tells_searchAny {search : Row → PatternCache → Bool × PatternCache} {test : Row → Bool}
    (h : ∀ row, Tells (search row) (test row)) (table : List Row) :
    Tells (searchAny search table) (table.any test) := by
  induction table with
  | nil => exact tells_const false
  | cons row rest ih =>
      intro cache hcache
      obtain ⟨htruth, hsound⟩ := h row cache hcache
      rw [searchAny, List.any_cons, ← htruth]
      split
      next later heq =>
        rw [heq] at hsound ⊢
        exact ⟨rfl, hsound⟩
      next later heq =>
        rw [heq] at hsound ⊢
        exact ih later hsound

theorem tells_relatedSearch (rows : RowSource) (correlation : Correlation) (column : String)
    (test : ColumnTest) (row : Row) :
    Tells (relatedSearch rows correlation column test row)
      (relatedHolds rows correlation column test row) := by
  unfold relatedSearch relatedHolds
  by_cases hkey : (row.column correlation.parentKey).isNull
  · simp only [hkey, Bool.not_true, Bool.false_and, if_true]
    exact tells_const false
  · simp only [hkey, Bool.not_false, Bool.true_and, Bool.false_eq_true, if_false]
    refine tells_searchAny ?_ _
    intro related
    by_cases hequal : (related.column correlation.relatedKey).equals
        (row.column correlation.parentKey)
    · simp only [hequal, Bool.true_and, if_true]
      exact test.tells_search (related.column column)
    · simp only [hequal, Bool.false_and, Bool.false_eq_true, if_false]
      exact tells_const false

mutual

theorem Predicate.tells_search (rows : RowSource) (row : Row) :
    ∀ predicate : Predicate, Tells (predicate.search rows row) (predicate.holds rows row)
  | .compare column op expected => op.tells_search (row.column column) expected
  | .null _ _ => tells_const _
  | .isIn _ _ _ => tells_const _
  | .related _ correlation column test => tells_relatedSearch rows correlation column test row
  | .group terms => Clause.tells_search rows row terms

theorem Clause.tells_search (rows : RowSource) (row : Row) :
    ∀ clause : List (Combinator × Predicate),
      Tells (Clause.search rows row clause) (Clause.holds rows row clause)
  | [] => tells_const true
  | (_, predicate) :: rest => by
      have hrest := Clause.tells_searchFrom rows row rest false (predicate.holds rows row)
      rw [Bool.false_or] at hrest
      intro cache hcache
      rw [Clause.search, Clause.holds]
      exact (Predicate.tells_search rows row predicate).andThen
        (fun running => Clause.searchFrom rows row false running rest) hrest cache hcache

/-- Once a run has failed, whatever else it asks for changes nothing. -/
theorem Clause.tells_searchFrom (rows : RowSource) (row : Row) :
    ∀ (rest : List (Combinator × Predicate)) (found running : Bool),
      Tells (Clause.searchFrom rows row found running rest)
        (found || Clause.holdsFrom rows row running rest)
  | [], found, running => by
      rw [Clause.holdsFrom]
      exact tells_const _
  | (.and, predicate) :: rest, found, running => by
      intro cache hcache
      rw [Clause.searchFrom, Clause.holdsFrom]
      cases running with
      | false =>
          -- The term is skipped: it could not make the run hold again.
          exact Clause.tells_searchFrom rows row rest found false cache hcache
      | true =>
          have hrest := Clause.tells_searchFrom rows row rest found (predicate.holds rows row)
          exact (Predicate.tells_search rows row predicate).andThen
            (fun running => Clause.searchFrom rows row found running rest) hrest cache hcache
  | (.or, predicate) :: rest, found, running => by
      have hrest :=
        Clause.tells_searchFrom rows row rest (found || running) (predicate.holds rows row)
      intro cache hcache
      rw [Clause.searchFrom, Clause.holdsFrom, ← Bool.or_assoc]
      exact (Predicate.tells_search rows row predicate).andThen
        (fun started => Clause.searchFrom rows row (found || running) started rest) hrest
        cache hcache

end

theorem Clause.searchRows_eq_filter (rows : RowSource) (clause : Clause) (table : List Row)
    {cache : PatternCache} (hcache : cache.Sound) :
    (Clause.searchRows rows clause table cache).1 =
        table.filter (fun row => Clause.holds rows row clause) ∧
      (Clause.searchRows rows clause table cache).2.Sound := by
  induction table generalizing cache with
  | nil => exact ⟨rfl, hcache⟩
  | cons row rest ih =>
      obtain ⟨htruth, hsound⟩ := Clause.tells_search rows row clause cache hcache
      obtain ⟨hothers, hlater⟩ := ih hsound
      rw [List.filter_cons, ← htruth, ← hothers]
      exact ⟨rfl, hlater⟩

end QueryShape
