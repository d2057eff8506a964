import Mathlib.Data.List.Infix
import QueryShape.Proofs.WellFormedClause
import QueryShape.Query.Sql

/-!
# Conditions in SQL

With placeholders for its values a condition of SQL is a column and a test, a column and a
list of placeholders, a comparison of two digits, or the existence of a related row.  No
such text starts another one.  So where a condition ends can be told from the text, even
though a condition may hold the word for `and` and a column may have the name of a word.
-/

namespace QueryShape

/-! ## The forms of conditions -/

/-- What is asked of one column. -/
inductive SqlTest : String → Prop
  | compare (op : Comparison) : SqlTest (op.sql ++ " ?")
  | null : SqlTest "IS NULL"
  | notNull : SqlTest "IS NOT NULL"

/-- One placeholder or more, up to the closing parenthesis. -/
inductive SqlPlaceholders : String → Prop
  | last : SqlPlaceholders "?)"
  | more {rest : String} (h : SqlPlaceholders rest) : SqlPlaceholders ("?, " ++ rest)

inductive SqlCondition : String → Prop
  | test {column test : String} (hcolumn : isIdentifier column) (htest : SqlTest test) :
      SqlCondition (column ++ " " ++ test)
  | isIn {column list : String} (hcolumn : isIdentifier column) (hlist : SqlPlaceholders list) :
      SqlCondition (column ++ " IN (" ++ list)
  | notIn {column list : String} (hcolumn : isIdentifier column) (hlist : SqlPlaceholders list) :
      SqlCondition (column ++ " NOT IN (" ++ list)
  | never : SqlCondition "0 = 1"
  | always : SqlCondition "1 = 1"
  | related {table key parent parentKey column test : String} (htable : isIdentifier table)
      (hkey : isIdentifier key) (hparent : isIdentifier parent)
      (hparentKey : isIdentifier parentKey) (hcolumn : isIdentifier column)
      (htest : SqlTest test) :
      SqlCondition
        ("EXISTS (" ++
          ("SELECT * FROM " ++ table ++ " WHERE " ++ table ++ "." ++ key ++ " = " ++
            parent ++ "." ++ parentKey) ++
          " AND " ++ column ++ (" " ++ test) ++ ")")

/-! ## Prefix-free languages -/

/-- No text of the language starts another one. -/
def PrefixFree (language : String → Prop) : Prop :=
  ∀ ⦃a b r s : String⦄, language a → language b → a ++ r = b ++ s → a = b

/-- A text of one language, followed by a text of a language that may depend on it. -/
def Followed (first : String → Prop) (next : String → String → Prop) (text : String) : Prop :=
  ∃ a b, first a ∧ next a b ∧ text = a ++ b

theorem PrefixFree.followed {first : String → Prop} {next : String → String → Prop}
    (hfirst : PrefixFree first) (hnext : ∀ a, first a → PrefixFree (next a)) :
    PrefixFree (Followed first next) := by
  intro text other r s htext hother heq
  obtain ⟨a, b, ha, hb, rfl⟩ := htext
  obtain ⟨a', b', ha', hb', rfl⟩ := hother
  rw [String.append_assoc, String.append_assoc] at heq
  have hsame : a = a' := hfirst ha ha' heq
  subst hsame
  rw [String.append_right_inj] at heq
  rw [hnext a ha hb hb' heq]

theorem prefixFree_eq (text : String) :
    PrefixFree (· = text) := by
  intro a b r s ha hb _
  rw [ha, hb]

theorem prefixFree_of_texts {texts : List String}
    (h : ∀ a ∈ texts, ∀ b ∈ texts, a.toList <+: b.toList → a = b) :
    PrefixFree (· ∈ texts) := by
  intro a b r s ha hb heq
  have htexts : a.toList ++ r.toList = b.toList ++ s.toList := by
    rw [← String.toList_append, heq, String.toList_append]
  rcases List.prefix_or_prefix_of_prefix (List.prefix_append a.toList r.toList)
    (htexts ▸ List.prefix_append b.toList s.toList) with hprefix | hprefix
  · exact h a ha b hb hprefix
  · exact (h b hb a ha hprefix).symm

/-! ## Words -/

/-- The characters of qualified names. -/
def isWordChar (c : Char) : Bool :=
  isNamePart c || c == '.'

/-- A word with the blank that ends it. -/
def SqlWord (text : String) : Prop :=
  ∃ word : String, word ≠ "" ∧ (∀ c ∈ word.toList, isWordChar c = true) ∧ text = word ++ " "

theorem isWordChar_blank :
    isWordChar ' ' = false := by
  decide

theorem takeWhile_word {word : List Char} (h : ∀ c ∈ word, isWordChar c = true)
    (rest : List Char) :
    (word ++ ' ' :: rest).takeWhile isWordChar = word := by
  rw [List.takeWhile_append_of_pos h,
    List.takeWhile_cons_of_neg (by simp [isWordChar_blank]), List.append_nil]

theorem prefixFree_sqlWord :
    PrefixFree SqlWord := by
  intro a b r s ha hb heq
  obtain ⟨word, _, hword, rfl⟩ := ha
  obtain ⟨other, _, hother, rfl⟩ := hb
  have htexts : word.toList ++ ' ' :: r.toList = other.toList ++ ' ' :: s.toList := by
    simpa [String.toList_append] using congrArg String.toList heq
  have hsame : word.toList = other.toList := by
    rw [← takeWhile_word hword r.toList, htexts, takeWhile_word hother]
  rw [String.toList_inj.mp hsame]

theorem isNamePart_of_isName {cs : List Char} (h : isName cs = true) :
    cs ≠ [] ∧ ∀ c ∈ cs, isNamePart c = true := by
  cases cs with
  | nil => cases h
  | cons c cs =>
      simp only [isName, Bool.and_eq_true, List.all_eq_true] at h
      refine ⟨List.cons_ne_nil c cs, List.forall_mem_cons.mpr ⟨?_, h.2⟩⟩
      rw [isNamePart, h.1, Bool.true_or]

/-- An identifier is one name, or two with a dot between them. -/
theorem exists_names_of_isIdentifier {s : String} (h : isIdentifier s) :
    isName s.toList = true ∨
      ∃ first second, isName first = true ∧ isName second = true ∧
        s.toList = first ++ '.' :: second := by
  have hsplit := List.takeWhile_append_dropWhile (p := (· != '.')) (l := s.toList)
  have hhead := List.head?_dropWhile_not (· != '.') s.toList
  simp only [isIdentifier] at h
  cases hdrop : s.toList.dropWhile (· != '.') with
  | nil =>
      rw [hdrop] at h hsplit
      rw [List.append_nil] at hsplit
      rw [hsplit] at h
      exact .inl h
  | cons dot second =>
      rw [hdrop] at h hsplit hhead
      simp only [Bool.and_eq_true] at h
      have hdot : dot = '.' := by simpa using hhead
      rw [hdot] at hsplit
      exact .inr ⟨_, second, h.1, h.2, hsplit.symm⟩

theorem exists_isNameStart_of_isName {cs : List Char} (h : isName cs = true) :
    ∃ c rest, cs = c :: rest ∧ isNameStart c = true := by
  cases cs with
  | nil => cases h
  | cons c rest =>
      simp only [isName, Bool.and_eq_true] at h
      exact ⟨c, rest, rfl, h.1⟩

theorem exists_isNameStart_of_isIdentifier {s : String} (h : isIdentifier s) :
    ∃ c rest, s.toList = c :: rest ∧ isNameStart c = true := by
  rcases exists_names_of_isIdentifier h with hname | ⟨first, second, hfirst, _, heq⟩
  · exact exists_isNameStart_of_isName hname
  · obtain ⟨c, rest, hcs, hc⟩ := exists_isNameStart_of_isName hfirst
    rw [heq, hcs]
    exact ⟨c, rest ++ '.' :: second, rfl, hc⟩

theorem isWordChar_of_isIdentifier {s : String} (h : isIdentifier s) :
    ∀ c ∈ s.toList, isWordChar c = true := by
  have hname : ∀ {cs : List Char}, isName cs = true → ∀ c ∈ cs, isWordChar c = true := by
    intro cs hcs c hc
    rw [isWordChar, (isNamePart_of_isName hcs).2 c hc, Bool.true_or]
  rcases exists_names_of_isIdentifier h with hone | ⟨first, second, hfirst, hsecond, heq⟩
  · exact hname hone
  · rw [heq]
    intro c hc
    rcases List.mem_append.mp hc with hc | hc
    · exact hname hfirst c hc
    · rcases List.mem_cons.mp hc with rfl | hc
      · rfl
      · exact hname hsecond c hc

theorem ne_empty_of_isIdentifier {s : String} (h : isIdentifier s) :
    s ≠ "" := by
  rintro rfl
  cases h

theorem sqlWord_of_isIdentifier {s : String} (h : isIdentifier s) :
    SqlWord (s ++ " ") :=
  ⟨s, ne_empty_of_isIdentifier h, isWordChar_of_isIdentifier h, rfl⟩

theorem sqlWord_dotted {table key : String} (htable : isIdentifier table)
    (hkey : isIdentifier key) :
    SqlWord (table ++ "." ++ key ++ " ") := by
  refine ⟨table ++ "." ++ key, ?_, ?_, rfl⟩
  · intro hempty
    simp at hempty
  · intro c hc
    simp only [String.toList_append, List.mem_append] at hc
    rcases hc with (hc | hc) | hc
    · exact isWordChar_of_isIdentifier htable c hc
    · have hdot : c = '.' := by simpa using hc
      rw [hdot]
      rfl
    · exact isWordChar_of_isIdentifier hkey c hc

/-! ## Where a condition ends -/

theorem prefixFree_sqlPlaceholders :
    PrefixFree SqlPlaceholders := by
  intro a b r s ha hb heq
  induction ha generalizing b with
  | last =>
      cases hb with
      | last => rfl
      | more _ => exact absurd (congrArg String.toList heq) (by simp)
  | more _ ih =>
      cases hb with
      | last => exact absurd (congrArg String.toList heq) (by simp)
      | more hrest =>
          rw [String.append_assoc, String.append_assoc, String.append_right_inj] at heq
          rw [ih hrest heq]

def sqlTests : List String :=
  ["= ?", "!= ?", "< ?", "<= ?", "> ?", ">= ?", "LIKE ?", "NOT LIKE ?", "IS NULL", "IS NOT NULL"]

theorem SqlTest.mem_sqlTests {test : String} (h : SqlTest test) :
    test ∈ sqlTests := by
  cases h with
  | compare op => cases op <;> decide
  | null | notNull => decide

theorem prefixFree_sqlTests :
    PrefixFree (· ∈ sqlTests) :=
  prefixFree_of_texts (by decide)

/-- What may follow the first word of a condition and its blank. -/
def sqlHeads : List String :=
  sqlTests ++ ["= 1", "IN (", "NOT IN (", "(SELECT * FROM "]

theorem prefixFree_sqlHeads :
    PrefixFree (· ∈ sqlHeads) :=
  prefixFree_of_texts (by decide)

/-- The rest of the test for a related row, word by word. -/
def SqlExistsRest : String → Prop :=
  Followed SqlWord fun _ => Followed (· = "WHERE ") fun _ =>
    Followed SqlWord fun _ => Followed (· = "= ") fun _ =>
      Followed SqlWord fun _ => Followed (· = "AND ") fun _ =>
        Followed SqlWord fun _ => Followed (· ∈ sqlTests) fun _ => (· = ")")

theorem prefixFree_sqlExistsRest :
    PrefixFree SqlExistsRest :=
  prefixFree_sqlWord.followed fun _ _ => (prefixFree_eq _).followed fun _ _ =>
    prefixFree_sqlWord.followed fun _ _ => (prefixFree_eq _).followed fun _ _ =>
      prefixFree_sqlWord.followed fun _ _ => (prefixFree_eq _).followed fun _ _ =>
        prefixFree_sqlWord.followed fun _ _ =>
          prefixFree_sqlTests.followed fun _ _ => prefixFree_eq _

/-- The rest of a condition, as what follows its first word announces it. -/
def SqlRest (head : String) : String → Prop :=
  if head = "(SELECT * FROM " then SqlExistsRest
  else if head = "IN (" ∨ head = "NOT IN (" then SqlPlaceholders
  else (· = "")

theorem prefixFree_sqlRest (head : String) :
    PrefixFree (SqlRest head) := by
  unfold SqlRest
  split
  next => exact prefixFree_sqlExistsRest
  next =>
    split
    next => exact prefixFree_sqlPlaceholders
    next => exact prefixFree_eq ""

def SqlScanned : String → Prop :=
  Followed SqlWord fun _ => Followed (· ∈ sqlHeads) SqlRest

theorem prefixFree_sqlScanned :
    PrefixFree SqlScanned :=
  prefixFree_sqlWord.followed fun _ _ =>
    prefixFree_sqlHeads.followed fun head _ => prefixFree_sqlRest head

theorem SqlScanned.of_head {word head rest text : String} (hword : SqlWord word)
    (hhead : head ∈ sqlHeads) (hrest : SqlRest head rest) (htext : text = word ++ (head ++ rest)) :
    SqlScanned text :=
  ⟨word, head ++ rest, hword, ⟨head, rest, hhead, hrest, rfl⟩, htext⟩

theorem sqlRest_of_mem_sqlTests {test : String} (h : test ∈ sqlTests) :
    SqlRest test "" := by
  have hexists : test ≠ "(SELECT * FROM " := by
    rintro rfl
    exact absurd h (by decide)
  have hlist : ¬ (test = "IN (" ∨ test = "NOT IN (") := by
    rintro (rfl | rfl)
    · exact absurd h (by decide)
    · exact absurd h (by decide)
  rw [SqlRest, if_neg hexists, if_neg hlist]

theorem SqlExistsRest.of_words {table related parent column test : String}
    (htable : SqlWord table) (hrelated : SqlWord related) (hparent : SqlWord parent)
    (hcolumn : SqlWord column) (htest : SqlTest test) :
    SqlExistsRest (table ++ ("WHERE " ++ (related ++ ("= " ++ (parent ++ ("AND " ++
      (column ++ (test ++ ")")))))))) :=
  ⟨_, _, htable, ⟨_, _, rfl, ⟨_, _, hrelated, ⟨_, _, rfl, ⟨_, _, hparent, ⟨_, _, rfl,
    ⟨_, _, hcolumn, ⟨_, _, htest.mem_sqlTests, rfl, rfl⟩, rfl⟩, rfl⟩, rfl⟩, rfl⟩, rfl⟩, rfl⟩, rfl⟩

theorem SqlCondition.scanned {text : String} (h : SqlCondition text) :
    SqlScanned text := by
  cases h with
  | @test column test hcolumn htest =>
      refine .of_head (sqlWord_of_isIdentifier hcolumn) ?_
        (sqlRest_of_mem_sqlTests htest.mem_sqlTests) ?_
      · exact List.mem_append_left _ htest.mem_sqlTests
      · rw [String.append_empty]
  | isIn hcolumn hlist =>
      have hhead : "IN (" ∈ sqlHeads := by decide
      refine .of_head (sqlWord_of_isIdentifier hcolumn) hhead hlist ?_
      rw [← String.toList_inj]
      simp
  | notIn hcolumn hlist =>
      have hhead : "NOT IN (" ∈ sqlHeads := by decide
      refine .of_head (sqlWord_of_isIdentifier hcolumn) hhead hlist ?_
      rw [← String.toList_inj]
      simp
  | never =>
      have hword : SqlWord "0 " := ⟨"0", by decide, List.all_eq_true.mp (by decide), rfl⟩
      have hhead : "= 1" ∈ sqlHeads := by decide
      exact .of_head hword hhead rfl rfl
  | always =>
      have hword : SqlWord "1 " := ⟨"1", by decide, List.all_eq_true.mp (by decide), rfl⟩
      have hhead : "= 1" ∈ sqlHeads := by decide
      exact .of_head hword hhead rfl rfl
  | related htable hkey hparent hparentKey hcolumn htest =>
      have hword : SqlWord "EXISTS " := ⟨"EXISTS", by decide, List.all_eq_true.mp (by decide), rfl⟩
      have hhead : "(SELECT * FROM " ∈ sqlHeads := by decide
      refine .of_head hword hhead
        (SqlExistsRest.of_words (sqlWord_of_isIdentifier htable) (sqlWord_dotted htable hkey)
          (sqlWord_dotted hparent hparentKey) (sqlWord_of_isIdentifier hcolumn) htest) ?_
      rw [← String.toList_inj]
      simp

theorem prefixFree_sqlCondition :
    PrefixFree SqlCondition := by
  intro a b r s ha hb heq
  exact prefixFree_sqlScanned ha.scanned hb.scanned heq

theorem SqlCondition.ne_parenthesis {text : String} (h : SqlCondition text) (r s : String) :
    text ++ r ≠ "(" ++ s := by
  intro heq
  obtain ⟨_, rest, ⟨word, hword, hchars, rfl⟩, _, rfl⟩ := h.scanned
  obtain ⟨c, cs, hcs⟩ := List.exists_cons_of_ne_nil (fun hnil => hword (String.toList_inj.mp hnil))
  have htexts := congrArg String.toList heq
  simp only [String.toList_append, hcs, List.cons_append] at htexts
  have hc : c = '(' := (List.cons.inj htexts).1
  have hwordChar : isWordChar c = true := hchars c (hcs ▸ List.mem_cons_self)
  rw [hc] at hwordChar
  exact absurd hwordChar (by decide)

/-! ## The conditions that are written -/

/-- The names that relations are written with are identifiers. -/
def Schema.NamesIdentifiers (schema : Schema) : Prop :=
  ∀ model name relation, schema.relation model name = .ok relation →
    isIdentifier relation.model ∧ isIdentifier relation.foreignKey ∧
      isIdentifier relation.localKey

def Scope.NamesIdentifiers : Scope → Prop
  | .plain => True
  | .model schema parent => schema.NamesIdentifiers ∧ isIdentifier parent

def Predicate.isGroup : Predicate → Bool
  | .group _ => true
  | .compare _ _ _ | .null _ _ | .isIn _ _ _ | .related _ _ _ _ => false

theorem isIdentifier_parentKey {relation : Relation} (hforeign : isIdentifier relation.foreignKey)
    (hlocal : isIdentifier relation.localKey) :
    isIdentifier relation.parentKey ∧ isIdentifier relation.relatedKey := by
  unfold Relation.parentKey Relation.relatedKey
  cases relation.kind with
  | hasOne | hasMany => exact ⟨hlocal, hforeign⟩
  | belongsTo => exact ⟨hforeign, hlocal⟩

theorem sqlTest_nullTest (negated : Bool) :
    ∃ test, SqlTest test ∧ nullTest negated = " " ++ test := by
  cases negated with
  | false => exact ⟨"IS NULL", .null, rfl⟩
  | true => exact ⟨"IS NOT NULL", .notNull, rfl⟩

theorem ColumnTest.exists_sqlTest (test : ColumnTest) :
    ∃ text, SqlTest text ∧ test.write placeholder = " " ++ text := by
  cases test with
  | compare op expected =>
      refine ⟨op.sql ++ " ?", .compare op, ?_⟩
      rw [ColumnTest.write, ← String.toList_inj]
      simp [placeholder]
  | null negated => exact sqlTest_nullTest negated

theorem sqlPlaceholders_map (first : Json) (rest : List Json) :
    SqlPlaceholders (", ".intercalate ((first :: rest).map placeholder) ++ ")") := by
  induction rest generalizing first with
  | nil => exact .last
  | cons next rest ih =>
      rw [List.map_cons, List.map_cons, String.intercalate_cons_cons, ← List.map_cons,
        String.append_assoc]
      exact .more (ih next)

theorem sqlCondition_writeList {column : String} (hcolumn : isIdentifier column)
    (values : List Json) (negated : Bool) :
    SqlCondition (writeList placeholder column values negated) := by
  cases values with
  | nil =>
      cases negated with
      | false => exact .never
      | true => exact .always
  | cons first rest =>
      rw [writeList, if_neg (by simp), String.append_assoc]
      cases negated with
      | false => exact .isIn hcolumn (sqlPlaceholders_map first rest)
      | true => exact .notIn hcolumn (sqlPlaceholders_map first rest)

theorem Predicate.WellFormed.sqlCondition {scope : Scope} {predicate : Predicate}
    (h : predicate.WellFormed scope) (hscope : scope.NamesIdentifiers)
    (hgroup : predicate.isGroup = false) :
    SqlCondition (predicate.write placeholder) := by
  cases predicate with
  | compare column op expected =>
      have hsame : (Predicate.compare column op expected).write placeholder =
          column ++ " " ++ (op.sql ++ " ?") := by
        rw [Predicate.write, ← String.toList_inj]
        simp [placeholder]
      rw [hsame]
      exact .test h (.compare op)
  | null column negated =>
      obtain ⟨test, htest, hwrite⟩ := sqlTest_nullTest negated
      rw [Predicate.write, hwrite, ← String.append_assoc]
      exact .test h htest
  | isIn column values negated => exact sqlCondition_writeList h values negated
  | related name correlation column test =>
      rw [Predicate.WellFormed] at h
      obtain ⟨schema, model, relation, op, value, rfl, hrelation, hcolumn, rfl, _⟩ := h
      obtain ⟨text, htext, hwrite⟩ := test.exists_sqlTest
      obtain ⟨hmodel, hforeign, hlocal⟩ := hscope.1 model name relation hrelation
      obtain ⟨hparentKey, hrelatedKey⟩ := isIdentifier_parentKey hforeign hlocal
      have hcondition := SqlCondition.related hmodel hrelatedKey hscope.2 hparentKey hcolumn htext
      rw [Predicate.write, hwrite]
      exact hcondition
  | group terms => cases hgroup

end QueryShape
