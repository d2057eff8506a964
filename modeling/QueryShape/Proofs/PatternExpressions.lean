import Mathlib.Data.List.Induction
import QueryShape.Proofs.CompactTexts
import QueryShape.Proofs.PatternPieces
import QueryShape.Proofs.SharedPatterns

/-!
# Patterns as regular expressions

A pattern can be written as a regular expression: `.*` for a run of characters, `.` for one
character, and every other character for itself, behind a backslash if it is a sign of the
notation.  The dot stands for every character, newlines included, a character for its case
variants, and anchors at both ends keep a search from skipping anything.  So the expression
is found in a text exactly if the text can be cut into the pieces of the pattern.
-/

namespace QueryShape

/-- The signs of the notation, which a backslash makes ordinary characters. -/
def isExpressionSign (c : Char) : Bool :=
  "\\.+*?()|[]\x7b\x7d^$#&-~".toList.contains c

inductive ExpressionPart where
  | start
  | finish
  | any
  | anyRun
  | literal (c : Char)

def expressionOfChar (c : Char) : List Char :=
  if c = '%' then ['.', '*']
  else if c = '_' then ['.']
  else if isExpressionSign c then ['\\', c]
  else [c]

def expressionOf (pattern : List Char) : List Char :=
  '^' :: pattern.flatMap expressionOfChar ++ ['$']

/-- Reads an expression of anchors, dots, runs of any characters, and characters. -/
def expressionParts? : List Char → Option (List ExpressionPart)
  | [] => some []
  | '^' :: cs => (expressionParts? cs).map (.start :: ·)
  | '$' :: cs => (expressionParts? cs).map (.finish :: ·)
  | '.' :: '*' :: cs => (expressionParts? cs).map (.anyRun :: ·)
  | '.' :: cs => (expressionParts? cs).map (.any :: ·)
  | '\\' :: c :: cs =>
    if isExpressionSign c then (expressionParts? cs).map (.literal c :: ·) else none
  | c :: cs => if isExpressionSign c then none else (expressionParts? cs).map (.literal c :: ·)

/-- Whether the parts of an expression match from a place in a text on, with characters before and
after it. -/
def matchesFrom (before after : List Char) : List ExpressionPart → Prop
  | [] => True
  | .start :: parts => before = [] ∧ matchesFrom before after parts
  | .finish :: parts => after = [] ∧ matchesFrom before after parts
  | .any :: parts =>
    ∃ c rest, after = c :: rest ∧ matchesFrom (before ++ [c]) rest parts
  | .anyRun :: parts =>
    ∃ run rest, after = run ++ rest ∧ matchesFrom (before ++ run) rest parts
  | .literal d :: parts =>
    ∃ c rest, after = c :: rest ∧ SameUpToCase c d ∧ matchesFrom (before ++ [c]) rest parts

/-- A search for an expression may start at any place. -/
def FoundIn (parts : List ExpressionPart) (text : List Char) : Prop :=
  ∃ before after, text = before ++ after ∧ matchesFrom before after parts

/-! ## Reading the expression of a pattern -/

def ExpressionPart.ofChar (c : Char) : ExpressionPart :=
  if c = '%' then .anyRun else if c = '_' then .any else .literal c

theorem expressionParts?_dot {cs : List Char} (h : cs.head? ≠ some '*') :
    expressionParts? ('.' :: cs) = (expressionParts? cs).map (.any :: ·) := by
  cases cs with
  | nil => rfl
  | cons c cs =>
      have hstar : c ≠ '*' := fun heq => h (congrArg some heq)
      simp [expressionParts?, hstar]

theorem expressionParts?_literal {c : Char} (h : isExpressionSign c = false) (cs : List Char) :
    expressionParts? (c :: cs) = (expressionParts? cs).map (.literal c :: ·) := by
  have hne {d : Char} (hd : isExpressionSign d = true) : c ≠ d := by
    rintro rfl
    rw [hd] at h
    cases h
  have hdot : c ≠ '.' := hne (by decide +kernel)
  have hbackslash : c ≠ '\\' := hne (by decide +kernel)
  rw [expressionParts?, if_neg (Bool.eq_false_iff.mp h)]
  · exact hne (by decide +kernel)
  · exact hne (by decide +kernel)
  · exact fun _ heq _ => hdot heq
  · exact hdot
  · exact fun _ _ heq _ => hbackslash heq

theorem head?_expressionOfChar_ne_star (c : Char) (cs : List Char) :
    (expressionOfChar c ++ cs).head? ≠ some '*' := by
  unfold expressionOfChar
  split
  next => simp
  next =>
    split
    next => simp
    next =>
      split
      next => simp
      next hsign =>
        rintro heq
        cases heq
        exact hsign (by decide +kernel)

/-- The characters of a pattern are read back as its parts: no sign is left without a backslash,
and no run begins where a single dot was written. -/
theorem expressionParts?_flatMap (pattern : List Char) :
    expressionParts? (pattern.flatMap expressionOfChar ++ ['$']) =
      some (pattern.map ExpressionPart.ofChar ++ [.finish]) := by
  induction pattern with
  | nil => rfl
  | cons p pattern ih =>
      rw [List.flatMap_cons, List.append_assoc, List.map_cons, expressionOfChar,
        ExpressionPart.ofChar]
      split
      next =>
        have hread : ∀ cs, expressionParts? (['.', '*'] ++ cs) =
            (expressionParts? cs).map (.anyRun :: ·) := fun _ => rfl
        rw [hread, ih]
        rfl
      next =>
        split
        next =>
          have hstar :
              (pattern.flatMap expressionOfChar ++ ['$']).head? ≠ some '*' := by
            cases pattern with
            | nil => simp
            | cons q pattern =>
                rw [List.flatMap_cons, List.append_assoc]
                exact head?_expressionOfChar_ne_star q _
          rw [List.singleton_append, expressionParts?_dot hstar, ih]
          rfl
        next =>
          split
          next hsign =>
            have hread : ∀ cs, expressionParts? (['\\', p] ++ cs) =
                (expressionParts? cs).map (.literal p :: ·) := fun _ => if_pos hsign
            rw [hread, ih]
            rfl
          next hsign =>
            rw [List.singleton_append,
              expressionParts?_literal (Bool.eq_false_iff.mpr hsign), ih]
            rfl

theorem expressionParts?_expressionOf (pattern : List Char) :
    expressionParts? (expressionOf pattern) =
      some (.start :: pattern.map ExpressionPart.ofChar ++ [.finish]) := by
  have hread : ∀ cs, expressionParts? ('^' :: cs) = (expressionParts? cs).map (.start :: ·) :=
    fun _ => rfl
  rw [expressionOf, List.cons_append, hread, expressionParts?_flatMap]
  rfl

/-! ## Searching for the expression of a pattern -/

theorem matchesFrom_iff_matchesPieces {before after pattern : List Char} :
    matchesFrom before after (pattern.map ExpressionPart.ofChar ++ [.finish]) ↔
      MatchesPieces SameUpToCase pattern after := by
  induction pattern generalizing before after with
  | nil =>
      rw [matchesPieces_nil_iff]
      exact and_iff_left trivial
  | cons p pattern ih =>
      rw [List.map_cons, List.cons_append, ExpressionPart.ofChar]
      split
      next hrun =>
        simp only [hrun, matchesFrom, ih, matchesPieces_percent_iff]
      next hrun =>
        split
        next hany =>
          simp only [hany, matchesFrom, ih, matchesPieces_underscore_iff]
        next hany =>
          simp only [matchesFrom, ih, matchesPieces_char_iff hrun hany]

/-- The anchors leave nothing before or after what is found. -/
theorem foundIn_expressionOf_iff {pattern text : List Char} :
    FoundIn (.start :: pattern.map ExpressionPart.ofChar ++ [.finish]) text ↔
      MatchesPieces SameUpToCase pattern text := by
  constructor
  · rintro ⟨_, after, rfl, rfl, hafter⟩
    exact matchesFrom_iff_matchesPieces.mp hafter
  · intro h
    exact ⟨[], text, rfl, rfl, matchesFrom_iff_matchesPieces.mpr h⟩

/-! ## Comparisons with patterns -/

theorem Json.likeText?_eq_none_iff {value : Json} :
    value.likeText? = none ↔ value = .null := by
  cases value <;> simp [Json.likeText?]

theorem Comparison.like_holds_iff {actual expected : Json} :
    Comparison.like.holds actual expected = true ↔
      ∃ text pattern, OperandText actual text ∧ OperandText expected pattern ∧
        MatchesPieces SameUpToCase pattern text := by
  have hholds :
      Comparison.like.holds actual expected = true ↔
        ∃ text pattern, actual.likeText? = some text ∧ expected.likeText? = some pattern ∧
          QueryShape.like text pattern = true := by
    have hlike :
        Comparison.like.holds actual expected = (likeValues actual expected == some true) := rfl
    rw [hlike, likeValues, beq_iff_eq]
    cases actual.likeText? <;> cases expected.likeText? <;> simp
  simp only [hholds, operandText_iff, like_iff_matchesPieces]
  constructor
  · rintro ⟨text, pattern, htext, hpattern, hmatches⟩
    exact ⟨_, _, ⟨text, htext, rfl⟩, ⟨pattern, hpattern, rfl⟩, hmatches⟩
  · rintro ⟨_, _, ⟨text, htext, rfl⟩, ⟨pattern, hpattern, rfl⟩, hmatches⟩
    exact ⟨text, pattern, htext, hpattern, hmatches⟩

theorem Comparison.notLike_holds_iff {actual expected : Json} :
    Comparison.notLike.holds actual expected = true ↔
      actual ≠ .null ∧ expected ≠ .null ∧ Comparison.like.holds actual expected = false := by
  have hlike :
      Comparison.like.holds actual expected = (likeValues actual expected == some true) := rfl
  have hnotLike :
      Comparison.notLike.holds actual expected = (likeValues actual expected == some false) := rfl
  rw [hlike, hnotLike, likeValues, ne_eq, ne_eq, ← Json.likeText?_eq_none_iff,
    ← Json.likeText?_eq_none_iff]
  cases actual.likeText? <;> cases expected.likeText? <;> simp

def PatternCache.after (history : List (Comparison × Json × Json)) : PatternCache :=
  history.foldl (fun cache (op, actual, expected) => (op.search actual expected cache).2) []

theorem PatternCache.sound_after (history : List (Comparison × Json × Json)) :
    (PatternCache.after history).Sound := by
  induction history using List.reverseRecOn with
  | nil => exact PatternCache.sound_nil
  | append_singleton history entry ih =>
      rw [PatternCache.after, List.foldl_append]
      exact (entry.1.tells_search entry.2.1 entry.2.2 _ ih).2

/-- A value is like a pattern exactly if its text can be cut into the pieces of the pattern, which
is what a search for the expression of the pattern finds.  It is not like the pattern if neither
is null and it is not like it.  What was compared before does not matter. -/
theorem like_cuts_into_pieces (actual expected : Json) :
    (Comparison.like.holds actual expected = true ↔
        ∃ text pattern, OperandText actual text ∧ OperandText expected pattern ∧
          MatchesPieces SameUpToCase pattern text) ∧
      (Comparison.like.holds actual expected = true ↔
        ∃ text pattern parts, OperandText actual text ∧ OperandText expected pattern ∧
          expressionParts? (expressionOf pattern) = some parts ∧ FoundIn parts text) ∧
      (∀ c d : Char, c.toNat < 128 → d.toNat < 128 →
        (SameUpToCase c d ↔ c.toLower = d.toLower)) ∧
      (Comparison.notLike.holds actual expected = true ↔
        actual ≠ .null ∧ expected ≠ .null ∧ Comparison.like.holds actual expected = false) ∧
      ∀ (history : List (Comparison × Json × Json)) (op : Comparison),
        (op.search actual expected (PatternCache.after history)).1 =
          op.holds actual expected := by
  refine ⟨Comparison.like_holds_iff, ?_, ?_, Comparison.notLike_holds_iff, ?_⟩
  · simp only [Comparison.like_holds_iff, expressionParts?_expressionOf, Option.some.injEq,
      exists_and_left, exists_eq_left', foundIn_expressionOf_iff]
  · intro c d hc hd
    exact sameUpToCase_iff_of_ascii hc hd
  · intro history op
    exact (op.tells_search actual expected _ (PatternCache.sound_after history)).1

/-- A newline in a run, signs of the notation as themselves, letters in another case, and operands
that are no strings. -/
theorem mixed_operands_match :
    let text : String := "one\n(A.B)\u212A!"
    let pattern : String := "%(a.b)k_"
    let pieces : List (List Char) :=
      ["one\n".toList, ['('], ['A'], ['.'], ['B'], [')'], ['\u212A'], ['!']]
    let floats : List Json :=
      [.number (.float ⟨false, 0x3FF8000000000000, by decide⟩),
        .number (.float ⟨false, 0x4059000000000000, by decide⟩),
        .number (.float ⟨false, 0x4341C37937E08000, by decide⟩),
        .number (.float ⟨true, 0x3EB0C6F7A0B5ED8D, by decide⟩)]
    let value : Json :=
      .object [("a\n", .array (.number (.int (-5)) :: floats)), ("", .array []),
        ("s", .array [.text "\"\x01\\é", .null, .bool true, .object []])]
    let valueText : String :=
      "\x7b\"a\\n\":[-5,1.5,100.0,1e+16,-1e-6],\"\":[]," ++
        "\"s\":[\"\\\"\\u0001\\\\é\",null,true,\x7b\x7d]\x7d"
    text.toList = pieces.flatten ∧
      List.Forall₂ (MatchesPiece SameUpToCase) pattern.toList pieces ∧
      Comparison.like.holds (.text text) (.text pattern) = true ∧
      Comparison.like.holds (.text "(AxB)K!") (.text pattern) = false ∧
      Comparison.notLike.holds (.text "(AxB)K!") (.text pattern) = true ∧
      OperandText value valueText.toList ∧
      Comparison.like.holds (.array [.bool true, floats[0]]) (.text "[TRUE,1._]") = true ∧
      Comparison.like.holds (.text "-5") (.number (.int (-5))) = true ∧
      Comparison.like.holds .null (.text "%") = false ∧
      Comparison.notLike.holds .null (.text "%") = false ∧
      ¬ SameUpToCase 'ß' 's' := by
  intro text pattern pieces floats value valueText
  have htext : text.toList = pieces.flatten := by decide +kernel
  have hpieces : List.Forall₂ (MatchesPiece SameUpToCase) pattern.toList pieces := by
    have hpattern : pattern.toList = ['%', '(', 'a', '.', 'b', ')', 'k', '_'] := by decide +kernel
    rw [hpattern]
    apply List.Forall₂.cons (.run _)
    iterate 6 apply List.Forall₂.cons (.char (by decide) (by decide) (by decide +kernel))
    exact .cons (.any '!') .nil
  have hmatches : MatchesPieces SameUpToCase pattern.toList text.toList :=
    ⟨pieces, htext, hpieces⟩
  have hother : Comparison.like.holds (.text "(AxB)K!") (.text pattern) = false := by
    decide +kernel
  have hvalue : OperandText value valueText.toList := by
    have hrender : value.render = valueText := by decide +kernel
    rw [← hrender]
    exact .other (by simp [value]) (by simp [value]) (compactText_render value)
  refine ⟨htext, hpieces, ?_, hother, ?_, hvalue, ?_, ?_, ?_, ?_, ?_⟩
  · exact (like_cuts_into_pieces _ _).1.mpr ⟨_, _, .string text, .string pattern, hmatches⟩
  · exact (like_cuts_into_pieces _ _).2.2.2.1.mpr ⟨by simp, by simp, hother⟩
  all_goals decide +kernel

end QueryShape
