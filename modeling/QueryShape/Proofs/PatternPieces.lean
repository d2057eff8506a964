import Mathlib.Data.List.Forall2
import QueryShape.Match.Like
import QueryShape.Proofs.CaseVariants

/-!
# Pieces of a text

A pattern matches a text if the text can be cut into pieces, one for each character of the
pattern and in its order: any run for `%`, one character for `_`, and one case variant of every
other character.  The rows of a pattern decide this.  The row of a pattern tells for each suffix
of the text whether the suffix can be cut, and a character in front of the pattern takes its
piece from the start of the suffix.  Folding the case first is the same as comparing folded
characters, because no other character folds to `%` or `_`.
-/

namespace QueryShape

/-- The pieces that a character of a pattern stands for. -/
inductive MatchesPiece (same : Char → Char → Prop) : Char → List Char → Prop
  | run (piece : List Char) : MatchesPiece same '%' piece
  | any (c : Char) : MatchesPiece same '_' [c]
  | char {p c : Char} (hrun : p ≠ '%') (hany : p ≠ '_') (hsame : same c p) :
      MatchesPiece same p [c]

def MatchesPieces (same : Char → Char → Prop) (pattern text : List Char) : Prop :=
  ∃ pieces : List (List Char),
    text = pieces.flatten ∧ List.Forall₂ (MatchesPiece same) pattern pieces

section

variable {same : Char → Char → Prop} {p : Char} {pattern text piece : List Char}

theorem matchesPiece_percent : MatchesPiece same '%' piece :=
  .run piece

theorem matchesPiece_underscore_iff :
    MatchesPiece same '_' piece ↔ ∃ c, piece = [c] := by
  constructor
  · intro h
    cases h with
    | any c => exact ⟨c, rfl⟩
    | char _ hany _ => exact absurd rfl hany
  · rintro ⟨c, rfl⟩
    exact .any c

theorem matchesPiece_char_iff (hrun : p ≠ '%') (hany : p ≠ '_') :
    MatchesPiece same p piece ↔ ∃ c, piece = [c] ∧ same c p := by
  constructor
  · intro h
    cases h with
    | run => exact absurd rfl hrun
    | any => exact absurd rfl hany
    | char _ _ hsame => exact ⟨_, rfl, hsame⟩
  · rintro ⟨c, rfl, hsame⟩
    exact .char hrun hany hsame

theorem matchesPieces_nil_iff :
    MatchesPieces same [] text ↔ text = [] := by
  constructor
  · rintro ⟨_, rfl, h⟩
    cases h
    rfl
  · rintro rfl
    exact ⟨[], rfl, .nil⟩

theorem matchesPieces_cons_iff :
    MatchesPieces same (p :: pattern) text ↔
      ∃ piece rest, text = piece ++ rest ∧ MatchesPiece same p piece ∧
        MatchesPieces same pattern rest := by
  constructor
  · rintro ⟨_, rfl, h⟩
    cases h with
    | @cons _ piece _ pieces hpiece hpieces =>
        exact ⟨piece, pieces.flatten, rfl, hpiece, pieces, rfl, hpieces⟩
  · rintro ⟨piece, _, rfl, hpiece, pieces, rfl, hpieces⟩
    exact ⟨piece :: pieces, rfl, .cons hpiece hpieces⟩

theorem matchesPieces_percent_iff :
    MatchesPieces same ('%' :: pattern) text ↔
      ∃ run rest, text = run ++ rest ∧ MatchesPieces same pattern rest := by
  simp only [matchesPieces_cons_iff, matchesPiece_percent, true_and]

theorem matchesPieces_underscore_iff :
    MatchesPieces same ('_' :: pattern) text ↔
      ∃ c rest, text = c :: rest ∧ MatchesPieces same pattern rest := by
  simp only [matchesPieces_cons_iff, matchesPiece_underscore_iff]
  constructor
  · rintro ⟨_, rest, rfl, ⟨c, rfl⟩, hrest⟩
    exact ⟨c, rest, rfl, hrest⟩
  · rintro ⟨c, rest, rfl, hrest⟩
    exact ⟨[c], rest, rfl, ⟨c, rfl⟩, hrest⟩

theorem matchesPieces_char_iff (hrun : p ≠ '%') (hany : p ≠ '_') :
    MatchesPieces same (p :: pattern) text ↔
      ∃ c rest, text = c :: rest ∧ same c p ∧ MatchesPieces same pattern rest := by
  simp only [matchesPieces_cons_iff, matchesPiece_char_iff hrun hany]
  constructor
  · rintro ⟨_, rest, rfl, ⟨c, rfl, hsame⟩, hrest⟩
    exact ⟨c, rest, rfl, hsame, hrest⟩
  · rintro ⟨c, rest, rfl, hsame, hrest⟩
    exact ⟨[c], rest, rfl, ⟨c, rfl, hsame⟩, hrest⟩

end

/-! ## Rows -/

/-- A row has one entry for each suffix of a text, the longest first, which tells whether the
suffix satisfies a property. -/
def RowTells (holds : List Char → Prop) : List Char → List Bool → Prop
  | [], row => ∃ here, row = [here] ∧ (here = true ↔ holds [])
  | c :: text, row =>
    ∃ here later, row = here :: later ∧ (here = true ↔ holds (c :: text)) ∧
      RowTells holds text later

namespace RowTells

variable {holds other : List Char → Prop} {text : List Char} {row : List Bool}

theorem headD_iff (h : RowTells holds text row) :
    row.headD false = true ↔ holds text := by
  cases text with
  | nil =>
      obtain ⟨here, rfl, hhere⟩ := h
      exact hhere
  | cons c text =>
      obtain ⟨here, later, rfl, hhere, _⟩ := h
      exact hhere

theorem congr (h : RowTells holds text row) (hiff : ∀ suffix, holds suffix ↔ other suffix) :
    RowTells other text row := by
  have heq : holds = other := funext fun suffix => propext (hiff suffix)
  rwa [← heq]

theorem emptyRow (text : List Char) :
    RowTells (fun suffix => suffix = []) text (QueryShape.emptyRow text) := by
  induction text with
  | nil => exact ⟨true, rfl, by simp⟩
  | cons c text ih => exact ⟨false, _, rfl, by simp, ih⟩

/-- A run in front may be empty or take the next character and go on. -/
theorem anyRunRow (h : RowTells holds text row) :
    RowTells (fun suffix => ∃ run rest, suffix = run ++ rest ∧ holds rest) text
      (QueryShape.anyRunRow row) := by
  induction text generalizing row with
  | nil =>
      obtain ⟨here, rfl, hhere⟩ := h
      refine ⟨here, by simp [QueryShape.anyRunRow], hhere.trans ?_⟩
      constructor
      · intro hempty
        exact ⟨[], [], rfl, hempty⟩
      · rintro ⟨run, rest, hsplit, hrest⟩
        rwa [(List.append_eq_nil_iff.mp hsplit.symm).2] at hrest
  | cons c text ih =>
      obtain ⟨here, later, rfl, hhere, hlater⟩ := h
      have hafter := ih hlater
      refine ⟨_, _, rfl, ?_, hafter⟩
      rw [Bool.or_eq_true, hhere, hafter.headD_iff]
      constructor
      · rintro (hwhole | ⟨run, rest, rfl, hrest⟩)
        · exact ⟨[], c :: text, rfl, hwhole⟩
        · exact ⟨c :: run, rest, rfl, hrest⟩
      · rintro ⟨run, rest, hsplit, hrest⟩
        cases run with
        | nil =>
            left
            rwa [hsplit]
        | cons first run =>
            right
            cases hsplit
            exact ⟨run, rest, rfl, hrest⟩

theorem oneCharRow (test : Char → Bool) (h : RowTells holds text row) :
    RowTells (fun suffix => ∃ c rest, suffix = c :: rest ∧ test c = true ∧ holds rest) text
      (QueryShape.oneCharRow test text row) := by
  induction text generalizing row with
  | nil => exact ⟨false, rfl, by simp⟩
  | cons c text ih =>
      obtain ⟨here, later, rfl, _, hlater⟩ := h
      refine ⟨_, _, rfl, ?_, ih hlater⟩
      rw [Bool.and_eq_true, hlater.headD_iff]
      constructor
      · rintro ⟨htest, hrest⟩
        exact ⟨c, text, rfl, htest, hrest⟩
      · rintro ⟨_, _, hsplit, htest, hrest⟩
        cases hsplit
        exact ⟨htest, hrest⟩

/-- The row of a pattern tells which suffixes can be cut into its pieces. -/
theorem patternRow (text pattern : List Char) :
    RowTells (MatchesPieces (fun c p => c = p) pattern) text
      (QueryShape.patternRow text pattern) := by
  induction pattern with
  | nil => exact (emptyRow text).congr fun suffix => matchesPieces_nil_iff.symm
  | cons p pattern ih =>
      rw [QueryShape.patternRow.eq_def]
      split
      next heq => cases heq
      next heq =>
        cases heq
        exact ih.anyRunRow.congr fun suffix => matchesPieces_percent_iff.symm
      next heq =>
        cases heq
        refine (ih.oneCharRow fun _ => true).congr fun suffix => ?_
        simp only [matchesPieces_underscore_iff, true_and]
      next hrun hany heq =>
        cases heq
        refine (ih.oneCharRow fun c => c == p).congr fun suffix => ?_
        simp only [matchesPieces_char_iff hrun hany, beq_iff_eq]

end RowTells

/-! ## Folding -/

theorem target_le_of_mem_simpleFoldings :
    ∀ run ∈ simpleFoldings, 0x61 ≤ run.target := by
  decide +kernel

/-- A folding leaves a character alone or gives one that is no sign before the small letters. -/
theorem foldCase_eq_self_or (c : Char) :
    foldCase c = c ∨ 0x61 ≤ (foldCase c).toNat := by
  have hfolding : Folding c (foldCase c) := folding_iff.mpr rfl
  generalize foldCase c = folded at hfolding
  cases hfolding with
  | itself => exact .inl rfl
  | run h =>
      cases h with
      | place hrun k _ _ htarget =>
          right
          have hlow := target_le_of_mem_simpleFoldings _ hrun
          omega

theorem foldCase_eq_iff {c sign : Char} (hfixed : foldCase sign = sign)
    (hhigh : sign.toNat < 0x61) :
    foldCase c = sign ↔ c = sign := by
  constructor
  · intro h
    rcases foldCase_eq_self_or c with hself | hletter
    · rw [← hself, h]
    · rw [h] at hletter
      omega
  · rintro rfl
    exact hfixed

theorem foldCase_eq_percent_iff {c : Char} :
    foldCase c = '%' ↔ c = '%' :=
  foldCase_eq_iff (by decide +kernel) (by decide)

theorem foldCase_eq_underscore_iff {c : Char} :
    foldCase c = '_' ↔ c = '_' :=
  foldCase_eq_iff (by decide +kernel) (by decide)

theorem matchesPieces_map_foldCase_iff {pattern text : List Char} :
    MatchesPieces (fun c p => c = p) (pattern.map foldCase) (text.map foldCase) ↔
      MatchesPieces SameUpToCase pattern text := by
  induction pattern generalizing text with
  | nil => rw [List.map_nil, matchesPieces_nil_iff, matchesPieces_nil_iff, List.map_eq_nil_iff]
  | cons p pattern ih =>
      rw [List.map_cons]
      by_cases hrun : p = '%'
      · rw [hrun, foldCase_eq_percent_iff.mpr rfl, matchesPieces_percent_iff,
          matchesPieces_percent_iff]
        constructor
        · rintro ⟨_, _, hsplit, hrest⟩
          obtain ⟨run, rest, rfl, rfl, rfl⟩ := List.map_eq_append_iff.mp hsplit
          exact ⟨run, rest, rfl, ih.mp hrest⟩
        · rintro ⟨run, rest, rfl, hrest⟩
          exact ⟨run.map foldCase, rest.map foldCase, List.map_append, ih.mpr hrest⟩
      · by_cases hany : p = '_'
        · rw [hany, foldCase_eq_underscore_iff.mpr rfl, matchesPieces_underscore_iff,
            matchesPieces_underscore_iff]
          constructor
          · rintro ⟨_, _, hsplit, hrest⟩
            obtain ⟨c, rest, rfl, rfl, rfl⟩ := List.map_eq_cons_iff.mp hsplit
            exact ⟨c, rest, rfl, ih.mp hrest⟩
          · rintro ⟨c, rest, rfl, hrest⟩
            exact ⟨foldCase c, rest.map foldCase, rfl, ih.mpr hrest⟩
        · rw [matchesPieces_char_iff (mt foldCase_eq_percent_iff.mp hrun)
            (mt foldCase_eq_underscore_iff.mp hany), matchesPieces_char_iff hrun hany]
          constructor
          · rintro ⟨_, _, hsplit, hsame, hrest⟩
            obtain ⟨c, rest, rfl, rfl, rfl⟩ := List.map_eq_cons_iff.mp hsplit
            exact ⟨c, rest, rfl, sameUpToCase_iff.mpr hsame, ih.mp hrest⟩
          · rintro ⟨c, rest, rfl, hsame, hrest⟩
            exact ⟨foldCase c, rest.map foldCase, rfl, sameUpToCase_iff.mp hsame, ih.mpr hrest⟩

/-- A text is like a pattern exactly if it can be cut into the pieces of the pattern. -/
theorem like_iff_matchesPieces {text pattern : String} :
    like text pattern = true ↔ MatchesPieces SameUpToCase pattern.toList text.toList := by
  rw [like, (RowTells.patternRow _ _).headD_iff, matchesPieces_map_foldCase_iff]

end QueryShape
