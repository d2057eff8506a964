import QueryShape.Proofs.Outcomes
import QueryShape.Proofs.TrimmedTexts
import QueryShape.Relationship.Parser

/-!
# Short forms of relationships

A short form is a name, and after the first colon the columns between commas.  Which
texts these are is said without splitting one, and what is read from a text is the
only short form that it is.
-/

namespace QueryShape

/-! ## Commas -/

/-- The pieces of a text between its commas. -/
structure CommaPieces (cs : List Char) (pieces : List (List Char)) : Prop where
  nonempty : pieces ≠ []
  plain : ∀ piece ∈ pieces, ',' ∉ piece
  text : [','].intercalate pieces = cs

theorem splitCommas_ne_nil (cs : List Char) :
    splitCommas cs ≠ [] := by
  induction cs with
  | nil => exact List.cons_ne_nil [] []
  | cons c cs ih =>
      obtain ⟨piece, rest, hpieces⟩ := List.exists_cons_of_ne_nil ih
      rw [splitCommas] at hpieces ⊢
      rw [List.foldr_cons, hpieces]
      show (if c = ',' then [] :: piece :: rest else (c :: piece) :: rest) ≠ []
      split <;> exact List.cons_ne_nil _ _

theorem splitCommas_comma (cs : List Char) :
    splitCommas (',' :: cs) = [] :: splitCommas cs := by
  obtain ⟨piece, rest, hpieces⟩ := List.exists_cons_of_ne_nil (splitCommas_ne_nil cs)
  rw [hpieces]
  rw [splitCommas] at hpieces ⊢
  rw [List.foldr_cons, hpieces]
  rfl

theorem splitCommas_cons {c : Char} {cs piece : List Char} {rest : List (List Char)}
    (hc : c ≠ ',') (h : splitCommas cs = piece :: rest) :
    splitCommas (c :: cs) = (c :: piece) :: rest := by
  rw [splitCommas] at h ⊢
  rw [List.foldr_cons, h]
  exact if_neg hc

theorem splitCommas_append {piece : List Char} (h : ',' ∉ piece) (cs : List Char) :
    splitCommas (piece ++ ',' :: cs) = piece :: splitCommas cs := by
  induction piece with
  | nil => exact splitCommas_comma cs
  | cons c piece ih =>
      rw [List.mem_cons, not_or] at h
      exact splitCommas_cons (Ne.symm h.1) (ih h.2)

theorem splitCommas_of_not_mem {piece : List Char} (h : ',' ∉ piece) :
    splitCommas piece = [piece] := by
  induction piece with
  | nil => rfl
  | cons c piece ih =>
      rw [List.mem_cons, not_or] at h
      exact splitCommas_cons (Ne.symm h.1) (ih h.2)

theorem CommaPieces.splitCommas_eq {cs : List Char} {pieces : List (List Char)}
    (h : CommaPieces cs pieces) :
    splitCommas cs = pieces := by
  obtain ⟨hnonempty, hplain, rfl⟩ := h
  induction pieces with
  | nil => exact absurd rfl hnonempty
  | cons piece rest ih =>
      have hpiece : ',' ∉ piece := hplain piece List.mem_cons_self
      cases rest with
      | nil =>
          rw [List.intercalate_singleton]
          exact splitCommas_of_not_mem hpiece
      | cons next rest =>
          have hrest := ih (List.cons_ne_nil next rest) fun other hother =>
            hplain other (List.mem_cons_of_mem piece hother)
          rw [List.intercalate_cons_cons, List.append_assoc]
          show splitCommas (piece ++ ',' :: [','].intercalate (next :: rest)) = _
          rw [splitCommas_append hpiece, hrest]

theorem commaPieces_splitCommas (cs : List Char) :
    CommaPieces cs (splitCommas cs) := by
  induction cs with
  | nil => exact ⟨List.cons_ne_nil [] [], by simp [splitCommas], rfl⟩
  | cons c cs ih =>
      obtain ⟨piece, rest, hpieces⟩ := List.exists_cons_of_ne_nil ih.nonempty
      rw [hpieces] at ih
      by_cases hc : c = ','
      · rw [hc, splitCommas_comma, hpieces]
        refine ⟨List.cons_ne_nil _ _, ?_, ?_⟩
        · exact List.forall_mem_cons.mpr ⟨List.not_mem_nil, ih.plain⟩
        · rw [List.intercalate_cons_cons, ih.text]
          rfl
      · rw [splitCommas_cons hc hpieces]
        have hplain := List.forall_mem_cons.mp ih.plain
        refine ⟨List.cons_ne_nil _ _, ?_, ?_⟩
        · refine List.forall_mem_cons.mpr ⟨?_, hplain.2⟩
          rw [List.mem_cons, not_or]
          exact ⟨Ne.symm hc, hplain.1⟩
        · rw [← ih.text]
          cases rest <;> rfl

/-! ## Short forms -/

namespace Relationship

/-- `name` or `name:column,column`, where blanks may stand around each part. -/
inductive ShortForm : List Char → List Char → List (List Char) → Prop
  | name {cs : List Char} (h : ':' ∉ cs) : ShortForm cs (trim cs) []
  | columns {before after : List Char} {pieces : List (List Char)} (h : ':' ∉ before)
      (hpieces : CommaPieces after pieces) :
      ShortForm (before ++ ':' :: after) (trim before)
        ((pieces.map trim).filter (!·.isEmpty))

theorem ne_colon_of_not_mem {cs : List Char} (h : ':' ∉ cs) :
    ∀ c ∈ cs, (c != ':') = true := by
  intro c hc
  have hne : c ≠ ':' := fun heq => h (heq ▸ hc)
  simp [hne]

theorem takeWhile_append_colon {before after : List Char} (h : ':' ∉ before) :
    (before ++ ':' :: after).takeWhile (· != ':') = before := by
  rw [List.takeWhile_append_of_pos (ne_colon_of_not_mem h),
    List.takeWhile_cons_of_neg (by simp), List.append_nil]

theorem dropWhile_append_colon {before after : List Char} (h : ':' ∉ before) :
    (before ++ ':' :: after).dropWhile (· != ':') = ':' :: after := by
  rw [List.dropWhile_append_of_pos (ne_colon_of_not_mem h),
    List.dropWhile_cons_of_neg (by simp)]

/-- The short form of a text is the one that the first colon gives. -/
theorem shortForm_iff {cs name : List Char} {columns : List (List Char)} :
    ShortForm cs name columns ↔
      name = trim (cs.takeWhile (· != ':')) ∧
        columns = ((splitCommas ((cs.dropWhile (· != ':')).drop 1)).map trim).filter
          (!·.isEmpty) := by
  constructor
  · intro h
    cases h with
    | name h =>
        have hne := ne_colon_of_not_mem h
        rw [List.takeWhile_eq_self_iff.mpr hne, List.dropWhile_eq_nil_iff.mpr hne]
        exact ⟨rfl, rfl⟩
    | columns h hpieces =>
        rw [takeWhile_append_colon h, dropWhile_append_colon h, List.drop_one, List.tail_cons,
          hpieces.splitCommas_eq]
        exact ⟨rfl, rfl⟩
  · intro h
    obtain ⟨rfl, rfl⟩ := h
    by_cases h : ':' ∈ cs
    · obtain ⟨before, after, rfl, hbefore⟩ := List.eq_append_cons_of_mem h
      rw [takeWhile_append_colon hbefore, dropWhile_append_colon hbefore]
      exact .columns hbefore (commaPieces_splitCommas after)
    · have hne := ne_colon_of_not_mem h
      rw [List.takeWhile_eq_self_iff.mpr hne, List.dropWhile_eq_nil_iff.mpr hne]
      exact .name h

theorem parseShort_eq_ok_iff {entry : String} {relationship : Relationship} :
    parseShort entry = .ok relationship ↔
      ∃ name columns, ShortForm entry.toList name columns ∧ name ≠ [] ∧
        .short (String.ofList name) (columns.map String.ofList) = relationship := by
  simp only [parseShort, shortColumns, shortForm_iff, List.isEmpty_iff]
  constructor
  · intro h
    split at h
    next => cases h
    next hname =>
      cases h
      exact ⟨_, _, ⟨rfl, rfl⟩, hname, rfl⟩
  · intro h
    obtain ⟨_, _, ⟨rfl, rfl⟩, hname, rfl⟩ := h
    rw [if_neg hname]

theorem ShortForm.trim_name {cs name : List Char} {columns : List (List Char)}
    (h : ShortForm cs name columns) :
    trim name = name := by
  cases h with
  | name | columns => exact trim_trim _

end Relationship

end QueryShape
