import QueryShape.Proofs.ShortForms

/-!
# Texts of short forms

A text is cut at its first colon and, after it, at every comma.  What stands between blanks before
the colon is the name, and there must be something; of the pieces each is blank, and passed over,
or has a column between blanks.  So names and columns are free to have blanks inside, and columns
to have colons, and whichever way they are written with blanks around them and with blank pieces
among them, they are read back.
-/

namespace QueryShape

theorem Padded.not_mem {text cs : List Char} (h : Padded text cs) {c : Char}
    (hc : isBlank c = false) (htext : c ∉ text) :
    c ∉ cs := by
  obtain ⟨before, after, rfl, hbefore, hafter⟩ := h
  have hnot (blanks : List Char) (hblanks : ∀ d ∈ blanks, isBlank d = true) : c ∉ blanks := by
    intro hmem
    rw [hblanks c hmem] at hc
    cases hc
  rw [List.mem_append, List.mem_append, not_or, not_or]
  exact ⟨⟨hnot before hbefore, htext⟩, hnot after hafter⟩

/-- The parts of a text before and after its first colon; without a colon all of it is before. -/
inductive FirstColon : List Char → List Char → List Char → Prop
  | absent {cs : List Char} (h : ':' ∉ cs) : FirstColon cs cs []
  | present {before after : List Char} (h : ':' ∉ before) :
      FirstColon (before ++ ':' :: after) before after

/-- Each piece is blank or has the next column between blanks. -/
inductive SpellsColumns : List (List Char) → List String → Prop
  | nil : SpellsColumns [] []
  | blank {piece : List Char} {pieces : List (List Char)} {columns : List String}
      (hblank : ∀ c ∈ piece, isBlank c = true) (hrest : SpellsColumns pieces columns) :
      SpellsColumns (piece :: pieces) columns
  | column {piece : List Char} {pieces : List (List Char)} {column : String}
      {columns : List String} (htrimmed : Trimmed column.toList)
      (hpadded : Padded column.toList piece) (hrest : SpellsColumns pieces columns) :
      SpellsColumns (piece :: pieces) (column :: columns)

theorem exists_firstColon (cs : List Char) :
    ∃ before after, FirstColon cs before after := by
  by_cases h : ':' ∈ cs
  · obtain ⟨before, after, rfl, hbefore⟩ := List.eq_append_cons_of_mem h
    exact ⟨before, after, .present hbefore⟩
  · exact ⟨cs, [], .absent h⟩

/-! ## Pieces and columns -/

namespace SpellsColumns

theorem columns_eq {pieces : List (List Char)} {columns : List String}
    (h : SpellsColumns pieces columns) :
    columns = ((pieces.map trim).filter (!·.isEmpty)).map String.ofList := by
  induction h with
  | nil => rfl
  | blank hblank _ ih =>
      rw [List.map_cons, trim_eq_nil_iff.mpr hblank]
      exact ih
  | @column _ _ column _ htrimmed hpadded _ ih =>
      rw [List.map_cons, hpadded.trim_eq htrimmed,
        List.filter_cons_of_pos (by simpa using htrimmed.nonempty), List.map_cons,
        String.ofList_toList, ← ih]

theorem of_pieces (pieces : List (List Char)) :
    SpellsColumns pieces (((pieces.map trim).filter (!·.isEmpty)).map String.ofList) := by
  induction pieces with
  | nil => exact .nil
  | cons piece pieces ih =>
      rw [List.map_cons]
      by_cases htrim : trim piece = []
      · rw [htrim]
        exact .blank (trim_eq_nil_iff.mp htrim) ih
      · rw [List.filter_cons_of_pos (by simpa using htrim), List.map_cons]
        apply SpellsColumns.column _ _ ih
        · rw [String.toList_ofList]
          exact trimmed_trim htrim
        · rw [String.toList_ofList]
          exact padded_trim piece

theorem of_columns {columns : List String} (h : ∀ column ∈ columns, Trimmed column.toList) :
    SpellsColumns (columns.map String.toList) columns := by
  induction columns with
  | nil => exact .nil
  | cons column columns ih =>
      obtain ⟨hcolumn, hcolumns⟩ := List.forall_mem_cons.mp h
      exact .column hcolumn (.refl column.toList) (ih hcolumns)

theorem plain {pieces : List (List Char)} {columns : List String}
    (h : SpellsColumns pieces columns) (hcolumns : ∀ column ∈ columns, ',' ∉ column.toList) :
    ∀ piece ∈ pieces, ',' ∉ piece := by
  induction h with
  | nil => exact List.forall_mem_nil _
  | @blank piece _ _ hblank _ ih =>
      have hpadded : Padded [] piece :=
        ⟨piece, [], by simp, hblank, List.forall_mem_nil _⟩
      exact List.forall_mem_cons.mpr ⟨hpadded.not_mem rfl List.not_mem_nil, ih hcolumns⟩
  | column _ hpadded _ ih =>
      obtain ⟨hcolumn, hrest⟩ := List.forall_mem_cons.mp hcolumns
      exact List.forall_mem_cons.mpr ⟨hpadded.not_mem rfl hcolumn, ih hrest⟩

/-- Without any piece there is still the blank one that the empty text is. -/
theorem exists_commaPieces {pieces : List (List Char)} {columns : List String}
    (h : SpellsColumns pieces columns) (hcolumns : ∀ column ∈ columns, ',' ∉ column.toList) :
    ∃ cut, CommaPieces ([','].intercalate pieces) cut ∧ SpellsColumns cut columns := by
  by_cases hpieces : pieces = []
  · subst hpieces
    refine ⟨[[]], ⟨List.cons_ne_nil _ _, by simp, rfl⟩, ?_⟩
    exact .blank (List.forall_mem_nil _) h
  · exact ⟨pieces, ⟨hpieces, h.plain hcolumns, rfl⟩, h⟩

end SpellsColumns

/-! ## Reading -/

namespace Relationship

theorem shortColumns_eq_iff {after : List Char} {pieces : List (List Char)}
    (h : CommaPieces after pieces) {columns : List String} :
    shortColumns after = columns ↔ SpellsColumns pieces columns := by
  rw [shortColumns, h.splitCommas_eq]
  constructor
  · intro hcolumns
    rw [← hcolumns]
    exact .of_pieces pieces
  · intro hspells
    exact hspells.columns_eq.symm

theorem takeWhile_of_firstColon {cs before after : List Char} (h : FirstColon cs before after) :
    cs.takeWhile (· != ':') = before ∧ (cs.dropWhile (· != ':')).drop 1 = after := by
  cases h with
  | absent h =>
      have hne := ne_colon_of_not_mem h
      rw [List.takeWhile_eq_self_iff.mpr hne, List.dropWhile_eq_nil_iff.mpr hne]
      exact ⟨rfl, rfl⟩
  | present h =>
      rw [takeWhile_append_colon h, dropWhile_append_colon h]
      exact ⟨rfl, rfl⟩

theorem parseShort_of_firstColon {entry : String} {before after : List Char}
    (h : FirstColon entry.toList before after) :
    parseShort entry =
      if trim before = [] then .error (.invalidRelationship (.blankName entry))
      else .ok (.short (String.ofList (trim before)) (shortColumns after)) := by
  obtain ⟨hbefore, hafter⟩ := takeWhile_of_firstColon h
  simp only [parseShort, hbefore, hafter, List.isEmpty_iff]

theorem parseShort_eq_error_iff {entry : String} {before after : List Char}
    (h : FirstColon entry.toList before after) (e : Error) :
    parseShort entry = .error e ↔
      e = .invalidRelationship (.blankName entry) ∧ ∀ c ∈ before, isBlank c = true := by
  rw [parseShort_of_firstColon h, ← trim_eq_nil_iff]
  split
  next hblank => simp [hblank, eq_comm]
  next hname => simp [hname]

theorem parseShort_eq_ok_iff_spelled {entry : String} {before after : List Char}
    (h : FirstColon entry.toList before after) (relationship : Relationship) :
    parseShort entry = .ok relationship ↔
      ∃ name columns pieces, relationship = .short name columns ∧
        Trimmed name.toList ∧ Padded name.toList before ∧
          CommaPieces after pieces ∧ SpellsColumns pieces columns := by
  rw [parseShort_of_firstColon h]
  constructor
  · intro hread
    split at hread
    next => cases hread
    next hname =>
      cases hread
      have hpieces := commaPieces_splitCommas after
      refine ⟨_, _, _, rfl, ?_, ?_, hpieces, (shortColumns_eq_iff hpieces).mp rfl⟩
      · rw [String.toList_ofList]
        exact trimmed_trim hname
      · rw [String.toList_ofList]
        exact padded_trim before
  · rintro ⟨name, columns, pieces, rfl, htrimmed, hpadded, hpieces, hspells⟩
    rw [hpadded.trim_eq htrimmed, if_neg htrimmed.nonempty, String.ofList_toList,
      (shortColumns_eq_iff hpieces).mpr hspells]

theorem parseShort_padded {entry name : String} {before after : List Char}
    (h : FirstColon entry.toList before after) (htrimmed : Trimmed name.toList)
    (hpadded : Padded name.toList before) {pieces : List (List Char)} {columns : List String}
    (hpieces : CommaPieces after pieces) (hspells : SpellsColumns pieces columns) :
    parseShort entry = .ok (.short name columns) :=
  (parseShort_eq_ok_iff_spelled h _).mpr
    ⟨name, columns, pieces, rfl, htrimmed, hpadded, hpieces, hspells⟩

/-- A text is refused if it is blank before its first colon, and else it is the short form of the
name and the columns that it spells.  Every name and columns that a text can spell are read back. -/
theorem short_texts_read_back :
    (∀ entry : String, ∃ before after, FirstColon entry.toList before after ∧
        (∀ e, parseShort entry = .error e ↔
          e = .invalidRelationship (.blankName entry) ∧ ∀ c ∈ before, isBlank c = true) ∧
        ∀ relationship, parseShort entry = .ok relationship ↔
          ∃ name columns pieces, relationship = .short name columns ∧
            Trimmed name.toList ∧ Padded name.toList before ∧
              CommaPieces after pieces ∧ SpellsColumns pieces columns) ∧
      ∀ (name : String) (columns : List String), Trimmed name.toList → ':' ∉ name.toList →
        (∀ column ∈ columns, Trimmed column.toList ∧ ',' ∉ column.toList) →
          SpellsColumns (columns.map String.toList) columns ∧
            ∀ before, Padded name.toList before →
              (∀ pieces, SpellsColumns pieces columns →
                parseShort (String.ofList (before ++ ':' :: [','].intercalate pieces)) =
                  .ok (.short name columns)) ∧
                parseShort (String.ofList before) = .ok (.short name []) := by
  constructor
  · intro entry
    obtain ⟨before, after, hcolon⟩ := exists_firstColon entry.toList
    exact ⟨before, after, hcolon, parseShort_eq_error_iff hcolon,
      parseShort_eq_ok_iff_spelled hcolon⟩
  · intro name columns htrimmed hname hcolumns
    refine ⟨.of_columns fun column hcolumn => (hcolumns column hcolumn).1, ?_⟩
    intro before hpadded
    have hbefore : ':' ∉ before := hpadded.not_mem rfl hname
    constructor
    · intro pieces hspells
      obtain ⟨cut, hcut, hspelled⟩ :=
        hspells.exists_commaPieces fun column hcolumn => (hcolumns column hcolumn).2
      apply parseShort_padded _ htrimmed hpadded hcut hspelled
      rw [String.toList_ofList]
      exact .present hbefore
    · have hempty : CommaPieces [] [[]] := ⟨List.cons_ne_nil _ _, by simp, rfl⟩
      apply parseShort_padded _ htrimmed hpadded hempty (.blank (List.forall_mem_nil _) .nil)
      rw [String.toList_ofList]
      exact .absent hbefore

/-- The columns have a blank and a colon inside, and blank pieces stand around them. -/
theorem spaced_short_text_reads_back :
    let name : String := "staff list"
    let columns : List String := ["first name", "books:title"]
    let before : List Char := "\u00a0 staff list\t".toList
    let pieces : List (List Char) :=
      [[], " first name".toList, "\n".toList, "books:title ".toList, []]
    Trimmed name.toList ∧ ':' ∉ name.toList ∧
      (∀ column ∈ columns, Trimmed column.toList ∧ ',' ∉ column.toList) ∧
      Padded name.toList before ∧ SpellsColumns pieces columns ∧
      parseShort "\u00a0 staff list\t:, first name,\n,books:title ," =
        .ok (.short name columns) ∧
      parseShort "\u00a0 staff list\t" = .ok (.short name []) ∧
      ∃ before after, FirstColon " \t:id".toList before after ∧
        (∀ c ∈ before, isBlank c = true) ∧
        parseShort " \t:id" = .error (.invalidRelationship (.blankName " \t:id")) := by
  intro name columns before pieces
  have hname : Trimmed name.toList := by decide +kernel
  have hcolon : ':' ∉ name.toList := by decide +kernel
  have hcolumns : ∀ column ∈ columns, Trimmed column.toList ∧ ',' ∉ column.toList := by
    decide +kernel
  have hblank (blanks : List Char) (h : blanks.all isBlank = true) :
      ∀ c ∈ blanks, isBlank c = true := List.all_eq_true.mp h
  have hpadded : Padded name.toList before :=
    ⟨['\u00a0', ' '], ['\t'], by decide +kernel, hblank _ rfl, hblank _ rfl⟩
  have hspells : SpellsColumns pieces columns := by
    apply SpellsColumns.blank (hblank _ rfl)
    apply SpellsColumns.column (hcolumns _ (by decide +kernel)).1
    · exact ⟨[' '], [], by decide +kernel, hblank _ rfl, hblank _ rfl⟩
    apply SpellsColumns.blank (hblank _ (by decide +kernel))
    apply SpellsColumns.column (hcolumns _ (by decide +kernel)).1
    · exact ⟨[], [' '], by decide +kernel, hblank _ rfl, hblank _ rfl⟩
    exact .blank (hblank _ rfl) .nil
  obtain ⟨hlisted, hbare⟩ :=
    (short_texts_read_back.2 name columns hname hcolon hcolumns).2 before hpadded
  have hsplit : " \t:id".toList = [' ', '\t'] ++ ':' :: ['i', 'd'] := by decide +kernel
  have hfirst : FirstColon " \t:id".toList [' ', '\t'] ['i', 'd'] := by
    rw [hsplit]
    exact .present (by decide)
  refine ⟨hname, hcolon, hcolumns, hpadded, hspells, hlisted pieces hspells, hbare,
    _, _, hfirst, hblank _ rfl, ?_⟩
  exact (parseShort_eq_error_iff hfirst _).mpr ⟨rfl, hblank _ rfl⟩

end Relationship

end QueryShape
