import QueryShape.Proofs.SqlTemplate

/-!
# Literals in SQL texts

A quote opens a literal, a doubled quote inside of it stands for one quote, and a single quote
closes it.  Reading a text by this rule gives its literals and the template that is around them.
A text that ends inside of a literal has no reading.

Reading loses nothing: with its literals written again the template is the text that was read.
Conversely, what has no quote is read as it stands, and a literal is read as the string that it
was written for, whatever quotes are in it, as long as no quote follows it directly.
-/

namespace QueryShape

/-- The literals of a text, and what is around them. -/
structure SqlReading where
  outside : SqlTemplate
  literals : List String
deriving DecidableEq

namespace SqlReading

def prepend (text : String) (reading : SqlReading) : SqlReading :=
  { reading with outside := reading.outside.prepend text }

def prependLiteral (literal : String) (reading : SqlReading) : SqlReading where
  outside := ⟨"", reading.outside.first :: reading.outside.others⟩
  literals := literal :: reading.literals

/-- What has been read, written again. -/
def text (reading : SqlReading) : String :=
  reading.outside.fill (reading.literals.map quotedLiteral)

mutual

def read? : List Char → Option SqlReading
  | [] => some ⟨⟨"", []⟩, []⟩
  | '\'' :: rest =>
    (readLiteral? rest).map fun (literal, later) => later.prependLiteral (String.ofList literal)
  | c :: rest => (read? rest).map (prepend c.toString)

/-- Reads on inside of a literal; what is left of the literal comes first. -/
def readLiteral? : List Char → Option (List Char × SqlReading)
  | [] => none
  | '\'' :: '\'' :: rest =>
    (readLiteral? rest).map fun (literal, later) => ('\'' :: literal, later)
  | '\'' :: rest => (read? rest).map fun later => ([], later)
  | c :: rest => (readLiteral? rest).map fun (literal, later) => (c :: literal, later)

end

def ofText? (text : String) : Option SqlReading :=
  read? text.toList

/-! ## Single characters -/

theorem read?_of_ne {c : Char} (h : c ≠ '\'') (rest : List Char) :
    read? (c :: rest) = (read? rest).map (prepend c.toString) := by
  simp [read?]

theorem readLiteral?_of_ne {c : Char} (h : c ≠ '\'') (rest : List Char) :
    readLiteral? (c :: rest) =
      (readLiteral? rest).map fun (literal, later) => (c :: literal, later) := by
  simp [readLiteral?, h]

theorem readLiteral?_close {rest : List Char} (h : rest.head? ≠ some '\'') :
    readLiteral? ('\'' :: rest) = (read? rest).map fun later => ([], later) := by
  cases rest with
  | nil => simp [readLiteral?]
  | cons c more =>
      have hc : c ≠ '\'' := by simpa using h
      simp [readLiteral?, hc]

/-! ## Texts that were written -/

/-- What stands between the quotes of a literal. -/
def doubled (literal : List Char) : List Char :=
  literal.flatMap fun c => if c = '\'' then ['\'', '\''] else [c]

theorem toList_quotedLiteral (s : String) :
    (quotedLiteral s).toList = '\'' :: (doubled s.toList ++ ['\'']) := by
  have hchar (c : Char) :
      (if c = '\'' then "''" else c.toString).toList =
        if c = '\'' then ['\'', '\''] else [c] := by
    split <;> simp
  have hjoined :
      (String.join (s.toList.map fun c => if c = '\'' then "''" else c.toString)).toList =
        doubled s.toList := by
    rw [String.toList_join, List.flatMap_map]
    simp only [hchar, doubled]
  rw [quotedLiteral, String.toList_append, String.toList_append, hjoined]
  rfl

theorem prepend_prepend (first second : String) (reading : SqlReading) :
    (reading.prepend second).prepend first = reading.prepend (first ++ second) := by
  simp [prepend, SqlTemplate.prepend, String.append_assoc]

theorem prepend_empty :
    prepend "" = id := by
  funext reading
  simp [prepend, SqlTemplate.prepend]

theorem read?_append {text : String} (h : '\'' ∉ text.toList) (rest : List Char) :
    read? (text.toList ++ rest) = (read? rest).map (prepend text) := by
  have hchars (cs : List Char) (hcs : '\'' ∉ cs) :
      read? (cs ++ rest) = (read? rest).map (prepend (String.ofList cs)) := by
    induction cs with
    | nil => rw [List.nil_append, String.ofList_nil, prepend_empty, Option.map_id, id]
    | cons c cs ih =>
        rw [List.mem_cons, not_or] at hcs
        obtain ⟨hc, hcs⟩ := hcs
        rw [List.cons_append, read?_of_ne (Ne.symm hc), ih hcs, Option.map_map]
        congr 1
        funext reading
        rw [Function.comp, prepend_prepend, String.ofList_cons, Char.toString_eq_singleton]
  have htext := hchars text.toList h
  rwa [String.ofList_toList] at htext

theorem readLiteral?_doubled (literal : List Char) {rest : List Char}
    (h : rest.head? ≠ some '\'') :
    readLiteral? (doubled literal ++ '\'' :: rest) =
      (read? rest).map fun later => (literal, later) := by
  induction literal with
  | nil => exact readLiteral?_close h
  | cons c literal ih =>
      rw [doubled, List.flatMap_cons, ← doubled, List.append_assoc]
      by_cases hc : c = '\''
      · rw [if_pos hc, hc, List.cons_append, List.cons_append, List.nil_append, readLiteral?, ih,
          Option.map_map]
        rfl
      · rw [if_neg hc, List.singleton_append, readLiteral?_of_ne hc, ih, Option.map_map]
        rfl

theorem read?_quotedLiteral (s : String) {rest : List Char} (h : rest.head? ≠ some '\'') :
    read? ((quotedLiteral s).toList ++ rest) = (read? rest).map (prependLiteral s) := by
  have hliteral := readLiteral?_doubled s.toList h
  rw [toList_quotedLiteral, List.cons_append, List.append_assoc, List.singleton_append, read?,
    hliteral, Option.map_map]
  congr 1
  funext later
  simp only [Function.comp, String.ofList_toList]

/-! ## Texts that were read -/

theorem text_prepend (text : String) (reading : SqlReading) :
    (reading.prepend text).text = text ++ reading.text :=
  SqlTemplate.fill_prepend text reading.outside (reading.literals.map quotedLiteral)

theorem text_prependLiteral (literal : String) (reading : SqlReading) :
    (reading.prependLiteral literal).text = quotedLiteral literal ++ reading.text := by
  simp [text, prependLiteral, SqlTemplate.fill, String.append_assoc]

mutual

theorem toList_text_of_read? :
    ∀ {cs : List Char} {reading : SqlReading},
      read? cs = some reading → reading.text.toList = cs
  | [], reading, h => by
      rw [read?, Option.some.injEq] at h
      rw [← h]
      rfl
  | c :: rest, reading, h => by
      by_cases hc : c = '\''
      · subst hc
        rw [read?, Option.map_eq_some_iff] at h
        obtain ⟨⟨literal, later⟩, hread, rfl⟩ := h
        have hrest := toList_text_of_readLiteral? hread
        rw [text_prependLiteral, String.toList_append, toList_quotedLiteral, String.toList_ofList,
          List.cons_append, List.append_assoc, List.singleton_append, hrest]
      · rw [read?_of_ne hc, Option.map_eq_some_iff] at h
        obtain ⟨later, hread, rfl⟩ := h
        have hrest := toList_text_of_read? hread
        rw [text_prepend, String.toList_append, hrest]
        simp

theorem toList_text_of_readLiteral? :
    ∀ {cs literal : List Char} {reading : SqlReading},
      readLiteral? cs = some (literal, reading) →
        doubled literal ++ '\'' :: reading.text.toList = cs
  | [], _, _, h => by
      rw [readLiteral?] at h
      cases h
  | [c], literal, reading, h => by
      by_cases hc : c = '\''
      · subst hc
        rw [readLiteral?_close (by simp), Option.map_eq_some_iff] at h
        obtain ⟨later, hread, hlater⟩ := h
        cases hlater
        have hrest := toList_text_of_read? hread
        rw [hrest]
        rfl
      · rw [readLiteral?_of_ne hc, Option.map_eq_some_iff] at h
        obtain ⟨found, hread, hfound⟩ := h
        cases hread
  | c :: next :: rest, literal, reading, h => by
      by_cases hc : c = '\''
      · subst hc
        by_cases hnext : next = '\''
        · subst hnext
          rw [readLiteral?, Option.map_eq_some_iff] at h
          obtain ⟨⟨literal, later⟩, hread, hfound⟩ := h
          cases hfound
          have hrest := toList_text_of_readLiteral? hread
          rw [← hrest]
          rfl
        · rw [readLiteral?_close (by simpa using hnext), Option.map_eq_some_iff] at h
          obtain ⟨later, hread, hlater⟩ := h
          cases hlater
          have hrest := toList_text_of_read? hread
          rw [hrest]
          rfl
      · rw [readLiteral?_of_ne hc, Option.map_eq_some_iff] at h
        obtain ⟨⟨literal, later⟩, hread, hfound⟩ := h
        cases hfound
        have hrest := toList_text_of_readLiteral? hread
        rw [← hrest]
        simp [doubled, hc]

end

/-- A text that has a reading is given back by it. -/
theorem text_of_ofText? {text : String} {reading : SqlReading} (h : ofText? text = some reading) :
    reading.text = text :=
  String.toList_inj.mp (toList_text_of_read? h)

end SqlReading

end QueryShape
