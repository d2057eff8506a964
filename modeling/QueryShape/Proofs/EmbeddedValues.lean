import QueryShape.Json.Embedded
import QueryShape.Proofs.FirstLexeme
import QueryShape.Proofs.TrimmedTexts

/-!
# Strings that spell arrays and objects

A string spells an array or an object if it is the JSON text of it after some leading
blanks.  The reader of such strings first looks at the character after the blanks and
goes on only if it opens an array or an object.  Nothing is lost by that: a reader of
JSON skips the blanks that JSON knows and refuses all others, and a text that starts in
another way has its first lexeme for its value, so it is a string or an atom.
-/

namespace QueryShape

namespace Json

def isStructure : Json → Bool
  | .array _ | .object _ => true
  | .null | .bool _ | .number _ | .text _ => false

/-- After leading blanks the string is the text of an array or an object. -/
def SpelledBy (value : Json) (s : String) : Prop :=
  value.isStructure = true ∧
    ∃ blanks text, s.toList = blanks ++ text ∧ (∀ c ∈ blanks, isBlank c = true) ∧
      ofChars? text = some value

end Json

/-! ## Leading blanks -/

namespace Document

theorem ofChars?_cons_blank {c : Char} {cs : List Char} {document : Document}
    (hblank : isBlank c = true) (h : ofChars? (c :: cs) = some document) :
    ofChars? cs = some document := by
  have hstep : JsonLexeme.step? .between c = JsonLexeme.start? c := rfl
  rw [ofChars?, Reader.run?, hstep, JsonLexeme.start?_of_isBlank hblank] at h
  by_cases hspace : JsonLexeme.isSpace c = true
  · rw [if_pos hspace] at h
    exact h
  · rw [if_neg hspace] at h
    cases h

theorem ofChars?_trimStart {cs : List Char} {document : Document}
    (h : ofChars? cs = some document) :
    ofChars? (trimStart cs) = some document := by
  induction cs with
  | nil => exact h
  | cons c cs ih =>
      by_cases hblank : isBlank c = true
      · have htrim : trimStart (c :: cs) = trimStart cs := by
          simp [trimStart, List.dropWhile, hblank]
        rw [htrim]
        exact ih (ofChars?_cons_blank hblank h)
      · rw [trimStart_cons_of_not_isBlank (by simpa using hblank)]
        exact h

/-! ## Values of a single lexeme -/

theorem isStructure_of_value? {room : Nat} {document : Document} {value : Json}
    (h : document.value? room = some value) :
    value.isStructure = document.isStructure := by
  cases document with
  | null | bool =>
      rw [value?] at h
      cases h
      rfl
  | number n =>
      rw [value?, Option.map_eq_some_iff] at h
      obtain ⟨_, _, rfl⟩ := h
      rfl
  | text s =>
      rw [value?, Option.map_eq_some_iff] at h
      obtain ⟨_, _, rfl⟩ := h
      rfl
  | array items =>
      cases room with
      | zero => cases h
      | succ room =>
          rw [value?, Option.map_eq_some_iff] at h
          obtain ⟨_, _, rfl⟩ := h
          rfl
  | object fields =>
      cases room with
      | zero => cases h
      | succ room =>
          rw [value?, Option.map_eq_some_iff] at h
          obtain ⟨_, _, rfl⟩ := h
          rfl

/-- Of the marks only the opening ones can start a document. -/
theorem opensStructure_of_mark? {c : Char} {lexeme : JsonLexeme} {reader : Reader}
    (hmark : JsonLexeme.mark? c = some lexeme) (h : Reader.start.steps? [lexeme] = some reader)
    (cs : List Char) :
    Json.opensStructure (c :: cs) = true := by
  unfold JsonLexeme.mark? at hmark
  split at hmark
  case h_1 | h_3 => rfl
  case h_7 => cases hmark
  all_goals
    cases hmark
    cases h

theorem opensStructure_of_ofChars? {c : Char} {cs : List Char} {document : Document}
    (hblank : isBlank c = false) (h : ofChars? (c :: cs) = some document)
    (hstructure : document.isStructure = true) :
    Json.opensStructure (c :: cs) = true := by
  have hstep : JsonLexeme.step? .between c = JsonLexeme.start? c := rfl
  rw [ofChars?, Reader.run?, hstep] at h
  split at h
  next => cases h
  next lexemes mode hstart =>
    rcases JsonLexeme.start?_of_not_isBlank hblank hstart with
      ⟨rfl, hmode⟩ | ⟨lexeme, hmark, rfl⟩
    · rw [(Reader.gives_of_run? h).isStructure_eq_false hmode] at hstructure
      cases hstructure
    · split at h
      next => cases h
      next reader hreader => exact opensStructure_of_mark? hmark hreader cs

end Document

namespace Json

theorem ofChars?_trimStart {cs : List Char} {value : Json} (h : ofChars? cs = some value) :
    ofChars? (trimStart cs) = some value := by
  simp only [ofChars?, Option.bind_eq_bind, Option.bind_eq_some_iff] at h ⊢
  obtain ⟨document, hdocument, hvalue⟩ := h
  exact ⟨document, Document.ofChars?_trimStart hdocument, hvalue⟩

theorem opensStructure_trimStart {cs : List Char} {value : Json}
    (h : ofChars? (trimStart cs) = some value) (hstructure : value.isStructure = true) :
    opensStructure (trimStart cs) = true := by
  simp only [ofChars?, Option.bind_eq_bind, Option.bind_eq_some_iff] at h
  obtain ⟨document, hdocument, hvalue⟩ := h
  rw [Document.isStructure_of_value? hvalue] at hstructure
  cases htext : trimStart cs with
  | nil =>
      rw [htext] at hdocument
      cases hdocument
  | cons c rest =>
      rw [htext] at hdocument
      exact Document.opensStructure_of_ofChars? (isBlank_of_trimStart htext) hdocument hstructure

/-- Looking at the first character after the blanks loses no array and no object. -/
theorem embedded?_eq_some_iff {s : String} {value : Json} (h : value.isStructure = true) :
    embedded? s = some value ↔ value.SpelledBy s := by
  constructor
  · intro hvalue
    simp only [embedded?] at hvalue
    split at hvalue
    next =>
      refine ⟨h, s.toList.takeWhile isBlank, trimStart s.toList, ?_, ?_, hvalue⟩
      · exact List.takeWhile_append_dropWhile.symm
      · intro c hc
        exact List.mem_takeWhile_imp hc
    next => cases hvalue
  · intro hspelled
    obtain ⟨_, blanks, text, hsplit, hblanks, hvalue⟩ := hspelled
    have htext : ofChars? (trimStart s.toList) = some value := by
      rw [hsplit, trimStart_append hblanks]
      exact ofChars?_trimStart hvalue
    have hopens : opensStructure (trimStart s.toList) = true := opensStructure_trimStart htext h
    simp only [embedded?, if_pos hopens, htext]

end Json

end QueryShape
