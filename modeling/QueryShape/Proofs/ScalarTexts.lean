import QueryShape.Proofs.EmbeddedValues
import QueryShape.Proofs.NumeralGrammar

/-!
# Texts of numbers and strings

A JSON text is a number if it is a numeral, with a value, between spaces.  The text of a string
is longer than the string, since it has quotes around it and nothing in it stands for more than
one character.
-/

namespace QueryShape

/-- A numeral between spaces. -/
def JsonNumber.SpelledBy (n : JsonNumber) (s : String) : Prop :=
  ∃ before numeral after, s.toList = before ++ numeral ++ after ∧
    (∀ c ∈ before, JsonLexeme.isSpace c = true) ∧ (∀ c ∈ after, JsonLexeme.isSpace c = true) ∧
      JsonNumber.ofChars? numeral = some n

/-! ## The characters of numerals -/

namespace Numeral

open JsonLexeme

theorem isNumeralChar_of_isDigit {c : Char} (h : c.isDigit = true) :
    isNumeralChar c = true := by
  simp [isNumeralChar, h]

theorem isNumeralChar_of_isDigits {digits : List Char} (h : IsDigits digits) :
    ∀ c ∈ digits, isNumeralChar c = true := by
  intro c hc
  exact isNumeralChar_of_isDigit (h.2 c hc)

theorem isNumeralChar_of_fractionText {fraction cs : List Char} (h : FractionText fraction cs) :
    ∀ c ∈ cs, isNumeralChar c = true := by
  cases h with
  | absent => exact List.forall_mem_nil _
  | digits hdigits => exact List.forall_mem_cons.mpr ⟨rfl, isNumeralChar_of_isDigits hdigits⟩

theorem isNumeralChar_of_exponentText {exponent : Option Int} {cs : List Char}
    (h : ExponentText exponent cs) :
    ∀ c ∈ cs, isNumeralChar c = true := by
  have hmarkChar {mark : Char} (hmark : mark = 'e' ∨ mark = 'E') : isNumeralChar mark = true := by
    rcases hmark with rfl | rfl <;> rfl
  cases h with
  | absent => exact List.forall_mem_nil _
  | unsigned hmark hdigits =>
      exact List.forall_mem_cons.mpr ⟨hmarkChar hmark, isNumeralChar_of_isDigits hdigits⟩
  | positive hmark hdigits | negative hmark hdigits =>
      rw [List.forall_mem_cons, List.forall_mem_cons]
      exact ⟨hmarkChar hmark, rfl, isNumeralChar_of_isDigits hdigits⟩

theorem isNumeralChar_of_magnitudeText {numeral : Numeral} {cs : List Char}
    (h : MagnitudeText numeral cs) :
    ∀ c ∈ cs, isNumeralChar c = true := by
  cases h with
  | parts hwhole hfraction hexponent =>
      rw [List.forall_mem_append, List.forall_mem_append]
      exact ⟨isNumeralChar_of_isDigits hwhole.digits, isNumeralChar_of_fractionText hfraction,
        isNumeralChar_of_exponentText hexponent⟩

theorem isNumeralChar_of_numeralText {numeral : Numeral} {cs : List Char}
    (h : NumeralText numeral cs) :
    ∀ c ∈ cs, isNumeralChar c = true := by
  cases h with
  | positive _ htext => exact isNumeralChar_of_magnitudeText htext
  | negative _ htext =>
      exact List.forall_mem_cons.mpr ⟨rfl, isNumeralChar_of_magnitudeText htext⟩

end Numeral

/-! ## Numbers -/

namespace Document

open JsonLexeme

theorem exists_numeral_of_ofChars? {cs : List Char} {number : Option JsonNumber}
    (h : ofChars? cs = some (.number number)) :
    ∃ before chars after numeral, cs = before ++ chars ++ after ∧
      (∀ c ∈ before, isSpace c = true) ∧ (∀ c ∈ after, isSpace c = true) ∧
        Numeral.ofChars? chars = some numeral ∧ number = numeral.number? := by
  obtain ⟨before, c, rest, mode, rfl, hbefore, hstart, hmode, hgives⟩ :=
    exists_first_lexeme h rfl
  rcases start?_cases hstart with ⟨_, rfl⟩ | rfl | rfl | rfl
  · exact absurd rfl hmode
  · obtain ⟨_, heq, _⟩ := hgives
    cases heq
  · obtain ⟨more, after, numeral, rfl, hafter, hnumeral, heq⟩ := hgives
    cases heq
    refine ⟨before, c :: more, after, numeral, ?_, hbefore, hafter, hnumeral, rfl⟩
    rw [List.append_assoc, List.cons_append]
  · rcases hgives with heq | ⟨_, heq⟩ <;> cases heq

theorem run?_numeral {chars more after : List Char} {numeral : Numeral}
    (hmore : ∀ c ∈ more, isNumeralChar c = true) (hafter : ∀ c ∈ after, isSpace c = true)
    (h : Numeral.ofChars? (chars.reverse ++ more) = some numeral) :
    Reader.run? .start (.numeral chars) (more ++ after) = some (.number numeral.number?) := by
  induction more generalizing chars with
  | nil =>
      rw [List.append_nil] at h
      have hlexeme : ofNumeral? chars.reverse = some (.atom (.number numeral.number?)) := by
        rw [ofNumeral?, h, Option.map_some]
      cases after with
      | nil =>
          rw [List.append_nil, Reader.run?, finish?, hlexeme]
          rfl
      | cons c after =>
          obtain ⟨hspace, hspaces⟩ := List.forall_mem_cons.mp hafter
          have hchar : isNumeralChar c = false := by
            by_contra hchar
            have hblank := isBlank_of_isNumeralChar (by simpa using hchar)
            rw [isBlank_of_isSpace hspace] at hblank
            cases hblank
          have hstep :
              JsonLexeme.step? (.numeral chars) c =
                some ([.atom (.number numeral.number?)], .between) := by
            simp [JsonLexeme.step?, hchar, hlexeme, start?, hspace]
          have hrest :
              Reader.run? ⟨[], .nothing (.number numeral.number?)⟩ .between after =
                some (.number numeral.number?) := by
            rw [← List.append_nil after, Reader.run?_between_append hspaces]
            rfl
          rw [List.nil_append, Reader.run?, hstep]
          exact hrest
  | cons c more ih =>
      obtain ⟨hchar, hchars⟩ := List.forall_mem_cons.mp hmore
      have hstep : JsonLexeme.step? (.numeral chars) c = some ([], .numeral (c :: chars)) := by
        rw [JsonLexeme.step?, if_pos hchar]
      rw [List.cons_append, Reader.run?, hstep]
      refine ih hchars ?_
      rwa [List.reverse_cons, List.append_assoc, List.singleton_append]

theorem ofChars?_numeral {before chars after : List Char} {numeral : Numeral}
    (hbefore : ∀ c ∈ before, isSpace c = true) (hafter : ∀ c ∈ after, isSpace c = true)
    (h : Numeral.ofChars? chars = some numeral) :
    ofChars? (before ++ chars ++ after) = some (.number numeral.number?) := by
  have htext := Numeral.ofChars?_eq_some_iff.mp h
  have hall := Numeral.isNumeralChar_of_numeralText htext
  obtain ⟨c, more, rfl, hfirst⟩ := htext.exists_first
  have hstart : start? c = some ([], .numeral [c]) := by
    rcases hfirst with rfl | hdigit
    · rfl
    · have hne {d : Char} (hd : d.isDigit = false) : c ≠ d := by
        rintro rfl
        rw [hdigit] at hd
        cases hd
      have hspace : isSpace c = false := by
        simp [isSpace, hne (d := ' ') rfl, hne (d := '\t') rfl, hne (d := '\n') rfl,
          hne (d := '\r') rfl]
      have hquote : c ≠ '"' := hne rfl
      have he : c ≠ 'e' := hne rfl
      have hE : c ≠ 'E' := hne rfl
      simp [start?, hspace, hquote, he, hE, Numeral.isNumeralChar_of_isDigit hdigit]
  have hstep : JsonLexeme.step? .between c = some ([], .numeral [c]) := hstart
  rw [ofChars?, List.append_assoc, Reader.run?_between_append hbefore, List.cons_append,
    Reader.run?, hstep]
  exact run?_numeral (List.forall_mem_cons.mp hall).2 hafter h

theorem value?_eq_number_iff {room : Nat} {document : Document} {n : JsonNumber} :
    document.value? room = some (.number n) ↔ document = .number (some n) := by
  constructor
  · intro h
    cases document with
    | null | bool => cases h
    | number value =>
        obtain ⟨_, rfl, heq⟩ := Option.map_eq_some_iff.mp h
        cases heq
        rfl
    | text value =>
        obtain ⟨_, _, heq⟩ := Option.map_eq_some_iff.mp h
        cases heq
    | array | object => cases isStructure_of_value? h
  · rintro rfl
    rfl

theorem value?_eq_text {room : Nat} {document : Document} {s : String}
    (h : document.value? room = some (.text s)) :
    document = .text (some s) := by
  cases document with
  | null | bool => cases h
  | number value =>
      obtain ⟨_, _, heq⟩ := Option.map_eq_some_iff.mp h
      cases heq
  | text value =>
      obtain ⟨_, rfl, heq⟩ := Option.map_eq_some_iff.mp h
      cases heq
      rfl
  | array | object => cases isStructure_of_value? h

theorem length_of_ofChars?_eq_text {cs : List Char} {s : String}
    (h : ofChars? cs = some (.text (some s))) :
    s.toList.length < cs.length := by
  obtain ⟨before, c, rest, mode, rfl, _, hstart, hmode, hgives⟩ := exists_first_lexeme h rfl
  rcases start?_cases hstart with ⟨_, rfl⟩ | rfl | rfl | rfl
  · exact absurd rfl hmode
  · obtain ⟨_, heq, hlength⟩ := hgives
    cases heq
    have hbound := hlength s rfl
    simp only [List.length_nil, List.length_append, List.length_cons] at hbound ⊢
    omega
  · obtain ⟨_, _, _, _, _, _, heq⟩ := hgives
    cases heq
  · rcases hgives with heq | ⟨_, heq⟩ <;> cases heq

end Document

namespace Json

/-- A text is a number if it is a numeral, with a value, between spaces. -/
theorem ofText?_eq_number_iff {s : String} {n : JsonNumber} :
    ofText? s = some (.number n) ↔ n.SpelledBy s := by
  simp only [ofText?, ofChars?, Option.bind_eq_bind, Option.bind_eq_some_iff,
    Document.value?_eq_number_iff, exists_eq_right]
  constructor
  · intro h
    obtain ⟨before, chars, after, numeral, hsplit, hbefore, hafter, hnumeral, hn⟩ :=
      Document.exists_numeral_of_ofChars? h
    refine ⟨before, chars, after, hsplit, hbefore, hafter, ?_⟩
    exact Option.bind_eq_some_iff.mpr ⟨numeral, hnumeral, hn.symm⟩
  · rintro ⟨before, chars, after, hsplit, hbefore, hafter, hn⟩
    obtain ⟨numeral, hnumeral, hvalue⟩ := Option.bind_eq_some_iff.mp hn
    rw [hsplit, Document.ofChars?_numeral hbefore hafter hnumeral, hvalue]

/-- The quotes around a string make its text longer than it is. -/
theorem length_of_ofText?_eq_text {s t : String} (h : ofText? s = some (.text t)) :
    t.toList.length < s.toList.length := by
  simp only [ofText?, ofChars?, Option.bind_eq_bind, Option.bind_eq_some_iff] at h
  obtain ⟨document, hdocument, hvalue⟩ := h
  rw [Document.value?_eq_text hvalue] at hdocument
  exact Document.length_of_ofChars?_eq_text hdocument

end Json

/-! ## Trimmed numerals -/

namespace JsonNumber

theorem ofChars?_trim_of_padded {chars cs : List Char} (h : Padded chars cs) {n : JsonNumber}
    (hn : ofChars? chars = some n) :
    ofChars? (trim cs) = some n := by
  obtain ⟨numeral, hnumeral, _⟩ := Option.bind_eq_some_iff.mp hn
  have htext := Numeral.ofChars?_eq_some_iff.mp hnumeral
  have htrimmed : Trimmed chars := by
    apply Trimmed.of_forall htext.ne_nil
    intro c hc
    exact JsonLexeme.isBlank_of_isNumeralChar (Numeral.isNumeralChar_of_numeralText htext c hc)
  rwa [h.trim_eq htrimmed]

/-- A string beside a number is read as a numeral in the same way. -/
theorem SpelledBy.ofChars?_trim {n : JsonNumber} {s : String} (h : n.SpelledBy s) :
    ofChars? (trim s.toList) = some n := by
  obtain ⟨before, chars, after, hsplit, hbefore, hafter, hn⟩ := h
  have hpadded : Padded chars s.toList :=
    ⟨before, after, hsplit, fun d hd => JsonLexeme.isBlank_of_isSpace (hbefore d hd),
      fun d hd => JsonLexeme.isBlank_of_isSpace (hafter d hd)⟩
  exact ofChars?_trim_of_padded hpadded hn

end JsonNumber

end QueryShape
