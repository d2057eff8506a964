import QueryShape.Json.Reader
import QueryShape.Text.Blank

/-!
# The first lexeme of a text

Once the lexer is inside a string or an atom at the start of a text, the kind of the value is
settled.  Each character goes on with the lexeme or ends it, and after its end only spaces may
follow.  A text that starts with a mark instead is an array or an object, or nothing.
-/

namespace QueryShape

/-! ## Blanks and spaces -/

theorem isBlank_eq_false {c : Char} (hlow : 0x20 < c.toNat) (hhigh : c.toNat < 0x85) :
    isBlank c = false := by
  simp only [isBlank, Bool.or_eq_false_iff, Bool.and_eq_false_iff, beq_eq_false_iff_ne,
    decide_eq_false_iff_not]
  omega

namespace JsonLexeme

theorem isBlank_of_isDigit {c : Char} (h : c.isDigit = true) :
    isBlank c = false := by
  have hcode : c.val.toNat = c.toNat := rfl
  have hzero : '0'.val.toNat = 48 := rfl
  have hnine : '9'.val.toNat = 57 := rfl
  simp only [Char.isDigit, Bool.and_eq_true, decide_eq_true_eq, ge_iff_le,
    UInt32.le_iff_toNat_le] at h
  apply isBlank_eq_false
  · omega
  · omega

theorem isBlank_of_isAlpha {c : Char} (h : c.isAlpha = true) :
    isBlank c = false := by
  have hcode : c.val.toNat = c.toNat := rfl
  have hA : 'A'.val.toNat = 65 := rfl
  have hZ : 'Z'.val.toNat = 90 := rfl
  have ha : 'a'.val.toNat = 97 := rfl
  have hz : 'z'.val.toNat = 122 := rfl
  have hletter :
      (decide (c.val ≥ 'A'.val ∧ c.val ≤ 'Z'.val) ||
        decide (c.val ≥ 'a'.val) && decide (c.val ≤ 'z'.val)) = true := h
  simp only [Bool.or_eq_true, Bool.and_eq_true, decide_eq_true_eq, ge_iff_le,
    UInt32.le_iff_toNat_le] at hletter
  apply isBlank_eq_false
  · omega
  · omega

theorem isBlank_of_isNumeralChar {c : Char} (h : isNumeralChar c = true) :
    isBlank c = false := by
  simp only [isNumeralChar, Bool.or_eq_true, beq_iff_eq] at h
  rcases h with ((((hdigit | rfl) | rfl) | rfl) | rfl) | rfl
  · exact isBlank_of_isDigit hdigit
  all_goals decide

theorem isBlank_of_mark? {c : Char} {lexeme : JsonLexeme} (h : mark? c = some lexeme) :
    isBlank c = false := by
  unfold mark? at h
  split at h
  case h_7 => cases h
  all_goals decide

/-- A blank is a space of JSON or starts nothing. -/
theorem start?_of_isBlank {c : Char} (h : isBlank c = true) :
    start? c = if isSpace c then some ([], .between) else none := by
  have hquote : c ≠ '"' := by
    intro heq
    rw [heq] at h
    exact absurd h (by decide)
  have hnumeral : isNumeralChar c = false := by
    cases hchar : isNumeralChar c with
    | false => rfl
    | true =>
        rw [isBlank_of_isNumeralChar hchar] at h
        cases h
  have halpha : c.isAlpha = false := by
    cases hchar : c.isAlpha with
    | false => rfl
    | true =>
        rw [isBlank_of_isAlpha hchar] at h
        cases h
  have hmark : mark? c = none := by
    cases hmark : mark? c with
    | none => rfl
    | some lexeme =>
        rw [isBlank_of_mark? hmark] at h
        cases h
  simp [start?, hquote, hnumeral, halpha, hmark]

theorem isBlank_of_isSpace {c : Char} (h : isSpace c = true) :
    isBlank c = true := by
  simp only [isSpace, Bool.or_eq_true, beq_iff_eq] at h
  rcases h with ((rfl | rfl) | rfl) | rfl
  all_goals decide

/-- Any other character starts a string or an atom, or is a mark. -/
theorem start?_of_not_isBlank {c : Char} {lexemes : List JsonLexeme} {mode : Mode}
    (hblank : isBlank c = false) (h : start? c = some (lexemes, mode)) :
    (lexemes = [] ∧ mode ≠ .between) ∨ ∃ lexeme, mark? c = some lexeme ∧ lexemes = [lexeme] := by
  unfold start? at h
  split at h
  next hspace =>
    rw [isBlank_of_isSpace hspace] at hblank
    cases hblank
  next =>
    split at h
    next =>
      cases h
      exact .inl ⟨rfl, nofun⟩
    next =>
      split at h
      next =>
        cases h
        exact .inl ⟨rfl, nofun⟩
      next =>
        split at h
        next =>
          cases h
          exact .inl ⟨rfl, nofun⟩
        next =>
          rw [Option.map_eq_some_iff] at h
          obtain ⟨lexeme, hmark, heq⟩ := h
          cases heq
          exact .inr ⟨lexeme, hmark, rfl⟩

end JsonLexeme

namespace Document

def isStructure : Document → Bool
  | .array _ | .object _ => true
  | .null | .bool _ | .number _ | .text _ => false

/-- A string of fewer characters, if it has a value. -/
def IsTextBelow (bound : Nat) (document : Document) : Prop :=
  ∃ text, document = .text text ∧ ∀ s, text = some s → s.toList.length < bound

/-- Each character of a text adds at most one to the string. -/
theorem IsTextBelow.cons {points next : List Nat} {c : Char} {cs : List Char}
    {document : Document} (h : document.IsTextBelow (next.length + cs.length))
    (hle : next.length ≤ points.length + 1) :
    document.IsTextBelow (points.length + (c :: cs).length) := by
  obtain ⟨text, hdocument, hlength⟩ := h
  have hbound : next.length + cs.length ≤ points.length + (c :: cs).length := by
    rw [List.length_cons]
    omega
  exact ⟨text, hdocument, fun s hs => Nat.lt_of_lt_of_le (hlength s hs) hbound⟩

end Document

/-! ## Lexemes of one value -/

namespace JsonLexeme

/-- A lexeme that is a whole document, which is a string or an atom. -/
def IsScalar (lexeme : JsonLexeme) (document : Document) : Prop :=
  document.isStructure = false ∧
    ∀ stack, Document.Reader.value? stack lexeme = Document.Reader.close? stack document

theorem length_of_chars? {points : List Nat} {cs : List Char} (h : chars? points = some cs) :
    cs.length ≤ points.length := by
  fun_induction chars? points generalizing cs with
  | case1 =>
      cases h
      exact Nat.le_refl 0
  | case2 high low rest hpair ih =>
      obtain ⟨later, hlater, rfl⟩ := Option.map_eq_some_iff.mp h
      have hlength := ih hlater
      simp only [List.length_cons]
      omega
  | case3 => cases h
  | case4 high low rest hpair hhalf ih =>
      obtain ⟨later, hlater, rfl⟩ := Option.map_eq_some_iff.mp h
      have hlength := ih hlater
      simp only [List.length_cons] at hlength ⊢
      omega
  | case5 => cases h
  | case6 =>
      cases h
      exact Nat.le_refl 1

/-- The code points of a string that has been begun. -/
def Mode.points? : Mode → Option (List Nat)
  | .string points | .escape points | .hex points _ _ => some points
  | .between | .word _ | .numeral _ => none

/-- How a character goes on with a lexeme. -/
inductive Mode.Continues (c : Char) : Mode → Mode → Prop
  | word {letters : List Char} : Mode.Continues c (.word letters) (.word (c :: letters))
  | numeral {chars : List Char} : Mode.Continues c (.numeral chars) (.numeral (c :: chars))
  | string {mode next : Mode} {points more : List Nat} (hmode : mode.points? = some points)
      (hnext : next.points? = some more) (hlength : more.length ≤ points.length + 1) :
      Mode.Continues c mode next

/-- Which lexeme a mode ends with, and the document that it is. -/
inductive Mode.Completes : Mode → JsonLexeme → Document → Prop
  | word {letters : List Char} {document : Document}
      (hkind : document = .null ∨ ∃ b, document = .bool b) :
      Mode.Completes (.word letters) (.atom document) document
  | numeral {chars : List Char} {numeral : Numeral}
      (hnumeral : Numeral.ofChars? chars.reverse = some numeral) :
      Mode.Completes (.numeral chars) (.atom (.number numeral.number?)) (.number numeral.number?)
  | string {points : List Nat} {text : Option String}
      (hlength : ∀ s, text = some s → s.toList.length ≤ points.length) :
      Mode.Completes (.string points) (.text text) (.text text)

theorem Mode.Continues.ne_between {c : Char} {mode next : Mode} (h : mode.Continues c next) :
    next ≠ .between := by
  rintro rfl
  cases h with
  | string _ hnext _ => cases hnext

theorem Mode.Completes.isScalar {mode : Mode} {lexeme : JsonLexeme} {document : Document}
    (h : mode.Completes lexeme document) :
    lexeme.IsScalar document := by
  cases h with
  | word hkind => rcases hkind with rfl | ⟨b, rfl⟩ <;> exact ⟨rfl, fun _ => rfl⟩
  | numeral => exact ⟨rfl, fun _ => rfl⟩
  | string => exact ⟨rfl, fun _ => rfl⟩

theorem completes_of_ofWord? {letters : List Char} {lexeme : JsonLexeme}
    (h : ofWord? letters.reverse = some lexeme) :
    ∃ document, (Mode.word letters).Completes lexeme document := by
  unfold ofWord? at h
  split at h
  next =>
    cases h
    exact ⟨.null, .word (.inl rfl)⟩
  next =>
    split at h
    next =>
      cases h
      exact ⟨.bool true, .word (.inr ⟨true, rfl⟩)⟩
    next =>
      split at h
      next =>
        cases h
        exact ⟨.bool false, .word (.inr ⟨false, rfl⟩)⟩
      next => cases h

theorem completes_of_ofNumeral? {chars : List Char} {lexeme : JsonLexeme}
    (h : ofNumeral? chars.reverse = some lexeme) :
    ∃ document, (Mode.numeral chars).Completes lexeme document := by
  obtain ⟨numeral, hnumeral, rfl⟩ := Option.map_eq_some_iff.mp h
  exact ⟨.number numeral.number?, .numeral hnumeral⟩

theorem completes_string (points : List Nat) :
    (Mode.string points).Completes (.text ((chars? points.reverse).map String.ofList))
      (.text ((chars? points.reverse).map String.ofList)) := by
  refine .string ?_
  intro s hs
  obtain ⟨chars, hchars, rfl⟩ := Option.map_eq_some_iff.mp hs
  have hlength := length_of_chars? hchars
  rwa [List.length_reverse, ← @String.toList_ofList chars] at hlength

/-- A character goes on with the lexeme or completes it; but for the quote at the end of a string
it then starts what comes next. -/
theorem step?_cases {mode next : Mode} {c : Char} {lexemes : List JsonLexeme}
    (hmode : mode ≠ .between) (h : step? mode c = some (lexemes, next)) :
    (lexemes = [] ∧ mode.Continues c next) ∨
      ∃ lexeme document rest, lexemes = lexeme :: rest ∧ mode.Completes lexeme document ∧
        (mode.points? = none → start? c = some (rest, next)) := by
  cases mode with
  | between => exact absurd rfl hmode
  | word letters =>
      rw [step?] at h
      split at h
      next =>
        cases h
        exact .inl ⟨rfl, .word⟩
      next =>
        simp only [Option.bind_eq_bind, Option.bind_eq_some_iff] at h
        obtain ⟨word, hword, ⟨rest, _⟩, hstart, heq⟩ := h
        cases heq
        obtain ⟨document, hcompletes⟩ := completes_of_ofWord? hword
        exact .inr ⟨word, document, rest, rfl, hcompletes, fun _ => hstart⟩
  | numeral chars =>
      rw [step?] at h
      split at h
      next =>
        cases h
        exact .inl ⟨rfl, .numeral⟩
      next =>
        simp only [Option.bind_eq_bind, Option.bind_eq_some_iff] at h
        obtain ⟨numeral, hnumeral, ⟨rest, _⟩, hstart, heq⟩ := h
        cases heq
        obtain ⟨document, hcompletes⟩ := completes_of_ofNumeral? hnumeral
        exact .inr ⟨numeral, document, rest, rfl, hcompletes, fun _ => hstart⟩
  | string points =>
      rw [step?] at h
      split at h
      next =>
        cases h
        exact .inr ⟨_, _, [], rfl, completes_string points, nofun⟩
      next =>
        split at h
        next =>
          cases h
          exact .inl ⟨rfl, .string rfl rfl (Nat.le_succ _)⟩
        next =>
          split at h
          next => cases h
          next =>
            cases h
            exact .inl ⟨rfl, .string rfl rfl (Nat.le_refl _)⟩
  | escape points =>
      rw [step?] at h
      split at h
      next =>
        cases h
        exact .inl ⟨rfl, .string rfl rfl (Nat.le_succ _)⟩
      next =>
        obtain ⟨_, _, heq⟩ := Option.map_eq_some_iff.mp h
        cases heq
        exact .inl ⟨rfl, .string rfl rfl (Nat.le_refl _)⟩
  | hex points missing value =>
      simp only [step?, Option.bind_eq_bind, Option.bind_eq_some_iff] at h
      obtain ⟨digit, _, heq⟩ := h
      cases missing with
      | zero =>
          cases heq
          exact .inl ⟨rfl, .string rfl rfl (Nat.le_refl _)⟩
      | succ missing =>
          cases heq
          exact .inl ⟨rfl, .string rfl rfl (Nat.le_succ _)⟩

/-- At the end of a text a string is not complete. -/
theorem finish?_cases {mode : Mode} {lexemes : List JsonLexeme}
    (h : finish? mode = some lexemes) :
    (mode = .between ∧ lexemes = []) ∨
      ∃ lexeme document, lexemes = [lexeme] ∧ mode.Completes lexeme document ∧
        mode.points? = none := by
  cases mode with
  | between =>
      cases h
      exact .inl ⟨rfl, rfl⟩
  | word letters =>
      obtain ⟨word, hword, rfl⟩ := Option.map_eq_some_iff.mp h
      obtain ⟨document, hcompletes⟩ := completes_of_ofWord? hword
      exact .inr ⟨word, document, rfl, hcompletes, rfl⟩
  | numeral chars =>
      obtain ⟨numeral, hnumeral, rfl⟩ := Option.map_eq_some_iff.mp h
      obtain ⟨document, hcompletes⟩ := completes_of_ofNumeral? hnumeral
      exact .inr ⟨numeral, document, rfl, hcompletes, rfl⟩
  | string | escape | hex => cases h

theorem start?_cases {c : Char} {mode : Mode} (h : start? c = some ([], mode)) :
    (isSpace c = true ∧ mode = .between) ∨ mode = .string [] ∨ mode = .numeral [c] ∨
      mode = .word [c] := by
  unfold start? at h
  split at h
  next hspace =>
    cases h
    exact .inl ⟨hspace, rfl⟩
  next =>
    split at h
    next =>
      cases h
      exact .inr (.inl rfl)
    next =>
      split at h
      next =>
        cases h
        exact .inr (.inr (.inl rfl))
      next =>
        split at h
        next =>
          cases h
          exact .inr (.inr (.inr rfl))
        next =>
          obtain ⟨_, _, heq⟩ := Option.map_eq_some_iff.mp h
          cases heq

theorem isSpace_of_start? {c : Char} (h : start? c = some ([], .between)) :
    isSpace c = true := by
  rcases start?_cases h with ⟨hspace, _⟩ | hmode | hmode | hmode
  · exact hspace
  all_goals cases hmode

end JsonLexeme

/-! ## After a complete value -/

namespace Document.Reader

open JsonLexeme

/-- A complete document stays what it is. -/
theorem steps?_nothing {stack : List Open} {document : Document}
    {lexemes : List JsonLexeme} {reader : Reader}
    (h : steps? ⟨stack, .nothing document⟩ lexemes = some reader) :
    reader = ⟨stack, .nothing document⟩ := by
  cases lexemes with
  | nil =>
      cases h
      rfl
  | cons lexeme rest => cases h

theorem run?_nothing {stack : List Open} {document result : Document}
    {mode : JsonLexeme.Mode} {cs : List Char}
    (h : run? ⟨stack, .nothing document⟩ mode cs = some result) :
    result = document := by
  induction cs generalizing mode with
  | nil =>
      simp only [run?, Option.bind_eq_some_iff] at h
      obtain ⟨lexemes, _, reader, hsteps, hdocument⟩ := h
      rw [steps?_nothing hsteps] at hdocument
      cases hdocument
      rfl
  | cons c cs ih =>
      rw [run?] at h
      split at h
      next => cases h
      next lexemes next _ =>
        split at h
        next => cases h
        next reader hsteps =>
          rw [steps?_nothing hsteps] at h
          exact ih h

theorem steps?_scalar {lexeme : JsonLexeme} {document : Document}
    (hscalar : lexeme.IsScalar document) (rest : List JsonLexeme) :
    steps? start (lexeme :: rest) = steps? ⟨[], .nothing document⟩ rest := by
  have hstep : start.step? lexeme = some ⟨[], .nothing document⟩ := hscalar.2 []
  rw [steps?, hstep, Option.bind_some]

theorem eq_nil_of_steps?_nothing {stack : List Open} {document : Document}
    {lexemes : List JsonLexeme} {reader : Reader}
    (h : steps? ⟨stack, .nothing document⟩ lexemes = some reader) :
    lexemes = [] := by
  cases lexemes with
  | nil => rfl
  | cons lexeme rest => cases h

/-- After a complete document there are only spaces. -/
theorem isSpace_of_run?_nothing {stack : List Open} {document result : Document} {mode : Mode}
    {cs : List Char} (h : run? ⟨stack, .nothing document⟩ mode cs = some result) :
    mode = .between ∧ ∀ c ∈ cs, isSpace c = true := by
  induction cs generalizing mode with
  | nil =>
      simp only [run?, Option.bind_eq_some_iff] at h
      obtain ⟨lexemes, hfinish, reader, hsteps, _⟩ := h
      rw [eq_nil_of_steps?_nothing hsteps] at hfinish
      rcases finish?_cases hfinish with ⟨hmode, _⟩ | ⟨_, _, hlexemes, _⟩
      · exact ⟨hmode, List.forall_mem_nil _⟩
      · cases hlexemes
  | cons c cs ih =>
      rw [run?] at h
      split at h
      next => cases h
      next lexemes next hstep =>
        split at h
        next => cases h
        next reader hsteps =>
          rw [eq_nil_of_steps?_nothing hsteps] at hstep
          rw [steps?_nothing hsteps] at h
          obtain ⟨rfl, hspaces⟩ := ih h
          by_cases hmode : mode = .between
          · subst hmode
            exact ⟨rfl, List.forall_mem_cons.mpr ⟨isSpace_of_start? hstep, hspaces⟩⟩
          · rcases step?_cases hmode hstep with ⟨_, hgoes⟩ | ⟨_, _, _, hlexemes, _⟩
            · exact absurd rfl hgoes.ne_between
            · cases hlexemes

theorem run?_between_append {reader : Reader} {spaces : List Char}
    (h : ∀ c ∈ spaces, isSpace c = true) (cs : List Char) :
    run? reader .between (spaces ++ cs) = run? reader .between cs := by
  induction spaces with
  | nil => rfl
  | cons c spaces ih =>
      obtain ⟨hspace, hspaces⟩ := List.forall_mem_cons.mp h
      have hstep : JsonLexeme.step? .between c = some ([], .between) := by
        simp [JsonLexeme.step?, start?, hspace]
      rw [List.cons_append, run?, hstep]
      exact ih hspaces

/-- A document of one lexeme is all there is in a text but for spaces. -/
theorem eq_scalar_of_run? {lexeme : JsonLexeme} {scalar result : Document} {rest : List JsonLexeme}
    {reader : Reader} {mode : Mode} {cs : List Char} (hscalar : lexeme.IsScalar scalar)
    (hsteps : start.steps? (lexeme :: rest) = some reader)
    (h : run? reader mode cs = some result) :
    result = scalar ∧ rest = [] ∧ mode = .between ∧ ∀ c ∈ cs, isSpace c = true := by
  rw [steps?_scalar hscalar] at hsteps
  rw [steps?_nothing hsteps] at h
  obtain ⟨hmode, hspaces⟩ := isSpace_of_run?_nothing h
  exact ⟨run?_nothing h, eq_nil_of_steps?_nothing hsteps, hmode, hspaces⟩

end Document.Reader

/-! ## The value of a mode -/

namespace JsonLexeme

/-- What the rest of a text makes of a mode into which the text led at its start. -/
def Mode.Gives : Mode → List Char → Document → Prop
  | .between, _, _ => True
  | .word _, _, document => document = .null ∨ ∃ b, document = .bool b
  | .numeral chars, cs, document =>
    ∃ more after numeral, cs = more ++ after ∧ (∀ c ∈ after, isSpace c = true) ∧
      Numeral.ofChars? (chars.reverse ++ more) = some numeral ∧
        document = .number numeral.number?
  | .string points, cs, document | .escape points, cs, document | .hex points _ _, cs, document =>
    document.IsTextBelow (points.length + cs.length)

theorem Mode.gives_iff_of_points? {mode : Mode} {points : List Nat} {cs : List Char}
    {document : Document} (h : mode.points? = some points) :
    mode.Gives cs document ↔ document.IsTextBelow (points.length + cs.length) := by
  cases mode with
  | between | word | numeral => cases h
  | string | escape | hex =>
      cases h
      exact Iff.rfl

theorem Mode.Gives.isStructure_eq_false {mode : Mode} {cs : List Char} {document : Document}
    (h : mode.Gives cs document) (hmode : mode ≠ .between) :
    document.isStructure = false := by
  cases mode with
  | between => exact absurd rfl hmode
  | word => rcases h with rfl | ⟨_, rfl⟩ <;> rfl
  | numeral =>
      obtain ⟨_, _, _, _, _, _, rfl⟩ := h
      rfl
  | string | escape | hex =>
      obtain ⟨_, rfl, _⟩ := h
      rfl

theorem Mode.Completes.gives {mode : Mode} {lexeme : JsonLexeme} {document : Document}
    {cs : List Char} (h : mode.Completes lexeme document)
    (hspaces : mode.points? = none → ∀ c ∈ cs, isSpace c = true)
    (hquote : mode.points? ≠ none → cs ≠ []) :
    mode.Gives cs document := by
  cases h with
  | word hkind => exact hkind
  | @numeral chars numeral hnumeral =>
      refine ⟨[], cs, numeral, rfl, hspaces rfl, ?_, rfl⟩
      rw [List.append_nil]
      exact hnumeral
  | @string points text hlength =>
      refine ⟨text, rfl, ?_⟩
      intro s hs
      have hbound := hlength s hs
      have hcs := List.length_pos_iff.mpr (hquote nofun)
      omega

/-- The rest of a text after a character makes of the mode what the whole does before it. -/
theorem Mode.Continues.gives {mode next : Mode} {c : Char} {cs : List Char} {document : Document}
    (h : mode.Continues c next) (hnext : next.Gives cs document) :
    mode.Gives (c :: cs) document := by
  cases h with
  | word => exact hnext
  | numeral =>
      obtain ⟨more, after, numeral, rfl, hspaces, hnumeral, hdocument⟩ := hnext
      refine ⟨c :: more, after, numeral, rfl, hspaces, ?_, hdocument⟩
      rwa [List.reverse_cons, List.append_assoc, List.singleton_append] at hnumeral
  | string hmode hmore hlength =>
      rw [Mode.gives_iff_of_points? hmode]
      exact ((Mode.gives_iff_of_points? hmore).mp hnext).cons hlength

end JsonLexeme

namespace Document.Reader

open JsonLexeme

/-- Until the first lexeme is complete the reader has seen nothing of the document. -/
theorem gives_of_run? {mode : Mode} {cs : List Char} {document : Document}
    (h : run? start mode cs = some document) :
    mode.Gives cs document := by
  induction cs generalizing mode with
  | nil =>
      simp only [run?, Option.bind_eq_some_iff] at h
      obtain ⟨lexemes, hfinish, reader, hsteps, hdocument⟩ := h
      rcases finish?_cases hfinish with ⟨rfl, _⟩ | ⟨lexeme, scalar, rfl, hcompletes, hpoints⟩
      · trivial
      · have hend : run? reader .between [] = some document := hdocument
        obtain ⟨rfl, _⟩ := eq_scalar_of_run? hcompletes.isScalar hsteps hend
        exact hcompletes.gives (fun _ => List.forall_mem_nil _) (absurd hpoints)
  | cons c cs ih =>
      rw [run?] at h
      split at h
      next => cases h
      next lexemes next hstep =>
        split at h
        next => cases h
        next reader hsteps =>
          by_cases hmode : mode = .between
          · subst hmode
            trivial
          · rcases step?_cases hmode hstep with
              ⟨rfl, hgoes⟩ | ⟨lexeme, scalar, rest, rfl, hcompletes, hstart⟩
            · cases hsteps
              exact hgoes.gives (ih h)
            · obtain ⟨rfl, rfl, rfl, hspaces⟩ := eq_scalar_of_run? hcompletes.isScalar hsteps h
              refine hcompletes.gives ?_ (fun _ => List.cons_ne_nil c cs)
              intro hpoints
              exact List.forall_mem_cons.mpr ⟨isSpace_of_start? (hstart hpoints), hspaces⟩

end Document.Reader

/-! ## Arrays and objects -/

namespace Document.Reader

open JsonLexeme

/-- A run with something open ends with an array or an object. -/
def Opened (reader : Reader) : Prop :=
  (reader.stack ≠ [] ∧ ∀ document, reader.expected ≠ .nothing document) ∨
    ∃ document, reader.expected = .nothing document ∧ document.isStructure = true

theorem Opened.of_close? {stack : List Open} {document : Document} {next : Reader}
    (h : close? stack document = some next)
    (hopen : stack ≠ [] ∨ document.isStructure = true) :
    next.Opened := by
  unfold close? at h
  split at h
  next =>
    cases h
    exact .inr ⟨document, rfl, hopen.resolve_left (· rfl)⟩
  next =>
    cases h
    exact .inl ⟨List.cons_ne_nil _ _, nofun⟩
  next =>
    cases h
    exact .inl ⟨List.cons_ne_nil _ _, nofun⟩
  next => cases h

theorem Opened.of_value? {stack : List Open} {lexeme : JsonLexeme} {next : Reader}
    (h : value? stack lexeme = some next) (hopen : stack ≠ []) :
    next.Opened := by
  unfold value? at h
  split at h
  next =>
    cases h
    exact .inl ⟨List.cons_ne_nil _ _, nofun⟩
  next =>
    cases h
    exact .inl ⟨List.cons_ne_nil _ _, nofun⟩
  next => exact .of_close? h (.inl hopen)
  next => exact .of_close? h (.inl hopen)
  all_goals cases h

theorem Opened.of_end? {stack : List Open} {lexeme : JsonLexeme} {next : Reader}
    (h : end? stack lexeme = some next) :
    next.Opened := by
  unfold end? at h
  split at h
  next => exact .of_close? h (.inr rfl)
  next => exact .of_close? h (.inr rfl)
  next => cases h

theorem Opened.of_name? {stack : List Open} {name : Option String} {next : Reader}
    (h : name? stack name = some next) :
    next.Opened := by
  unfold name? at h
  split at h
  next =>
    cases h
    exact .inl ⟨List.cons_ne_nil _ _, nofun⟩
  next => cases h

theorem Opened.of_comma? {stack : List Open} {next : Reader} (h : comma? stack = some next) :
    next.Opened := by
  unfold comma? at h
  split at h
  next =>
    cases h
    exact .inl ⟨List.cons_ne_nil _ _, nofun⟩
  next =>
    cases h
    exact .inl ⟨List.cons_ne_nil _ _, nofun⟩
  next => cases h

theorem Opened.step {reader next : Reader} {lexeme : JsonLexeme} (hopened : reader.Opened)
    (h : reader.step? lexeme = some next) :
    next.Opened := by
  obtain ⟨stack, expected⟩ := reader
  rcases hopened with ⟨hstack, hexpected⟩ | ⟨document, rfl, _⟩
  · cases expected with
    | value => exact .of_value? h hstack
    | itemOrEnd =>
        cases lexeme with
        | closeArray => exact .of_end? h
        | openArray | openObject | closeObject | comma | colon | text | atom =>
            simp only [step?] at h
            exact .of_value? h hstack
    | nameOrEnd =>
        cases lexeme with
        | closeObject => exact .of_end? h
        | text name => exact .of_name? h
        | openArray | openObject | closeArray | comma | colon | atom => cases h
    | name =>
        cases lexeme with
        | text name => exact .of_name? h
        | openArray | openObject | closeArray | closeObject | comma | colon | atom => cases h
    | colon =>
        cases lexeme with
        | colon =>
            cases h
            exact .inl ⟨hstack, nofun⟩
        | openArray | openObject | closeArray | closeObject | comma | text | atom => cases h
    | commaOrEnd =>
        cases lexeme with
        | comma => exact .of_comma? h
        | openArray | openObject | closeArray | closeObject | colon | text | atom =>
            simp only [step?] at h
            exact .of_end? h
    | nothing document => exact absurd rfl (hexpected document)
  · cases h

theorem Opened.steps {reader next : Reader} {lexemes : List JsonLexeme} (hopened : reader.Opened)
    (h : reader.steps? lexemes = some next) :
    next.Opened := by
  induction lexemes generalizing reader with
  | nil =>
      cases h
      exact hopened
  | cons lexeme rest ih =>
      obtain ⟨middle, hstep, hrest⟩ := Option.bind_eq_some_iff.mp h
      exact ih (hopened.step hstep) hrest

theorem Opened.run {reader : Reader} {mode : Mode} {cs : List Char} {document : Document}
    (hopened : reader.Opened) (h : run? reader mode cs = some document) :
    document.isStructure = true := by
  induction cs generalizing reader mode with
  | nil =>
      simp only [run?, Option.bind_eq_some_iff] at h
      obtain ⟨lexemes, _, next, hsteps, hdocument⟩ := h
      rcases hopened.steps hsteps with ⟨_, hexpected⟩ | ⟨found, hexpected, hstructure⟩
      · unfold document? at hdocument
        split at hdocument
        next found heq => exact absurd heq (hexpected found)
        next => cases hdocument
      · rw [document?, hexpected] at hdocument
        cases hdocument
        exact hstructure
  | cons c cs ih =>
      rw [run?] at h
      split at h
      next => cases h
      next =>
        split at h
        next => cases h
        next next hsteps => exact ih (hopened.steps hsteps) h

/-- A text that starts with a mark is an array or an object. -/
theorem isStructure_of_mark? {c : Char} {lexeme : JsonLexeme} {reader : Reader} {mode : Mode}
    {cs : List Char} {document : Document} (hmark : mark? c = some lexeme)
    (hsteps : start.steps? [lexeme] = some reader) (h : run? reader mode cs = some document) :
    document.isStructure = true := by
  have hopened : reader.Opened := by
    unfold mark? at hmark
    split at hmark
    case h_7 => cases hmark
    all_goals
      cases hmark
      cases hsteps
    all_goals exact .inl ⟨List.cons_ne_nil _ _, nofun⟩
  exact hopened.run h

end Document.Reader

/-! ## The first lexeme of a text -/

namespace Document

open JsonLexeme

/-- Behind leading spaces a text that is no array and no object has its only lexeme. -/
theorem exists_first_lexeme {cs : List Char} {document : Document}
    (h : ofChars? cs = some document) (hscalar : document.isStructure = false) :
    ∃ before c rest mode, cs = before ++ c :: rest ∧ (∀ c ∈ before, isSpace c = true) ∧
      start? c = some ([], mode) ∧ mode ≠ .between ∧ mode.Gives rest document := by
  induction cs with
  | nil => cases h
  | cons c cs ih =>
      have hrun := h
      have hstep : JsonLexeme.step? .between c = start? c := rfl
      rw [ofChars?, Reader.run?, hstep] at hrun
      by_cases hspace : isSpace c = true
      · rw [start?, if_pos hspace] at hrun
        obtain ⟨before, first, rest, mode, rfl, hbefore, hfirst⟩ := ih hrun
        exact ⟨c :: before, first, rest, mode, rfl, List.forall_mem_cons.mpr ⟨hspace, hbefore⟩,
          hfirst⟩
      · have hblank : isBlank c = false := by
          cases hblank : isBlank c with
          | false => rfl
          | true =>
              rw [start?_of_isBlank hblank, if_neg hspace] at hrun
              cases hrun
        split at hrun
        next => cases hrun
        next lexemes mode hstart =>
          split at hrun
          next => cases hrun
          next reader hsteps =>
            rcases start?_of_not_isBlank hblank hstart with ⟨rfl, hmode⟩ | ⟨lexeme, hmark, rfl⟩
            · cases hsteps
              exact ⟨[], c, cs, mode, rfl, List.forall_mem_nil _, hstart, hmode,
                Reader.gives_of_run? hrun⟩
            · rw [Reader.isStructure_of_mark? hmark hsteps hrun] at hscalar
              cases hscalar

end Document

end QueryShape
