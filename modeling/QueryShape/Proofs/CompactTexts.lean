import QueryShape.Match.Evaluate
import QueryShape.Proofs.IntegerTexts

/-!
# Compact texts

The compact text of a value has no spaces.  Literals and numbers are written as they are, a string
between quotes, an array and an object between their brackets with a comma between two parts, and
a name before its value with a colon.  Only quotes, backslashes and control characters are written
in another way than as themselves.  Each value has one text of this form, which is the one that is
printed.

Beside a pattern a string stands for itself and every other value for its compact text; null
stands for no text.
-/

namespace QueryShape

/-- A character of a string as it is written between quotes. -/
inductive QuotedChar : Char → List Char → Prop
  | quote : QuotedChar '"' ['\\', '"']
  | backslash : QuotedChar '\\' ['\\', '\\']
  | backspace : QuotedChar '\x08' ['\\', 'b']
  | tab : QuotedChar '\t' ['\\', 't']
  | newline : QuotedChar '\n' ['\\', 'n']
  | formFeed : QuotedChar '\x0c' ['\\', 'f']
  | carriageReturn : QuotedChar '\r' ['\\', 'r']
  | control {c : Char} (hlow : c.toNat < 0x20)
      (hmark : c ∉ ['\x08', '\t', '\n', '\x0c', '\r']) :
      QuotedChar c
        ['\\', 'u', '0', '0', Nat.digitChar (c.toNat / 16), Nat.digitChar (c.toNat % 16)]
  | itself {c : Char} (hhigh : 0x20 ≤ c.toNat) (hquote : c ≠ '"') (hbackslash : c ≠ '\\') :
      QuotedChar c [c]

inductive QuotedChars : List Char → List Char → Prop
  | nil : QuotedChars [] []
  | cons {c : Char} {cs text rest : List Char} (hchar : QuotedChar c text)
      (hrest : QuotedChars cs rest) : QuotedChars (c :: cs) (text ++ rest)

mutual

inductive CompactText : Json → List Char → Prop
  | null : CompactText .null "null".toList
  | yes : CompactText (.bool true) "true".toList
  | no : CompactText (.bool false) "false".toList
  | int (i : Int) : CompactText (.number (.int i)) (toString i).toList
  | float (x : Binary64) : CompactText (.number (.float x)) (jsonDecimals.text x).toList
  | text {s : String} {body : List Char} (hbody : QuotedChars s.toList body) :
      CompactText (.text s) ('"' :: body ++ ['"'])
  | array {items : List Json} {texts : List (List Char)} (hitems : CompactItems items texts) :
      CompactText (.array items) ('[' :: [','].intercalate texts ++ [']'])
  | object {fields : List (String × Json)} {texts : List (List Char)}
      (hfields : CompactFields fields texts) :
      CompactText (.object fields) ('\x7b' :: [','].intercalate texts ++ ['\x7d'])

inductive CompactItems : List Json → List (List Char) → Prop
  | nil : CompactItems [] []
  | cons {item : Json} {items : List Json} {text : List Char} {texts : List (List Char)}
      (hitem : CompactText item text) (hitems : CompactItems items texts) :
      CompactItems (item :: items) (text :: texts)

inductive CompactFields : List (String × Json) → List (List Char) → Prop
  | nil : CompactFields [] []
  | cons {name : String} {value : Json} {fields : List (String × Json)}
      {body text : List Char} {texts : List (List Char)} (hname : QuotedChars name.toList body)
      (hvalue : CompactText value text) (hfields : CompactFields fields texts) :
      CompactFields ((name, value) :: fields) (('"' :: body ++ '"' :: ':' :: text) :: texts)

end

/-- The text that stands for a value beside a pattern. -/
inductive OperandText : Json → List Char → Prop
  | string (s : String) : OperandText (.text s) s.toList
  | other {value : Json} {text : List Char} (hnull : value ≠ .null)
      (hstring : ∀ s, value ≠ .text s) (htext : CompactText value text) :
      OperandText value text

/-! ## Characters -/

theorem toList_controlEscape {c : Char} (h : c.toNat < 0x20) :
    (Json.controlEscape c).toList =
      ['\\', 'u', '0', '0', Nat.digitChar (c.toNat / 16), Nat.digitChar (c.toNat % 16)] := by
  have hall : ∀ n < 0x20,
      (Json.controlEscape (Char.ofNat n)).toList =
        ['\\', 'u', '0', '0', Nat.digitChar (n / 16), Nat.digitChar (n % 16)] := by
    decide +kernel
  have hc := hall c.toNat h
  rwa [Char.ofNat_toNat] at hc

theorem toList_toString_char (c : Char) :
    c.toString.toList = [c] := by
  rw [Char.toString_eq_singleton, String.toList_singleton]

theorem quotedChar_escapedChar (c : Char) :
    QuotedChar c (Json.escapedChar c).toList := by
  unfold Json.escapedChar
  split
  next => exact .quote
  next => exact .backslash
  next => exact .backspace
  next => exact .tab
  next => exact .newline
  next => exact .formFeed
  next => exact .carriageReturn
  next hquote hbackslash hbackspace htab hnewline hformFeed hcarriageReturn =>
    split
    next hlow =>
      rw [toList_controlEscape hlow]
      apply QuotedChar.control hlow
      simp only [List.mem_cons, List.not_mem_nil, or_false, not_or]
      exact ⟨hbackspace, htab, hnewline, hformFeed, hcarriageReturn⟩
    next hhigh =>
      rw [toList_toString_char]
      exact .itself (by omega) hquote hbackslash

theorem QuotedChar.eq_escapedChar {c : Char} {text : List Char} (h : QuotedChar c text) :
    text = (Json.escapedChar c).toList := by
  cases h with
  | quote | backslash | backspace | tab | newline | formFeed | carriageReturn => rfl
  | control hlow hmark =>
      unfold Json.escapedChar
      split
      iterate 2 next => exact absurd hlow (by decide)
      iterate 5 next => exact absurd (by decide) hmark
      next => rw [if_pos hlow, toList_controlEscape hlow]
  | itself hhigh hquote hbackslash =>
      unfold Json.escapedChar
      split
      next => exact absurd rfl hquote
      next => exact absurd rfl hbackslash
      iterate 5 next => exact absurd hhigh (by decide)
      next => rw [if_neg (by omega), toList_toString_char]

theorem quotedChars_iff {cs body : List Char} :
    QuotedChars cs body ↔ body = cs.flatMap fun c => (Json.escapedChar c).toList := by
  constructor
  · intro h
    induction h with
    | nil => rfl
    | cons hchar _ ih => rw [List.flatMap_cons, hchar.eq_escapedChar, ih]
  · rintro rfl
    induction cs with
    | nil => exact .nil
    | cons c cs ih =>
        rw [List.flatMap_cons]
        exact .cons (quotedChar_escapedChar c) ih

theorem toList_stringText (s : String) :
    (Json.stringText s).toList =
      '"' :: (s.toList.flatMap fun c => (Json.escapedChar c).toList) ++ ['"'] := by
  rw [Json.stringText, String.toList_append, String.toList_append, String.toList_join,
    List.flatMap_map]
  rfl

theorem toList_fieldText (name : String) (value : Json) :
    (Json.stringText name ++ ":" ++ value.render).toList =
      '"' :: (name.toList.flatMap fun c => (Json.escapedChar c).toList) ++
        '"' :: ':' :: value.render.toList := by
  have hcolon : ":".toList = [':'] := rfl
  rw [String.toList_append, String.toList_append, toList_stringText, hcolon, List.append_assoc,
    List.append_assoc]
  rfl

/-! ## Values -/

mutual

theorem compactText_render :
    ∀ value : Json, CompactText value value.render.toList
  | .null => .null
  | .bool true => .yes
  | .bool false => .no
  | .number (.int i) => by
      rw [Json.render, JsonNumber.render_int]
      exact .int i
  | .number (.float x) => .float x
  | .text s => by
      rw [Json.render, toList_stringText]
      exact .text (quotedChars_iff.mpr rfl)
  | .array items => by
      rw [Json.render, String.toList_append, String.toList_append, String.toList_intercalate]
      exact .array (compactItems_itemTexts items)
  | .object fields => by
      rw [Json.render, String.toList_append, String.toList_append, String.toList_intercalate]
      exact .object (compactFields_fieldTexts fields)

theorem compactItems_itemTexts :
    ∀ items : List Json, CompactItems items ((Json.itemTexts items).map String.toList)
  | [] => .nil
  | item :: rest => .cons (compactText_render item) (compactItems_itemTexts rest)

theorem compactFields_fieldTexts :
    ∀ fields : List (String × Json),
      CompactFields fields ((Json.fieldTexts fields).map String.toList)
  | [] => .nil
  | (name, value) :: rest => by
      rw [Json.fieldTexts, List.map_cons, toList_fieldText]
      exact .cons (quotedChars_iff.mpr rfl) (compactText_render value)
        (compactFields_fieldTexts rest)

end

mutual

theorem CompactText.eq_render :
    ∀ {value : Json} {text : List Char}, CompactText value text → text = value.render.toList
  | _, _, .null | _, _, .yes | _, _, .no | _, _, .float _ => rfl
  | _, _, .int i => by rw [Json.render, JsonNumber.render_int]
  | _, _, .text hbody => by rw [Json.render, toList_stringText, quotedChars_iff.mp hbody]
  | _, _, .array hitems => by
      rw [CompactItems.eq_itemTexts hitems, Json.render, String.toList_append,
        String.toList_append, String.toList_intercalate]
      rfl
  | _, _, .object hfields => by
      rw [CompactFields.eq_fieldTexts hfields, Json.render, String.toList_append,
        String.toList_append, String.toList_intercalate]
      rfl

theorem CompactItems.eq_itemTexts :
    ∀ {items : List Json} {texts : List (List Char)},
      CompactItems items texts → texts = (Json.itemTexts items).map String.toList
  | _, _, .nil => rfl
  | _, _, .cons hitem hitems => by
      rw [CompactText.eq_render hitem, CompactItems.eq_itemTexts hitems]
      rfl

theorem CompactFields.eq_fieldTexts :
    ∀ {fields : List (String × Json)} {texts : List (List Char)},
      CompactFields fields texts → texts = (Json.fieldTexts fields).map String.toList
  | _, _, .nil => rfl
  | _, _, .cons hname hvalue hfields => by
      rw [CompactText.eq_render hvalue, CompactFields.eq_fieldTexts hfields,
        quotedChars_iff.mp hname, Json.fieldTexts, List.map_cons, toList_fieldText]

end

theorem operandText_iff {value : Json} {text : List Char} :
    OperandText value text ↔ ∃ s, value.likeText? = some s ∧ text = s.toList := by
  constructor
  · intro h
    cases h with
    | string s => exact ⟨s, rfl, rfl⟩
    | other hnull hstring htext =>
        refine ⟨value.render, ?_, htext.eq_render⟩
        cases value with
        | null => exact absurd rfl hnull
        | text s => exact absurd rfl (hstring s)
        | bool | number | array | object => rfl
  · rintro ⟨s, hs, rfl⟩
    have hother (hnull : value ≠ .null) (hstring : ∀ s, value ≠ .text s) :
        OperandText value value.render.toList :=
      .other hnull hstring (compactText_render value)
    cases value with
    | null => cases hs
    | text =>
        cases hs
        exact .string s
    | bool | number | array | object =>
        cases hs
        exact hother (by simp) (by simp)

end QueryShape
