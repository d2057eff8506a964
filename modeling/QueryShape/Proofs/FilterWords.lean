import Mathlib.Data.List.Forall2
import QueryShape.Filter.Parser
import QueryShape.Proofs.EmbeddedValues
import QueryShape.Proofs.Outcomes

/-!
# The words of filters

A combinator may be written in small and capital letters, and a kind of condition has one
of a few names or none.  These are the words that are read, and the two kinds do not get in
the way of values that are written inside strings.
-/

namespace QueryShape

/-- The letters of a combinator, each of them small or capital. -/
def Combinator.SpelledBy (combinator : Combinator) (token : String) : Prop :=
  List.Forall₂ (fun c letter => c = letter ∨ c = letter.toUpper) token.toList
    combinator.token.toList

/-- The names of a kind of condition; a comparison may go without a name. -/
def ConditionKind.spellings : ConditionKind → List String
  | .compare => ["", "where"]
  | .null => ["null", "whereNull"]
  | .notNull => ["notNull", "whereNotNull"]
  | .relation => ["whereRel", "whereRelation"]
  | .isIn => ["in", "whereIn"]
  | .notIn => ["notIn", "whereNotIn"]

inductive ConditionKind.Derives : Json → ConditionKind → Prop
  | absent : Derives .null .compare
  | named {name : String} {kind : ConditionKind} (h : name ∈ kind.spellings) :
      Derives (.text name) kind

/-- A missing field is null. -/
structure Condition.Derives (fields : List (String × Json)) (condition : Condition) : Prop where
  kind : ConditionKind.Derives (Json.field fields "type") condition.kind
  args : Json.field fields "args" = .array condition.args

/-! ## Words -/

theorem toNat_toLower (c : Char) :
    c.toLower.toNat = if 65 ≤ c.toNat ∧ c.toNat ≤ 90 then c.toNat + 32 else c.toNat := by
  have hcode : c.val.toNat = c.toNat := rfl
  have hrange : (c.val ≥ 'A'.val ∧ c.val ≤ 'Z'.val) ↔ 65 ≤ c.toNat ∧ c.toNat ≤ 90 := by
    simp only [ge_iff_le, UInt32.le_iff_toNat_le]
    exact Iff.rfl
  unfold Char.toLower
  split
  next h =>
    have hcapital := hrange.mp h
    rw [if_pos hcapital]
    show (c.val + ('a'.val - 'A'.val)).toNat = _
    rw [UInt32.toNat_add]
    show (c.toNat + 32) % 2 ^ 32 = _
    omega
  next h => rw [if_neg (fun hcapital => h (hrange.mpr hcapital))]

theorem toNat_toUpper (c : Char) :
    c.toUpper.toNat = if 97 ≤ c.toNat ∧ c.toNat ≤ 122 then c.toNat - 32 else c.toNat := by
  have hcode : c.val.toNat = c.toNat := rfl
  have hrange : ('a'.val ≤ c.val ∧ c.val ≤ 'z'.val) ↔ 97 ≤ c.toNat ∧ c.toNat ≤ 122 := by
    simp only [UInt32.le_iff_toNat_le]
    exact Iff.rfl
  unfold Char.toUpper
  split
  next h =>
    have hsmall := hrange.mp h
    rw [if_pos hsmall]
    show (c.val + ('A'.val - 'a'.val)).toNat = _
    rw [UInt32.toNat_add]
    -- the difference of the two alphabets, counted down from the end of the words
    show (c.toNat + 4294967264) % 2 ^ 32 = _
    omega
  next h => rw [if_neg (fun hsmall => h (hrange.mpr hsmall))]

def IsSmallLetter (c : Char) : Prop :=
  97 ≤ c.toNat ∧ c.toNat ≤ 122

theorem toLower_eq_iff {c letter : Char} (h : IsSmallLetter letter) :
    c.toLower = letter ↔ c = letter ∨ c = letter.toUpper := by
  unfold IsSmallLetter at h
  simp only [← Char.toNat_inj, toNat_toLower, toNat_toUpper, if_pos h]
  split <;> omega

theorem map_toLower_eq_iff {cs letters : List Char} (h : ∀ letter ∈ letters, IsSmallLetter letter) :
    cs.map Char.toLower = letters ↔
      List.Forall₂ (fun c letter => c = letter ∨ c = letter.toUpper) cs letters := by
  induction letters generalizing cs with
  | nil => rw [List.map_eq_nil_iff, List.forall₂_nil_right_iff]
  | cons letter letters ih =>
      have hletter : IsSmallLetter letter := h letter List.mem_cons_self
      have hrest : ∀ other ∈ letters, IsSmallLetter other :=
        fun other hother => h other (List.mem_cons_of_mem letter hother)
      cases cs with
      | nil => simp
      | cons c cs =>
          rw [List.map_cons, List.cons.injEq, List.forall₂_cons, toLower_eq_iff hletter, ih hrest]

namespace Combinator

theorem isSmallLetter_token (combinator : Combinator) :
    ∀ letter ∈ combinator.token.toList, IsSmallLetter letter := by
  have hall : combinator.token.toList.all fun c => 97 ≤ c.toNat && c.toNat ≤ 122 := by
    cases combinator <;> decide
  simpa [IsSmallLetter] using hall

theorem ofToken?_eq_some_iff {token : String} {combinator : Combinator} :
    ofToken? token = some combinator ↔ combinator.SpelledBy token := by
  have hword : ofToken? token = some combinator ↔
      String.ofList (token.toList.map Char.toLower) = combinator.token := by
    unfold ofToken?
    split
    next h => cases combinator <;> simp [h, Combinator.token]
    next h => cases combinator <;> simp [h, Combinator.token]
    next hand hor =>
      cases combinator
      · simpa [Combinator.token] using hand
      · simpa [Combinator.token] using hor
  rw [hword, ← String.toList_inj, String.toList_ofList]
  exact map_toLower_eq_iff combinator.isSmallLetter_token

theorem head_token (combinator : Combinator) :
    ∃ letters, combinator.token.toList = 'a' :: letters ∨
      combinator.token.toList = 'o' :: letters := by
  cases combinator
  · exact ⟨['n', 'd'], .inl rfl⟩
  · exact ⟨['r'], .inr rfl⟩

/-- No word opens an array or an object. -/
theorem embedded?_eq_none {token : String} {combinator : Combinator}
    (h : combinator.SpelledBy token) :
    Json.embedded? token = none := by
  have hhead : ∃ c cs, token.toList = c :: cs ∧
      isBlank c = false ∧ Json.opensStructure (c :: cs) = false := by
    unfold SpelledBy at h
    obtain ⟨letters, ha | ho⟩ := combinator.head_token
    · rw [ha, List.forall₂_cons_right_iff] at h
      obtain ⟨c, cs, rfl | rfl, _, heq⟩ := h
      · exact ⟨_, cs, heq, rfl, rfl⟩
      · exact ⟨_, cs, heq, rfl, rfl⟩
    · rw [ho, List.forall₂_cons_right_iff] at h
      obtain ⟨c, cs, rfl | rfl, _, heq⟩ := h
      · exact ⟨_, cs, heq, rfl, rfl⟩
      · exact ⟨_, cs, heq, rfl, rfl⟩
  obtain ⟨c, cs, heq, hblank, hopens⟩ := hhead
  rw [Json.embedded?, heq, trimStart_cons_of_not_isBlank hblank, hopens]
  rfl

end Combinator

namespace ConditionKind

theorem ofName?_eq_some_iff {name : String} {kind : ConditionKind} (h : name ≠ "") :
    ofName? name = some kind ↔ name ∈ kind.spellings := by
  unfold ofName?
  split <;> cases kind <;> simp_all [spellings]

end ConditionKind

namespace Condition

theorem kindOf_eq_ok_iff {fields : List (String × Json)} {kind : ConditionKind} :
    kindOf fields = .ok kind ↔ ConditionKind.Derives (Json.field fields "type") kind := by
  unfold kindOf
  generalize Json.field fields "type" = value
  constructor
  · intro h
    split at h
    next =>
      cases h
      exact .absent
    next =>
      cases h
      exact .named (by decide)
    next name hname =>
      split at h
      next known hknown =>
        cases h
        exact .named ((ConditionKind.ofName?_eq_some_iff hname).mp hknown)
      next => cases h
    next => cases h
  · intro h
    cases h with
    | absent => rfl
    | @named name _ hname =>
        by_cases hempty : name = ""
        · subst hempty
          cases kind with
          | compare => rfl
          | null | notNull | relation | isIn | notIn => exact absurd hname (by decide)
        · have hknown := (ConditionKind.ofName?_eq_some_iff hempty).mpr hname
          split
          next heq => cases heq
          next heq =>
            cases heq
            exact absurd rfl hempty
          next heq =>
            cases heq
            rw [hknown]
          next hother => exact absurd rfl (hother name)

theorem argsOf_eq_ok_iff {kind : ConditionKind} {fields : List (String × Json)}
    {args : List Json} :
    argsOf kind fields = .ok args ↔ Json.field fields "args" = .array args := by
  unfold argsOf
  split
  next h => simp [h]
  next h => simp [h]
  next harray _ => exact ⟨nofun, fun h => absurd h (harray args)⟩

theorem parse_eq_ok_iff {fields : List (String × Json)} {condition : Condition} :
    parse fields = .ok condition ↔ Condition.Derives fields condition := by
  obtain ⟨kind, args⟩ := condition
  simp only [parse, bind_eq_ok_iff, pure_eq_ok_iff, kindOf_eq_ok_iff, argsOf_eq_ok_iff]
  constructor
  · intro h
    obtain ⟨_, hkind, _, hargs, heq⟩ := h
    cases heq
    exact ⟨hkind, hargs⟩
  · intro h
    exact ⟨kind, h.kind, args, h.args, rfl⟩

end Condition

end QueryShape
