import QueryShape.Binary64
import QueryShape.Fields

/-!
# JSON values

Numbers keep whether they are integers or binary64 numbers, and objects keep the
order of their names.  Two values are alike when they differ only in the order of
names and in the sign of zeros; `Json.normal` chooses one value of each class of
alike values, so likeness is equality of normal forms.
-/

namespace QueryShape

inductive JsonNumber where
  | int (value : Int)
  | float (value : Binary64)
deriving DecidableEq

inductive Json where
  | null
  | bool (value : Bool)
  | number (value : JsonNumber)
  | text (value : String)
  | array (items : List Json)
  | object (fields : List (String × Json))

namespace Json

mutual

def decEq : (a b : Json) → Decidable (a = b)
  | .null, b =>
    match b with
    | .null => isTrue rfl
    | .bool _ | .number _ | .text _ | .array _ | .object _ => isFalse nofun
  | .bool x, b =>
    match b with
    | .bool y => if h : x = y then isTrue (h ▸ rfl) else isFalse fun e => h (bool.inj e)
    | .null | .number _ | .text _ | .array _ | .object _ => isFalse nofun
  | .number x, b =>
    match b with
    | .number y => if h : x = y then isTrue (h ▸ rfl) else isFalse fun e => h (number.inj e)
    | .null | .bool _ | .text _ | .array _ | .object _ => isFalse nofun
  | .text x, b =>
    match b with
    | .text y => if h : x = y then isTrue (h ▸ rfl) else isFalse fun e => h (text.inj e)
    | .null | .bool _ | .number _ | .array _ | .object _ => isFalse nofun
  | .array xs, b =>
    match b with
    | .array ys =>
      match decEqItems xs ys with
      | isTrue h => isTrue (h ▸ rfl)
      | isFalse h => isFalse fun e => h (array.inj e)
    | .null | .bool _ | .number _ | .text _ | .object _ => isFalse nofun
  | .object xs, b =>
    match b with
    | .object ys =>
      match decEqFields xs ys with
      | isTrue h => isTrue (h ▸ rfl)
      | isFalse h => isFalse fun e => h (object.inj e)
    | .null | .bool _ | .number _ | .text _ | .array _ => isFalse nofun

def decEqItems : (xs ys : List Json) → Decidable (xs = ys)
  | [], [] => isTrue rfl
  | [], _ :: _ => isFalse nofun
  | _ :: _, [] => isFalse nofun
  | x :: xs, y :: ys =>
    match decEq x y, decEqItems xs ys with
    | isTrue h, isTrue hs => isTrue (h ▸ hs ▸ rfl)
    | isFalse h, _ => isFalse fun e => h (List.cons.inj e).1
    | _, isFalse hs => isFalse fun e => hs (List.cons.inj e).2

def decEqFields : (xs ys : List (String × Json)) → Decidable (xs = ys)
  | [], [] => isTrue rfl
  | [], _ :: _ => isFalse nofun
  | _ :: _, [] => isFalse nofun
  | (j, x) :: xs, (k, y) :: ys =>
    if hk : j = k then
      match decEq x y, decEqFields xs ys with
      | isTrue h, isTrue hs => isTrue (hk ▸ h ▸ hs ▸ rfl)
      | isFalse h, _ => isFalse fun e => h (Prod.mk.inj (List.cons.inj e).1).2
      | _, isFalse hs => isFalse fun e => hs (List.cons.inj e).2
    else
      isFalse fun e => hk (Prod.mk.inj (List.cons.inj e).1).1

end

instance : DecidableEq Json := decEq

instance : Inhabited Json := ⟨.null⟩

def isNull : Json → Bool
  | .null => true
  | _ => false

def text? : Json → Option String
  | .text s => some s
  | _ => none

/-- The value of a name, when the value is an object that has it. -/
def get? : Json → String → Option Json
  | .object fields, key => Fields.get? fields key
  | _, _ => none

end Json

/-- A negative zero becomes a positive one. -/
def JsonNumber.normal : JsonNumber → JsonNumber
  | .int i => .int i
  | .float x => .float (if x.isZero then .zero else x)

namespace Json

mutual

/-- The value with the names of every object in order and every zero positive. -/
def normal : Json → Json
  | .null => .null
  | .bool b => .bool b
  | .number n => .number n.normal
  | .text s => .text s
  | .array items => .array (normalItems items)
  | .object fields => .object (normalFields fields)

def normalItems : List Json → List Json
  | [] => []
  | item :: rest => item.normal :: normalItems rest

def normalFields : List (String × Json) → List (String × Json)
  | [] => []
  | (name, value) :: rest => Fields.putByName (normalFields rest) name value.normal

end

def alike (a b : Json) : Bool :=
  decide (a.normal = b.normal)

theorem alike_comm (a b : Json) : a.alike b = b.alike a := by
  simp only [alike]
  exact decide_eq_decide.2 eq_comm

theorem alike_self (a : Json) : a.alike a = true := by
  simp [alike]

end Json

end QueryShape
