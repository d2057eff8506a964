import QueryShape.Error
import QueryShape.Json.Embedded

/-!
# Reading filters

A filter is read from null or from an array in which terms and combinators
alternate.  Every element is read before the alternation is checked, so a faulty
element is reported before a faulty arrangement.  Each array uses up one level of
the room for nesting, an empty one none; the room that is left bounds the recursion.
-/

namespace QueryShape

/-- An element of an array before its place is checked; a group may still be empty. -/
inductive FilterElement where
  | combinator (combinator : Combinator)
  | condition (condition : Condition)
  | group (filter : Filter)

namespace Condition

/-- No kind, null and the empty name stand for a comparison. -/
def kindOf (fields : List (String × Json)) : Except Error ConditionKind :=
  match Json.field fields "type" with
  | .null => .ok .compare
  | .text "" => .ok .compare
  | .text name =>
    match ConditionKind.ofName? name with
    | some kind => .ok kind
    | none => .error (.unknownConditionKind (.text name))
  | other => .error (.unknownConditionKind other)

def argsOf (kind : ConditionKind) (fields : List (String × Json)) : Except Error (List Json) :=
  match Json.field fields "args" with
  | .array args => .ok args
  | .null => .error (.invalidArguments kind .missing)
  | _ => .error (.invalidArguments kind .notArray)

def parse (fields : List (String × Json)) : Except Error Condition := do
  let kind ← kindOf fields
  let args ← argsOf kind fields
  return ⟨kind, args⟩

end Condition

namespace FilterElement

/-- Reads an element that is not a string, groups by the given reader. -/
def parseValue (group : Json → Except Error Filter) : Json → Except Error FilterElement
  | .array items => .group <$> group (.array items)
  | .object fields => .condition <$> Condition.parse fields
  | other => .error (.malformedFilter (.unexpectedElement other))

/-- A string is a combinator or spells an array or an object. -/
def parse (group : Json → Except Error Filter) : Json → Except Error FilterElement
  | .text token =>
    match Combinator.ofToken? token with
    | some c => .ok (.combinator c)
    | none =>
      match Json.embedded? token with
      | some value => parseValue group value
      | none => .error (.malformedFilter (.unknownToken token))
  | value => parseValue group value

def term (position : Nat) : FilterElement → Except FilterFault FilterTerm
  | .condition c => .ok (.condition c)
  | .group (.chain terms) => .ok (.group terms)
  | .group .empty => .error (.emptyGroup position)
  | .combinator _ => .error (.termMissing position)

/-- Joins elements from a position on. -/
def chain (position : Nat) : List FilterElement → Except FilterFault FilterChain
  | [] => .error (.termMissing position)
  | [element] => .one <$> element.term position
  | element :: separator :: rest => do
    let first ← element.term position
    match separator with
    | .combinator c => .join first c <$> chain (position + 2) rest
    | _ => .error (.combinatorMissing (position + 1))

def assemble (elements : List FilterElement) : Except FilterFault Filter :=
  if elements.isEmpty then .ok .empty
  else if elements.length % 2 = 0 then .error (.evenLength elements.length)
  else .chain <$> chain 0 elements

end FilterElement

namespace Filter

/-- Reads a filter with at most `room` levels; `limit` is the number of levels that a message
names. -/
def parseWithin (limit : Nat) : Nat → Json → Except Error Filter
  | _, .null => .ok .empty
  | _, .array [] => .ok .empty
  | 0, .array (_ :: _) => .error (.nestingTooDeep limit)
  | room + 1, .array (item :: rest) => do
    let elements ← (item :: rest).mapM (FilterElement.parse fun raw => parseWithin limit room raw)
    (FilterElement.assemble elements).mapError .malformedFilter
  | _, other => .error (.malformedFilter (.notArray other))

/-- Reads a filter whose nesting is at most `limit`. -/
def parse (limit : Nat) (raw : Json) : Except Error Filter :=
  parseWithin limit limit raw

end Filter

end QueryShape
