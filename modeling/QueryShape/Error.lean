import QueryShape.Filter.Basic

/-!
# Errors

Every failure of a request is named by its cause.  An error has a stable code, a
message in words and, for limits of the service, a hint.
-/

namespace QueryShape

inductive FilterFault where
  | notArray (got : Json)
  | unknownToken (token : String)
  | unexpectedElement (got : Json)
  | evenLength (length : Nat)
  | combinatorMissing (position : Nat)
  | termMissing (position : Nat)
  | emptyGroup (position : Nat)
deriving DecidableEq

/-- What an argument of a condition names. -/
inductive ArgumentRole where
  | column
  | relation
deriving DecidableEq

inductive ArgumentFault where
  | missing
  | notArray
  | notName (index : Nat) (role : ArgumentRole)
  | unknownOperator (got : Json)
  | wrongCount (expected got : Nat)
  | wrongComparisonCount (fewest got : Nat)
  | valuesNotArray
deriving DecidableEq

inductive EntryFault where
  | notArray (got : Json)
  | notEntry (got : Json)
  | missingName
  | columnsNotArray (name : String)
  | blankName (entry : String)
deriving DecidableEq

inductive ParameterShape where
  | columnNames
  | arrayOrNull
  | modelName
deriving DecidableEq

inductive Error where
  | malformedFilter (fault : FilterFault)
  | unknownConditionKind (kind : Json)
  | invalidArguments (kind : ConditionKind) (fault : ArgumentFault)
  | unsupportedLoad (names : List String)
  | unsupportedPredicate (name : String)
  | nestingTooDeep (limit : Nat)
  | invalidRelationship (fault : EntryFault)
  | invalidParameter (name : String) (expected : ParameterShape)
  | invalidIdentifier (text : String)
  | unknownModel (name : String)
  | unknownRelation (model relation : String)
  | notFound (model : String) (id : Json)
  | unreadableFile
  | invalidJson
  | invalidConfig
deriving DecidableEq

def natText (n : Nat) : String :=
  String.ofList (decimalDigits n)

def FilterFault.message : FilterFault → String
  | .notArray got => "filters must be an array, got " ++ got.render
  | .unknownToken token => "unrecognized filter token " ++ quoted token
  | .unexpectedElement got => "unexpected filter element " ++ got.render
  | .evenLength length => "expected an odd number of elements, got " ++ natText length
  | .combinatorMissing position => "expected a combinator at position " ++ natText position
  | .termMissing position => "expected a condition or group at position " ++ natText position
  | .emptyGroup position => "empty group at position " ++ natText position

def ArgumentRole.word : ArgumentRole → String
  | .column => "column"
  | .relation => "relation"

def ArgumentFault.message : ArgumentFault → String
  | .missing => "missing `args` array"
  | .notArray => "`args` must be an array"
  | .notName index role => "argument " ++ natText index ++ " must be a " ++ role.word ++ " name"
  | .unknownOperator got => "unknown operator " ++ got.render
  | .wrongCount expected got =>
    "expected " ++ natText expected ++ " argument(s), got " ++ natText got
  | .wrongComparisonCount fewest got =>
    "expected " ++ natText fewest ++ " or " ++ natText (fewest + 1) ++ " arguments, got " ++
      natText got
  | .valuesNotArray => "second argument must be an array"

def EntryFault.message : EntryFault → String
  | .notArray got => "relationships must be an array, got " ++ got.render
  | .notEntry got => "expected a string or an object, got " ++ got.render
  | .missingName => "structured entry requires a non-empty `name`"
  | .columnsNotArray name => "`columns` of `" ++ name ++ "` must be an array"
  | .blankName entry => "missing relation name in " ++ quoted entry

def ParameterShape.phrase : ParameterShape → String
  | .columnNames => "an array of column names"
  | .arrayOrNull => "an array or null"
  | .modelName => "a model name"

/-- A string stands for itself; any other value is shown as JSON. -/
def Json.plain : Json → String
  | .text s => s
  | value => value.render

namespace Error

def code : Error → String
  | .malformedFilter _ => "malformed_filter_sequence"
  | .unknownConditionKind _ => "unknown_condition_kind"
  | .invalidArguments _ _ => "invalid_condition_arguments"
  | .unsupportedLoad _ => "unsupported_relation_load"
  | .unsupportedPredicate _ => "unsupported_relation_predicate"
  | .nestingTooDeep _ => "recursion_depth_exceeded"
  | .invalidRelationship _ => "invalid_relationship"
  | .invalidParameter _ _ => "invalid_parameter"
  | .invalidIdentifier _ => "invalid_identifier"
  | .unknownModel _ => "unknown_model"
  | .unknownRelation _ _ => "unknown_relation"
  | .notFound _ _ => "not_found"
  | .unreadableFile => "io_error"
  | .invalidJson => "json_error"
  | .invalidConfig => "config_error"

def message : Error → String
  | .malformedFilter fault => "Malformed filter sequence: " ++ fault.message
  | .unknownConditionKind kind => "Unknown condition kind: " ++ kind.plain
  | .invalidArguments kind fault =>
    "Invalid arguments for `" ++ kind.name ++ "` condition: " ++ fault.message
  | .unsupportedLoad names =>
    "Can't eager load relations using a plain query backend: requested " ++
      ", ".intercalate names ++ "; use a relation-capable backend instead"
  | .unsupportedPredicate name =>
    "Backend does not support relation predicates (`" ++ name ++ "`)"
  | .nestingTooDeep limit => "Nesting depth exceeds the configured maximum of " ++ natText limit
  | .invalidRelationship fault => "Invalid relationship entry: " ++ fault.message
  | .invalidParameter name expected => "Parameter `" ++ name ++ "` must be " ++ expected.phrase
  | .invalidIdentifier text => "Invalid identifier: " ++ quoted text
  | .unknownModel name => "Unknown model: " ++ name
  | .unknownRelation model relation =>
    "Model `" ++ model ++ "` has no relation `" ++ relation ++ "`"
  | .notFound model id => "Record not found: " ++ model ++ " #" ++ id.plain
  | .unreadableFile => "The file cannot be read"
  | .invalidJson => "The text is not the expected JSON"
  | .invalidConfig => "The text is not a configuration"

def hint? : Error → Option String
  | .unsupportedLoad _ => some "relationships require a relation-capable query backend"
  | .nestingTooDeep _ => some "reduce group or relationship nesting"
  | _ => none

/-- The error as an answer: its code, its message and its hint if it has one. -/
def response (error : Error) : Json :=
  .object <|
    [("code", .text error.code), ("message", .text error.message)] ++
      (error.hint?.map fun hint => ("details", Json.text hint)).toList

end Error

end QueryShape
