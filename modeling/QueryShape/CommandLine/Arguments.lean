/-!
# Command line arguments

Options have long names and take their value from the next argument or after an equals
sign.  The next argument is no value when it looks like an option itself.  No option
may be given twice, paths may not be empty, and the first fault or request for help
decides.  Unless the default configuration is to be written, data and model are needed.
-/

namespace QueryShape

def defaultConfigPath : String := "./config.toml"

/-- What the arguments ask for; options that are not given are absent. -/
structure Arguments where
  config : Option String := none
  initConfig : Bool := false
  data : Option String := none
  model : Option String := none
  params : Option String := none
  id : Option String := none
deriving DecidableEq

/-- What one answer needs, with the defaults filled in. -/
structure Lookup where
  config : String
  data : String
  model : String
  params : String
  id : Option String
deriving DecidableEq

inductive Invocation where
  | help
  | version
  | writeConfig (path : String)
  | answer (lookup : Lookup)
deriving DecidableEq

namespace Arguments

/-- Whether an argument cannot be the value of the option before it. -/
def looksLikeOption (arg : String) : Bool :=
  match arg.toList with
  | '-' :: _ :: _ => true
  | _ => false

/-- Gives an option its value. -/
def give? (args : Arguments) (name value : String) : Option Arguments :=
  match name with
  | "config" =>
    if args.config.isSome || value.isEmpty then none else some { args with config := value }
  | "data" => if args.data.isSome || value.isEmpty then none else some { args with data := value }
  | "model" => if args.model.isSome then none else some { args with model := value }
  | "params" => if args.params.isSome then none else some { args with params := value }
  | "id" => if args.id.isSome then none else some { args with id := value }
  | _ => none

def takesValue (name : String) : Bool :=
  name ∈ ["config", "data", "model", "params", "id"]

/-- What complete arguments ask for. -/
def invocation? (args : Arguments) : Option Invocation :=
  let config := args.config.getD defaultConfigPath
  if args.initConfig then some (.writeConfig config)
  else do
    return .answer {
      config := config
      data := ← args.data
      model := ← args.model
      params := args.params.getD "\x7b\x7d"
      id := args.id }

/-- What a cluster of short options asks for; the first one decides. -/
def short? : List Char → Option Invocation
  | 'h' :: _ => some .help
  | 'V' :: _ => some .version
  | _ => none

/-- Reads the arguments that are left after some have been read. -/
def readFrom? (args : Arguments) : List String → Option Invocation
  | [] => args.invocation?
  | arg :: rest =>
    match arg.toList with
    | ['-', '-'] => if rest.isEmpty then args.invocation? else none
    | '-' :: '-' :: chars =>
      let name := String.ofList (chars.takeWhile (· != '='))
      match chars.dropWhile (· != '=') with
      | _ :: value => do
        readFrom? (← args.give? name (String.ofList value)) rest
      | [] =>
        if name = "help" then some .help
        else if name = "version" then some .version
        else if name = "init-config" then
          if args.initConfig then none else readFrom? { args with initConfig := true } rest
        else if takesValue name then
          match rest with
          | value :: rest =>
            if looksLikeOption value then none
            else do readFrom? (← args.give? name value) rest
          | [] => none
        else none
    | '-' :: c :: chars => short? (c :: chars)
    | _ => none

/-- Reads the arguments of a command line; none is a fault. -/
def read? (arguments : List String) : Option Invocation :=
  readFrom? {} arguments

end Arguments

end QueryShape
