import QueryShape.CommandLine.Arguments
import QueryShape.Service.Basic
import QueryShape.Service.ConfigFile
import QueryShape.Store.Fixture

/-!
# Answers on the command line

A lookup reads its configuration and its data from files and prints one JSON value.
Data that cannot be read, parameters that are no JSON and a model that is no identifier
end it without output; a failure of the request itself is printed.  An id that spells a
JSON value is that value, and any other id is a string.
-/

namespace QueryShape

/-- What a command prints and the code that it exits with. -/
structure Outcome where
  exitCode : Nat
  output : String
deriving DecidableEq

namespace Outcome

def failed : Outcome := ⟨1, ""⟩

def misused : Outcome := ⟨2, ""⟩

def printed (exitCode : Nat) (value : Json) : Outcome :=
  ⟨exitCode, value.renderIndented 0 ++ "\n"⟩

end Outcome

def idOfText (text : String) : Json :=
  (Json.ofText? text).getD (.text text)

namespace Lookup

/-- The answer of a service to the parameters of a lookup. -/
def respond (lookup : Lookup) (service : Service) (store : Store) (params : Json) :
    Except Error Json :=
  match lookup.id with
  | some id => service.answerOne store (idOfText id) params
  | none => service.answerAll store params

/-- The outcome of a lookup, given the texts of its files if they can be read. -/
def outcome (lookup : Lookup) (config data : Option String) : Outcome :=
  match data.map Store.ofText, Json.ofText? lookup.params,
      Service.build (some (Config.load config)) (some lookup.model) with
  | some (.ok store), some params, .ok service =>
    match lookup.respond service store params with
    | .ok answer => .printed 0 answer
    | .error failure => .printed 1 failure.response
  | _, _, _ => .failed

end Lookup

namespace CommandLine

def versionText : String := "api-helper 0.1.0\n"

def helpText : String :=
  "按 API 请求的要求整形 JSON 数据文件\n\n" ++
  "Usage: api-helper [OPTIONS]\n\n" ++
  "Options:\n" ++
  "      --config <CONFIG>  配置文件 [default: ./config.toml]\n" ++
  "      --init-config      将默认配置写入 `--config` 后退出\n" ++
  "      --data <DATA>      包含 `schema` 和 `data` 的 JSON 数据文件\n" ++
  "      --model <MODEL>    要查询的模型\n" ++
  "      --params <PARAMS>  请求参数，JSON 对象 [default: \x7b\x7d]\n" ++
  "      --id <ID>          获取单条记录而不是列表\n" ++
  "  -h, --help             Print help\n" ++
  "  -V, --version          Print version\n"

end CommandLine

end QueryShape
