import TypedSql.Connection.Config
import TypedSql.Text.Percent

/-!
# Connection URLs

A connection URL is a scheme, the name of a file and, after a question mark, parameters.

## Main definitions

* `ConnectionUrl` — the parts of a URL.
* `ConnectionUrl.fileName?` — the name of the file, if the parameters are known.
-/

set_option autoImplicit false

namespace TypedSql

/-- The name of a database and its parameters. -/
structure ConnectionUrl where
  name : String
  parameters : Option String
  deriving DecidableEq, Repr

namespace ConnectionUrl

/-- Splits a URL: the scheme is dropped, first with two slashes after it and then without them, and
the name ends at the first question mark. -/
def parse (url : String) : ConnectionUrl :=
  let cs := Text.dropRepeated "sqlite:".toList (Text.dropRepeated "sqlite://".toList url.toList)
  { name := String.ofList (cs.takeWhile (· != '?'))
    parameters := match cs.dropWhile (· != '?') with
      | _ :: rest => some (String.ofList rest)
      | [] => none }

/-- The parameters and, where they are restricted, their values. -/
def knownParameters : List (String × Option (List String)) :=
  [("mode", some ["ro", "rw", "rwc", "memory"]), ("cache", some ["private", "shared"]),
    ("immutable", some ["true", "1", "false", "0"]), ("vfs", none)]

/-- Whether a parameter is known and has one of its values. -/
def isKnown (name value : Option String) : Bool :=
  match name.bind fun n => knownParameters.lookup n with
  | none => false
  | some none => true
  | some (some values) => value.any (values.contains ·)

/-- Whether all parameters are known. -/
def parametersKnown (u : ConnectionUrl) : Bool :=
  (Text.formFields (u.parameters.getD "")).all fun (name, value) => isKnown name value

/-- The name of the file. There is none if the name is no UTF-8 or a parameter is unknown. -/
def fileName? (u : ConnectionUrl) : Option String := do
  let name ← Text.decodeUtf8? (Text.percentDecode (Text.utf8Bytes u.name))
  guard u.parametersKnown
  return name

end ConnectionUrl

/-- The name of the file that the settings connect to, if their URL can be read. -/
def ConnectionConfig.fileName? (c : ConnectionConfig) : Option String :=
  (ConnectionUrl.parse c.url).fileName?

end TypedSql
