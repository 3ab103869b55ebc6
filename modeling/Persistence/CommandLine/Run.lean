import Persistence.CommandLine.Arguments
import Persistence.CommandLine.Filter
import Persistence.Json.Reader
import Persistence.Schema.Codec
import Persistence.Sql.Definition

/-!
# Running a command

From the words of a command line and a way to read files to the statements that the command
compiles to.
-/

set_option autoImplicit false

namespace Persistence.CommandLine

/-- Why a file cannot be read as text. -/
inductive ReadFault where
  | system (words : String) (number : Nat)
  | notText
deriving DecidableEq, Repr

def ReadFault.message : ReadFault → String
  | .system words number => words ++ " (os error " ++ toString number ++ ")"
  | .notText => "stream did not contain valid UTF-8"

/-- Why a command gives no statements. -/
inductive Failure where
  | refused (refusal : Refusal)
  | unreadable (path : String) (fault : ReadFault)
  | invalidSchema
  | filter (filter : String) (fault : FilterFault)
  | compile (error : Error)
deriving DecidableEq

def Failure.message : Failure → String
  | .refused .usage => "invalid command line; see --help"
  | .refused .help => "help"
  | .refused .version => "version"
  | .unreadable path fault => "failed to read schema '" ++ path ++ "': " ++ fault.message
  | .invalidSchema => "invalid schema"
  | .filter words fault => "invalid filter '" ++ words ++ "': " ++ fault.message
  | .compile error => error.message

def readText (openFile : String → Except ReadFault (List UInt8)) (path : String) :
    Except ReadFault String := do
  let bytes ← openFile path
  match Text.ofUtf8 bytes with
  | .ok text => .ok text
  | .error _ => .error .notText

def readSchema (openFile : String → Except ReadFault (List UInt8)) (path : String) :
    Except Failure Schema := do
  let text ← (readText openFile path).mapError (.unreadable path)
  match (Json.read? text).bind Schema.ofJson? with
  | some schema => .ok schema
  | none => .error .invalidSchema

def filterCriterion (catalog : Catalog) (entity filter : String) :
    Except Failure Criterion := do
  let (name, text) ← (splitFilter filter).mapError (.filter filter)
  let field ← (catalog.findField entity name).mapError .compile
  let value ← (fieldValue field text).mapError (.filter filter)
  .ok (.compare name .equal value)

/-- The entities named, or all of the schema if none are. -/
def chosenEntities (catalog : Catalog) (named : List String) : List String :=
  if named.isEmpty then catalog.schema.entityNames else named

def compile (catalog : Catalog) : Command → Except Failure (List Statement)
  | .create entities =>
      (catalog.createTables (chosenEntities catalog entities)).mapError .compile
  | .drop entities =>
      (catalog.dropTables (chosenEntities catalog entities)).mapError .compile
  | .select entity filters limit offset => do
      let criteria ← filters.mapM (filterCriterion catalog entity)
      let statement ←
        (catalog.select { entity, criteria, limit, offset }).mapError .compile
      .ok [statement]
  | .count entity filters => do
      let criteria ← filters.mapM (filterCriterion catalog entity)
      let statement ← (catalog.count { entity, criteria }).mapError .compile
      .ok [statement]

def run (openFile : String → Except ReadFault (List UInt8)) (words : List String) :
    Except Failure (List String) := do
  let arguments ← (readArguments words).mapError .refused
  let schema ← readSchema openFile arguments.schemaPath
  let catalog : Catalog := { schema, keyInference := arguments.keyInference }
  let statements ← compile catalog arguments.command
  .ok (statements.map Statement.render)

/-- The exit code of a run: two for a wrong command line, one for any other failure. -/
def exitCode : Except Failure (List String) → Nat
  | .ok _ => 0
  | .error (.refused .usage) => 2
  | .error (.refused _) => 0
  | .error _ => 1

/-- What a run prints: each statement on a line of its own with an end mark. -/
def output : Except Failure (List String) → String
  | .ok statements => String.join (statements.map fun statement => statement ++ ";\n")
  | .error _ => ""

end Persistence.CommandLine
