import Persistence.CommandLine.Words
import Persistence.Mapping
import Persistence.Number.Reading

/-!
# Arguments

The command that a command line asks for: options for the whole program, the name of a
command, and the command's own options and operands.
-/

set_option autoImplicit false

namespace Persistence.CommandLine

-- Powers are those of the core library, whichever other instances are imported.
attribute [local instance (2000)] instPowNat

/-- What is to be compiled. -/
inductive Command where
  /-- Table definitions of the entities, of all if none are named. -/
  | create (entities : List String)
  /-- Table removals of the entities, of all if none are named. -/
  | drop (entities : List String)
  | select (entity : String) (filters : List String) (limit offset : Nat)
  | count (entity : String) (filters : List String)
deriving DecidableEq, Repr

/-- A command with what it works on. -/
structure Arguments where
  schemaPath : String
  keyInference : KeyInference
  command : Command
deriving DecidableEq, Repr

/-- A number of rows: an integer of 64 bits without a minus sign. -/
def rowNumber? (text : String) : Option Nat := Number.naturalBelow? (2 ^ (64 : Nat)) text

def helpRule : OptionRule := { long := "help", short := some 'h', kind := .help }

def programRules : List OptionRule := [
  { long := "schema", short := some 's', kind := .valued, accepts := fun path => path != "" },
  { long := "primary-key-name", short := none, kind := .valued },
  { long := "case-sensitive-keys", short := none, kind := .flag },
  helpRule,
  { long := "version", short := some 'V', kind := .version }]

def filterRule : OptionRule :=
  { long := "where", short := some 'w', kind := .valued, mayRepeat := true }

def rowNumberRule (long : String) : OptionRule :=
  { long, short := none, kind := .valued, accepts := fun text => (rowNumber? text).isSome }

def selectRules : List OptionRule :=
  [filterRule, rowNumberRule "limit", rowNumberRule "offset", helpRule]

/-- The number of rows that an option gives, zero if it is missing. -/
def givenRowNumber (long : String) (given : List Given) : Nat :=
  ((givenValue? long given).bind rowNumber?).getD 0

def commandNames : List String := ["create", "drop", "select", "count", "help"]

/-- What follows the command that explains another one: nothing or the name of a command. -/
def helpOn (words : List String) : Refusal :=
  match words with
  | [] => .help
  | [name] => if commandNames.contains name then .help else .usage
  | _ => .usage

def readCommand (name : String) (words : List String) : Except Refusal Command :=
  match name with
  | "create" => do
      let (_, entities) ← sortWords [helpRule] words.length [] [] words
      .ok (.create entities)
  | "drop" => do
      let (_, entities) ← sortWords [helpRule] words.length [] [] words
      .ok (.drop entities)
  | "select" => do
      let (given, operands) ← sortWords selectRules 1 [] [] words
      match operands with
      | [entity] =>
          .ok (.select entity (givenValues "where" given) (givenRowNumber "limit" given)
            (givenRowNumber "offset" given))
      | _ => .error .usage
  | "count" => do
      let (given, operands) ← sortWords [filterRule, helpRule] 1 [] [] words
      match operands with
      | [entity] => .ok (.count entity (givenValues "where" given))
      | _ => .error .usage
  | "help" => .error (helpOn words)
  | _ => .error .usage

/-- The options before the command, and the command. The value of the last option in front of
the command is judged after the command has been read. -/
def readProgram : List Given → List String → Except Refusal (List Given × Command)
  | _, [] => .error .usage
  | given, word :: rest =>
      match wordMeaning programRules word with
      | .refused refusal => .error refusal
      | .endOfOptions => .error .usage
      | .operand => do
          let command ← readCommand word rest
          .ok (given, command)
      | .complete rule value => do
          let given ← addOption rule value given
          readProgram given rest
      | .needsValue rule =>
          match rest with
          | [] => .error .usage
          | value :: rest =>
              if looksLikeOption value then .error .usage
              else
                match rest with
                | [] => .error .usage
                | next :: more =>
                    match wordMeaning programRules next with
                    | .operand => do
                        let command ← readCommand next more
                        let given ← addOption rule value given
                        .ok (given, command)
                    | _ => do
                        let given ← addOption rule value given
                        readProgram given (next :: more)

def readArguments (words : List String) : Except Refusal Arguments := do
  let (given, command) ← readProgram [] words
  match givenValue? "schema" given with
  | none => .error .usage
  | some schemaPath =>
      .ok {
        schemaPath
        keyInference := {
          name := (givenValue? "primary-key-name" given).getD "id"
          isCaseSensitive := (givenValue? "case-sensitive-keys" given).isSome }
        command }

end Persistence.CommandLine
