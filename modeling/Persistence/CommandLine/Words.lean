/-!
# Words of a command line

Options and operands among the words of a command line. An option has a long name and may
have a short one; its value is attached to the word or is the next word, which then may not
look like an option. Two hyphens alone end the options.
-/

set_option autoImplicit false

namespace Persistence.CommandLine

/-- Why a command line is not carried out. -/
inductive Refusal where
  | usage
  | help
  | version
deriving DecidableEq, Repr

/-- What an option is followed by or leads to. -/
inductive OptionKind where
  | valued
  | flag
  | help
  | version
deriving DecidableEq, Repr

/-- An option. -/
structure OptionRule where
  /-- Its long name, without hyphens. -/
  long : String
  short : Option Char
  kind : OptionKind
  mayRepeat : Bool := false
  accepts : String → Bool := fun _ => true

/-- An option as given, with its value; a flag has an empty one. -/
structure Given where
  long : String
  value : String
deriving DecidableEq, Repr

/-- What a word says about options. -/
inductive WordMeaning where
  | operand
  | endOfOptions
  | complete (rule : OptionRule) (value : String)
  | needsValue (rule : OptionRule)
  | refused (refusal : Refusal)

/-- The meaning of an option without its value, or with a value attached. -/
def meaningOf (rule : OptionRule) (attached : Option String) : WordMeaning :=
  match rule.kind, attached with
  | .valued, some value => .complete rule value
  | .valued, none => .needsValue rule
  | .flag, none => .complete rule ""
  | .help, none => .refused .help
  | .version, none => .refused .version
  | _, some _ => .refused .usage

/-- The meaning of a word that begins with two hyphens, given what follows them. -/
def longMeaning (rules : List OptionRule) (characters : List Char) : WordMeaning :=
  let (name, rest) := characters.span fun character => character != '='
  match rules.find? fun rule => rule.long.toList == name with
  | none => .refused .usage
  | some rule =>
      meaningOf rule (match rest with
        | [] => none
        | _ :: value => some (String.ofList value))

/-- The meaning of a word that begins with one hyphen, given what follows it. Whatever follows
the letter of an option with a value is that value, without an equals sign in front. -/
def shortMeaning (rules : List OptionRule) (letter : Char) (rest : List Char) : WordMeaning :=
  match rules.find? fun rule => rule.short == some letter with
  | none => .refused .usage
  | some rule =>
      match rule.kind, rest with
      | .valued, '=' :: value => .complete rule (String.ofList value)
      | .valued, [] => .needsValue rule
      | .valued, value => .complete rule (String.ofList value)
      | _, [] => meaningOf rule none
      | .flag, _ => .refused .usage
      | _, _ => meaningOf rule none

/-- The meaning of a word. A hyphen alone is an operand. -/
def wordMeaning (rules : List OptionRule) (word : String) : WordMeaning :=
  match word.toList with
  | ['-', '-'] => .endOfOptions
  | '-' :: '-' :: characters => longMeaning rules characters
  | '-' :: letter :: rest => shortMeaning rules letter rest
  | _ => .operand

/-- Whether the word looks like an option, so that it is no value. -/
def looksLikeOption (word : String) : Bool :=
  match word.toList with
  | '-' :: _ :: _ => true
  | _ => false

/-- Adds an option to those given before it. A second one is refused unless it may be
repeated, and so is a value that the option does not take. -/
def addOption (rule : OptionRule) (value : String) (given : List Given) :
    Except Refusal (List Given) :=
  if !rule.mayRepeat && given.any fun earlier => earlier.long == rule.long then .error .usage
  else if !rule.accepts value then .error .usage
  else .ok (given ++ [⟨rule.long, value⟩])

def givenValue? (long : String) (given : List Given) : Option String :=
  (given.find? fun option => option.long == long).map Given.value

def givenValues (long : String) (given : List Given) : List String :=
  (given.filter fun option => option.long == long).map Given.value

/-- Splits words into options and operands, of which there may be `room` at most. -/
def sortWords (rules : List OptionRule) :
    Nat → List Given → List String → List String → Except Refusal (List Given × List String)
  | _, given, operands, [] => .ok (given, operands)
  | room, given, operands, word :: rest =>
      match wordMeaning rules word with
      | .refused refusal => .error refusal
      | .operand =>
          if operands.length < room then sortWords rules room given (operands ++ [word]) rest
          else .error .usage
      | .endOfOptions =>
          if operands.length + rest.length ≤ room then .ok (given, operands ++ rest)
          else .error .usage
      | .complete rule value => do
          let given ← addOption rule value given
          sortWords rules room given operands rest
      | .needsValue rule =>
          match rest with
          | [] => .error .usage
          | value :: rest =>
              if looksLikeOption value then .error .usage
              else do
                let given ← addOption rule value given
                sortWords rules room given operands rest

end Persistence.CommandLine
