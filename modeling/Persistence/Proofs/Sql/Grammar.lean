import Persistence.Proofs.Sql.Token
import Persistence.Sql.Statement

/-!
# Reading of selections

A parser for the text of selections. It works on tokens and never looks back: what a row of
tokens means is decided by its first ones. Numbers are read as decimals, so that a whole
number and a float of the same digits are one literal.
-/

set_option autoImplicit false

namespace Persistence.Sql

/-! ## Literals -/

def natural? (digits : List Char) : Option Nat :=
  if digits ≠ [] ∧ digits.all Char.isDigit = true then some (Nat.ofDigitChars 10 digits 0)
  else none

/-- A decimal without its sign: digits, and more digits behind a point if there is one. -/
def magnitude? (negative : Bool) (characters : List Char) : Option Decimal :=
  let whole := characters.takeWhile Char.isDigit
  match characters.dropWhile Char.isDigit with
  | [] => (natural? whole).map fun coefficient => ⟨negative, coefficient, 0⟩
  | '.' :: fraction =>
      if whole = [] ∨ fraction = [] then none
      else (natural? (whole ++ fraction)).map fun coefficient =>
        ⟨negative, coefficient, -(fraction.length : Int)⟩
  | _ => none

def decimal? : List Char → Option Decimal
  | '-' :: characters => magnitude? true characters
  | characters => magnitude? false characters

def literal? : Token → Option Literal
  | .keyword .null => some .null
  | .numeral characters => (decimal? characters).map fun decimal => .real (.finite decimal)
  | .text contents => some (.text (String.ofList contents))
  | .blob digits => (Text.Hexadecimal.decodePairs? digits).map .blob
  | _ => none

/-- The literals behind another one, up to the closing parenthesis. -/
def moreLiterals? : List Token → Option (List Literal × List Token)
  | .mark ')' :: rest => some ([], rest)
  | .mark ',' :: token :: rest => do
      let value ← literal? token
      let (values, rest) ← moreLiterals? rest
      some (value :: values, rest)
  | _ => none

def literals? : List Token → Option (List Literal × List Token)
  | .mark ')' :: rest => some ([], rest)
  | token :: rest => do
      let value ← literal? token
      let (values, rest) ← moreLiterals? rest
      some (value :: values, rest)
  | [] => none

/-! ## Conditions -/

def comparison? : List Token → Option (Comparison × List Token)
  | .mark '=' :: rest => some (.equal, rest)
  | .mark '<' :: .mark '>' :: rest => some (.notEqual, rest)
  | .mark '<' :: .mark '=' :: rest => some (.lessOrEqual, rest)
  | .mark '<' :: rest => some (.less, rest)
  | .mark '>' :: .mark '=' :: rest => some (.greaterOrEqual, rest)
  | .mark '>' :: rest => some (.greater, rest)
  | _ => none

def predicate? (column : String) : List Token → Option (Condition × List Token)
  | .keyword .is :: .keyword .null :: rest => some (.isNull column, rest)
  | .keyword .is :: .keyword .not :: .keyword .null :: rest => some (.isNotNull column, rest)
  | .keyword .like :: pattern :: rest => do
      let pattern ← literal? pattern
      some (.like column pattern, rest)
  | .keyword .between :: low :: .keyword .and :: high :: rest => do
      let low ← literal? low
      let high ← literal? high
      some (.between column low high, rest)
  | .keyword .isIn :: .mark '(' :: rest => do
      let (values, rest) ← literals? rest
      some (.isIn column values, rest)
  | .keyword .not :: .keyword .isIn :: .mark '(' :: rest => do
      let (values, rest) ← literals? rest
      some (.isNotIn column values, rest)
  | rest =>
      match comparison? rest with
      | some (comparison, value :: rest) => do
          let value ← literal? value
          some (.compare column comparison value, rest)
      | _ => none

def closing? : List Token → Option (List Token)
  | .mark ')' :: rest => some rest
  | _ => none

def condition? : Nat → List Token → Option (Condition × List Token)
  | 0, _ => none
  | depth + 1, .mark '(' :: rest => do
      let (left, rest) ← condition? depth rest
      match rest with
      | .keyword .and :: rest => do
          let (right, rest) ← condition? depth rest
          let rest ← closing? rest
          some (.both left right, rest)
      | .keyword .or :: rest => do
          let (right, rest) ← condition? depth rest
          let rest ← closing? rest
          some (.either left right, rest)
      | _ => none
  | _ + 1, .word column :: rest => predicate? (String.ofList column) rest
  | _ + 1, _ => none

/-- At most the given number of conditions, each nested less deep than the bound. -/
def conditions? (depth : Nat) : Nat → List Token → Option (List Condition × List Token)
  | 0, _ => none
  | count + 1, rest => do
      let (first, rest) ← condition? depth rest
      match rest with
      | .keyword .and :: rest => do
          let (others, rest) ← conditions? depth count rest
          some (first :: others, rest)
      | rest => some ([first], rest)

/-! ## Selections -/

/-- The conditions on the rows, none if they are not restricted. No text is nested deeper, and
none has more conditions, than it has tokens. -/
def restriction? : List Token → Option (List Condition × List Token)
  | .keyword .whereRows :: rest => conditions? rest.length rest.length rest
  | rest => some ([], rest)

/-- The page at the end of a selection, if it has one. -/
def page? : List Token → Option (Option Page)
  | [] => some none
  | [.keyword .limit, .numeral limit, .keyword .offset, .numeral offset] => do
      let limit ← natural? limit
      let offset ← natural? offset
      some (some ⟨limit, offset⟩)
  | _ => none

def selection? : List Token → Option Statement
  | .keyword .select :: .mark '*' :: .keyword .fromTable :: .word table :: rest => do
      let (conditions, rest) ← restriction? rest
      let page ← page? rest
      some (.select .rows (String.ofList table) conditions page)
  | _ => none

def parse? (text : String) : Option Statement := selection? (tokens text)

end Persistence.Sql
