import Persistence.Json.Tree

/-!
# Decoding JSON

How structures and alternatives are held in JSON. A structure is an object whose members may
come in any order and among unknown ones, or an array of its fields in order. An alternative
is its name alone, or an object with the name as its only member.
-/

set_option autoImplicit false

namespace Persistence.Json

/-- The value of the only member of the given name, nothing if there is none. A repeated member
is refused. -/
def member? (name : String) (members : List (Option String × Json)) : Option (Option Json) :=
  match members.filter fun (key, _) => key == some name with
  | [] => some none
  | [(_, value)] => some (some value)
  | _ => none

/-- The values of a structure's fields in order, nothing for each that is missing. Unknown
members are passed over; in an array, excess items are refused. -/
def fields? (names : List String) : Json → Option (List (Option Json))
  | .object members =>
      if members.all fun (key, _) => key.isSome then names.mapM fun name => member? name members
      else none
  | .array items =>
      if items.length ≤ names.length then
        some (items.map some ++ List.replicate (names.length - items.length) none)
      else none
  | _ => none

def required {α : Type} (decode : Json → Option α) (field : Option Json) : Option α :=
  field.bind decode

/-- Decodes a field, a missing one as the given value. -/
def optional {α : Type} (decode : Json → Option α) (missing : α) : Option Json → Option α
  | none => some missing
  | some json => decode json

def nullable {α : Type} (decode : Json → Option α) : Json → Option (Option α)
  | .null => some none
  | json => (decode json).map some

def bool? : Json → Option Bool
  | .bool value => some value
  | _ => none

def text? : Json → Option String
  | .string contents => contents
  | _ => none

/-- The items of an array, each decoded. -/
def list? {α : Type} (decode : Json → Option α) : Json → Option (List α)
  | .array items => items.mapM decode
  | _ => none

def alternative? : Json → Option (String × Option Json)
  | .string contents => contents.map fun name => (name, none)
  | .object [(some name, body)] => some (name, some body)
  | _ => none

/-- Whether nothing comes with an alternative: no body, or null. -/
def isBare : Option Json → Bool
  | none => true
  | some .null => true
  | some _ => false

def tagged (name : String) (body : Json) : Json := record [(name, body)]

end Persistence.Json
