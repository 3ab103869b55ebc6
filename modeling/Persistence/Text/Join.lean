/-!
# Joined text

A list of texts written with a separator between neighbours.
-/

set_option autoImplicit false

namespace Persistence.Text

/-- Writes the texts in order, the separator between two neighbours and nowhere else. -/
def joinWith (separator : String) : List String → String
  | [] => ""
  | [last] => last
  | first :: second :: rest => first ++ separator ++ joinWith separator (second :: rest)

@[simp] theorem joinWith_nil (separator : String) : joinWith separator [] = "" := rfl

@[simp] theorem joinWith_singleton (separator text : String) :
    joinWith separator [text] = text := rfl

theorem joinWith_cons_cons (separator first second : String) (rest : List String) :
    joinWith separator (first :: second :: rest) =
      first ++ separator ++ joinWith separator (second :: rest) := rfl

/-- The items in parentheses, separated by a comma and a blank. -/
def parenthesized (items : List String) : String :=
  "(" ++ joinWith ", " items ++ ")"

end Persistence.Text
