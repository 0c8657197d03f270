/-!
# Joined text

`Text.joined separator parts` writes the parts one after the other with the separator between
neighbours, and nothing before the first or after the last.
-/

set_option autoImplicit false

namespace ModelFactory.Text

/-- The parts in order, with the separator between neighbours. -/
def joined (separator : String) : List String → String
  | [] => ""
  | [part] => part
  | part :: rest => part ++ separator ++ joined separator rest

@[simp] theorem joined_nil (separator : String) : joined separator [] = "" := rfl

@[simp] theorem joined_singleton (separator part : String) : joined separator [part] = part := rfl

/-- Two parts or more: the separator stands after the first. -/
@[simp] theorem joined_cons_cons (separator part next : String) (rest : List String) :
    joined separator (part :: next :: rest) =
      part ++ separator ++ joined separator (next :: rest) := rfl

end ModelFactory.Text
